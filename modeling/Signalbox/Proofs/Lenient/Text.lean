import Signalbox.Lenient.Reader
import Signalbox.Proofs.Json.Text

/-!
# Plain texts in lenient documents

The text that is written between quotes in a plain document is read back from a lenient one, with one
exception: the separators of lines and of paragraphs are written as they are, and in a lenient document they end
a line, which no text goes beyond.

Main results:

* `Lenient.readQuoted_encodeChar`: one character.
* `Lenient.readQuoted_encode`: a text.
-/

namespace Signalbox.Lenient

/-- The characters that end a line of a lenient document and are written as they are in a plain one. -/
def isSeparator (c : Char) : Bool :=
  c = '\u2028' || c = '\u2029'

/-- A text that is on more than one line wherever a lenient document has it as it is. -/
def hasSeparator (s : String) : Bool :=
  s.toList.any isSeparator

/-! ## Characters -/

theorem charOf?_toNat (c : Char) : charOf? c.toNat = some c := by
  rw [charOf?, if_pos (show c.toNat.isValidChar from c.valid), Char.ofNat_toNat]

/-- Characters that are written as they are are read as they are. -/
theorem readQuoted_plain {c : Char} (hquote : c ≠ '"') (hback : c ≠ '\\') (hline : isLineEnd c = false)
    (rest : List Char) : readQuoted '"' (c :: rest) = (readQuoted '"' rest).map (prepend (some c)) := by
  rw [readQuoted]
  · rw [if_neg hquote, if_neg (by simp [hback, hline])]
  · exact fun _ _ _ h => absurd h hback
  · exact fun _ _ _ _ _ h => absurd h hback
  · exact fun _ h => absurd h hback
  · exact fun _ _ h => absurd h hback

/-- What is written for a character is read as the character, unless it is a separator. -/
theorem readQuoted_encodeChar (c : Char) (rest : List Char) :
    readQuoted '"' (Json.encodeChar c ++ rest) =
      if isSeparator c then none else (readQuoted '"' rest).map (prepend (some c)) := by
  by_cases hseparator : isSeparator c
  · rw [if_pos hseparator]
    simp only [isSeparator, Bool.or_eq_true, decide_eq_true_eq] at hseparator
    rcases hseparator with rfl | rfl <;> rfl
  rw [if_neg hseparator]
  unfold Json.encodeChar
  -- the short escapes are read by computation
  split_ifs with hquote hback hb hf hn hr ht hcontrol
  · rw [hquote]
    rfl
  · rw [hback]
    rfl
  · rw [hb]
    rfl
  · rw [hf]
    rfl
  · rw [hn]
    rfl
  · rw [hr]
    rfl
  · rw [ht]
    rfl
  · -- escaped by its number
    obtain ⟨hdigits, hvalue⟩ := Json.ofHexDigits_control (show c.toNat < 32 from hcontrol)
    refine (if_pos hdigits).trans ?_
    rw [hvalue, charOf?_toNat]
    rfl
  · -- written as it is, and no end of a line
    refine readQuoted_plain hquote hback ?_ rest
    simp only [isSeparator, Bool.or_eq_true, decide_eq_true_eq, not_or] at hseparator
    simp [isLineEnd, hn, hr, hseparator.1, hseparator.2]

/-! ## Texts -/

/-- A written text is read back, unless there is a line separator in it. -/
theorem readQuoted_flatMap_encodeChar (cs rest : List Char) :
    readQuoted '"' (cs.flatMap Json.encodeChar ++ '"' :: rest) =
      if cs.any isSeparator then none else some (some cs, rest) := by
  induction cs with
  | nil => rfl
  | cons c cs ih =>
    rw [List.flatMap_cons, List.append_assoc, readQuoted_encodeChar, ih, List.any_cons]
    cases isSeparator c with
    | true => rfl
    | false => cases cs.any isSeparator <;> rfl

/-- A text is read back from what is written for it, up to the closing quote, unless it has a separator. -/
theorem readQuoted_encode (s : String) (rest : List Char) :
    readQuoted '"' (s.toList.flatMap Json.encodeChar ++ '"' :: rest) =
      if hasSeparator s then none else some (some s.toList, rest) :=
  readQuoted_flatMap_encodeChar s.toList rest

end Signalbox.Lenient
