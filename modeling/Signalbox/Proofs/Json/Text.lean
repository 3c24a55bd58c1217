import Mathlib.Tactic.SplitIfs
import Signalbox.Json.Printer
import Signalbox.Json.Reader

/-!
# Texts between quotes

Every text is read back from what is written for it between quotes: each character is one piece, itself or
the unit of its escape, and no escape is half of a surrogate pair.

Main results:

* `Json.readPieces_encodeChar`: one character.
* `Json.readString_encode`: a text.
* `Json.exists_readString_append`: what follows the closing quote does not matter.
-/

namespace Signalbox.Json

/-! ## Characters -/

/-- A piece that stands for a character by itself. -/
def Piece.Denotes (piece : Piece) (c : Char) : Prop :=
  ∀ ending rest, joinPieces ending (piece :: rest) = (joinPieces ending rest).map (c :: ·)

/-- A plain piece stands for its character. -/
theorem denotes_char (c : Char) : (Piece.char c).Denotes c := fun _ _ => by rw [joinPieces]

/-- The number of a control character stands for the character. -/
theorem denotes_unit {c : Char} (h : c < ' ') : (Piece.unit c.toNat).Denotes c := by
  intro ending rest
  have hsmall : c.toNat < 32 := h
  -- a control character is no half of a surrogate pair
  have htrailing : isTrailing c.toNat = false := by
    simp only [isTrailing, Bool.and_eq_false_iff, decide_eq_false_iff_not]
    omega
  have hleading : isLeading c.toNat = false := by
    simp only [isLeading, Bool.and_eq_false_iff, decide_eq_false_iff_not]
    omega
  rw [joinPieces.eq_def]
  dsimp only
  rw [htrailing, hleading, Char.ofNat_toNat]
  rfl

/-- Four hexadecimal digits with two zeros in front give back the number of a control character. -/
theorem ofHexDigits_control {n : Nat} (h : n < 32) :
    ['0', '0', Nat.digitChar (n / 16), Nat.digitChar (n % 16)].all Text.isHexDigit = true ∧
      Text.ofHexDigits ['0', '0', Nat.digitChar (n / 16), Nat.digitChar (n % 16)] = n := by
  have hall : ∀ n < 32, ['0', '0', Nat.digitChar (n / 16), Nat.digitChar (n % 16)].all Text.isHexDigit = true ∧
      Text.ofHexDigits ['0', '0', Nat.digitChar (n / 16), Nat.digitChar (n % 16)] = n := by
    decide
  exact hall n h

/-- An escape by number is read as one piece. -/
theorem readPieces_digits {a b c d : Char} (h : [a, b, c, d].all Text.isHexDigit = true) (rest : List Char) :
    readPieces ('\\' :: 'u' :: a :: b :: c :: d :: rest) =
      (.unit (Text.ofHexDigits [a, b, c, d]) :: (readPieces rest).1, (readPieces rest).2) :=
  if_pos h

/-- A short escape is read as one piece. -/
theorem readPieces_escape {c escaped : Char} (h : shortEscape? c = some escaped) (rest : List Char) :
    readPieces ('\\' :: c :: rest) = (.char escaped :: (readPieces rest).1, (readPieces rest).2) := by
  have hc : c ≠ 'u' := by
    rintro rfl
    exact nomatch h
  rw [readPieces]
  · rw [h]
  · rintro a b c' d rest rfl
    exact absurd rfl hc
  · exact fun h => absurd h hc

/-- A character that needs no escape is read as itself. -/
theorem readPieces_plain {c : Char} (hquote : c ≠ '"') (hback : c ≠ '\\') (h : ¬ c < ' ') (rest : List Char) :
    readPieces (c :: rest) = (.char c :: (readPieces rest).1, (readPieces rest).2) := by
  rw [readPieces]
  · exact if_neg h
  · exact fun _ _ _ _ _ h => absurd h hback
  · exact fun _ h => absurd h hback
  · exact fun _ _ h => absurd h hback
  · exact fun h => absurd h hback
  · exact fun h => absurd h hquote

/-- What is written for a character is read as one piece, which stands for the character. -/
theorem readPieces_encodeChar (c : Char) (rest : List Char) :
    ∃ piece : Piece, piece.Denotes c ∧
      readPieces (encodeChar c ++ rest) = (piece :: (readPieces rest).1, (readPieces rest).2) := by
  unfold encodeChar
  split_ifs with hquote hback hb hf hn hr ht hcontrol
  · exact ⟨.char c, denotes_char c, by rw [hquote]; rfl⟩
  · exact ⟨.char c, denotes_char c, by rw [hback]; rfl⟩
  · exact ⟨.char c, denotes_char c, by rw [hb]; rfl⟩
  · exact ⟨.char c, denotes_char c, by rw [hf]; rfl⟩
  · exact ⟨.char c, denotes_char c, by rw [hn]; rfl⟩
  · exact ⟨.char c, denotes_char c, by rw [hr]; rfl⟩
  · exact ⟨.char c, denotes_char c, by rw [ht]; rfl⟩
  · -- escaped by its number
    obtain ⟨hdigits, hvalue⟩ := ofHexDigits_control (show c.toNat < 32 from hcontrol)
    refine ⟨.unit c.toNat, denotes_unit hcontrol, ?_⟩
    refine (if_pos hdigits).trans ?_
    rw [hvalue]
    rfl
  · refine ⟨.char c, denotes_char c, ?_⟩
    -- written as it is: no quote, no backslash, no control character
    exact readPieces_plain hquote hback hcontrol rest

/-! ## Texts -/

/-- A written text is read to its closing quote, and its pieces are the text. -/
theorem readPieces_encode (s rest : List Char) :
    ∃ pieces, readPieces (s.flatMap encodeChar ++ '"' :: rest) = (pieces, .closed rest) ∧
      joinPieces (.closed rest) pieces = .ok s := by
  induction s with
  | nil => exact ⟨[], rfl, rfl⟩
  | cons c s ih =>
    obtain ⟨pieces, hpieces, hjoin⟩ := ih
    obtain ⟨piece, hpiece, hread⟩ := readPieces_encodeChar c (s.flatMap encodeChar ++ '"' :: rest)
    refine ⟨piece :: pieces, ?_, ?_⟩
    · rw [List.flatMap_cons, List.append_assoc, hread, hpieces]
    · rw [hpiece, hjoin]
      rfl

/-- A text is read back from what is written for it, up to the closing quote. -/
theorem readString_encode (s : String) (rest : List Char) :
    readString (s.toList.flatMap encodeChar ++ '"' :: rest) = .ok (.ok s, rest) := by
  obtain ⟨pieces, hpieces, hjoin⟩ := readPieces_encode s.toList rest
  unfold readString
  rw [hpieces]
  dsimp only
  rw [hjoin]
  change Except.ok (Except.ok (String.ofList s.toList), rest) = _
  rw [String.ofList_toList]

/-! ## What follows the closing quote -/

/-- The pieces up to a closing quote are the same whatever follows it. -/
theorem exists_readPieces_append {cs left : List Char} {pieces : List Piece}
    (h : readPieces cs = (pieces, .closed left)) :
    ∃ text, cs = text ++ left ∧ ∀ left', readPieces (text ++ left') = (pieces, .closed left') := by
  fun_induction readPieces cs generalizing pieces with
  | case1 => cases h
  | case2 a b c d rest hhex pieces' ending hread ih =>
    -- an escape by four digits
    obtain ⟨rfl, rfl⟩ := Prod.mk.inj h
    obtain ⟨text, rfl, htext⟩ := ih hread
    refine ⟨'\\' :: 'u' :: a :: b :: c :: d :: text, rfl, fun left' => ?_⟩
    exact (readPieces_digits hhex (text ++ left')).trans (by rw [htext])
  | case3 => cases h
  | case4 rest _ =>
    unfold missingDigits at h
    split_ifs at h <;> cases h
  | case5 c rest _ _ escaped hescaped pieces' ending hread ih =>
    obtain ⟨rfl, rfl⟩ := Prod.mk.inj h
    obtain ⟨text, rfl, htext⟩ := ih hread
    refine ⟨'\\' :: c :: text, rfl, fun left' => ?_⟩
    exact (readPieces_escape hescaped (text ++ left')).trans (by rw [htext])
  | case6 => cases h
  | case7 => cases h
  | case8 rest =>
    obtain ⟨rfl, hclosed⟩ := Prod.mk.inj h
    obtain rfl := Ending.closed.inj hclosed
    exact ⟨['"'], rfl, fun left' => rfl⟩
  | case9 => cases h
  | case10 c rest hdigits hshort hescape hback hquote hcontrol pieces' ending hread ih =>
    obtain ⟨rfl, rfl⟩ := Prod.mk.inj h
    obtain ⟨text, rfl, htext⟩ := ih hread
    -- every text after a backslash is an escape or none at all
    have hplain : c ≠ '\\' := by
      intro hc
      cases hrest : text ++ left with
      | nil => exact hback hc hrest
      | cons e rest => exact hescape e rest hc hrest
    refine ⟨c :: text, rfl, fun left' => ?_⟩
    exact (readPieces_plain hquote hplain hcontrol (text ++ left')).trans (by rw [htext])

/-- What stands behind the closing quote has no part in the text. -/
theorem joinPieces_closed (left left' : List Char) (pieces : List Piece) :
    joinPieces (.closed left') pieces = joinPieces (.closed left) pieces := by
  -- along the pieces; where they end is looked at in no case
  fun_induction joinPieces (.closed left) pieces with
  | case1 fault h => cases h
  | case2 => rfl
  | case3 c rest ih => rw [joinPieces, ih]
  | case4 n rest htrailing =>
    rw [joinPieces.eq_def]
    exact if_pos htrailing
  | case5 n rest htrailing hleading ih =>
    rw [joinPieces.eq_def]
    exact ((if_neg htrailing).trans (if_pos hleading)).trans (by rw [ih])
  | case6 n htrailing hleading m rest hpair ih =>
    rw [joinPieces.eq_def]
    exact (((if_neg htrailing).trans (if_neg hleading)).trans (if_pos hpair)).trans (by rw [ih])
  | case7 n htrailing hleading m rest hpair =>
    rw [joinPieces.eq_def]
    exact ((if_neg htrailing).trans (if_neg hleading)).trans (if_neg hpair)
  | case8 n htrailing hleading =>
    rw [joinPieces.eq_def]
    exact (if_neg htrailing).trans (if_neg hleading)
  | case9 n htrailing hleading =>
    rw [joinPieces.eq_def]
    exact (if_neg htrailing).trans (if_neg hleading)

/-- A text between quotes is the same whatever follows the closing quote. -/
theorem exists_readString_append {cs left : List Char} {said : Except Fault String}
    (h : readString cs = .ok (said, left)) :
    ∃ text, cs = text ++ left ∧ ∀ left', readString (text ++ left') = .ok (said, left') := by
  unfold readString at h
  obtain ⟨pieces, ending, hpieces⟩ : ∃ pieces ending, readPieces cs = (pieces, ending) := ⟨_, _, rfl⟩
  rw [hpieces] at h
  dsimp only at h
  -- only a text that is closed is read
  split at h
  next left₀ =>
    obtain ⟨rfl, rfl⟩ := Prod.mk.inj (Except.ok.inj h)
    obtain ⟨text, rfl, htext⟩ := exists_readPieces_append hpieces
    refine ⟨text, rfl, fun left' => ?_⟩
    unfold readString
    rw [htext]
    dsimp only
    rw [joinPieces_closed left₀ left']
  next =>
    split at h <;> cases h

end Signalbox.Json
