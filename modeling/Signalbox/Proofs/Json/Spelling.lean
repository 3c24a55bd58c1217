import Signalbox.Proofs.Json.Steps
import Signalbox.Proofs.Json.Text
import Signalbox.Proofs.Json.Token

/-!
# The texts of a document

Which texts spell a document: words, texts between quotes and numbers, lists of items with commas between them, maps of
entries with commas between them, and blanks around everything. The reader finds in a text the document that the text
spells.

Main results:

* `Json.Draft.readValue_of_spells`: a value is read from its text.
* `Json.Draft.read_of_spells`: a whole text.
-/

namespace Signalbox.Json

/-- The text is nothing but blanks. -/
def Blank (cs : List Char) : Prop :=
  ∀ c ∈ cs, isSpace c = true

/-- The texts of a value that is neither a list nor a map. -/
inductive SpellsToken : List Char → Draft → Prop where
  | null : SpellsToken ['n', 'u', 'l', 'l'] .null
  | true : SpellsToken ['t', 'r', 'u', 'e'] (.bool true)
  | false : SpellsToken ['f', 'a', 'l', 's', 'e'] (.bool false)
  | text {cs : List Char} {s : String} (h : readString cs = .ok (.ok s, [])) : SpellsToken ('"' :: cs) (.str s)
  | unfitText {cs : List Char} {fault : Fault} (h : readString cs = .ok (.error fault, [])) :
    SpellsToken ('"' :: cs) (.unfit fault)
  | number {cs : List Char} {parts : Number.Parts} {n : Number} (h : readParts cs = .ok (parts, []))
    (hn : Number.ofParts? parts = some n) : SpellsToken cs (.num n)
  | unfitNumber {cs : List Char} {parts : Number.Parts} (h : readParts cs = .ok (parts, []))
    (hn : Number.ofParts? parts = none) : SpellsToken cs (.unfit .outOfRange)

/-- The texts of a key: a text between quotes, with blanks around it. -/
def SpellsKey (cs : List Char) (key : Except Fault String) : Prop :=
  ∃ front text back, Blank front ∧ readString text = .ok (key, []) ∧ Blank back ∧ cs = front ++ '"' :: (text ++ back)

mutual

/-- The texts of a document, with blanks around it. -/
inductive Spells : List Char → Draft → Prop where
  | token {front cs back : List Char} {draft : Draft} (hfront : Blank front) (h : SpellsToken cs draft)
    (hback : Blank back) : Spells (front ++ (cs ++ back)) draft
  | noItems {front gap back : List Char} (hfront : Blank front) (hgap : Blank gap) (hback : Blank back) :
    Spells (front ++ '[' :: (gap ++ ']' :: back)) (.list [] none)
  | list {front cs back : List Char} {items : List Draft} (hfront : Blank front) (h : SpellsItems cs items)
    (hback : Blank back) : Spells (front ++ '[' :: (cs ++ ']' :: back)) (.list items none)
  | noEntries {front gap back : List Char} (hfront : Blank front) (hgap : Blank gap) (hback : Blank back) :
    Spells (front ++ '\x7b' :: (gap ++ '\x7d' :: back)) (.map [] none)
  | map {front cs back : List Char} {entries : List (Except Fault String × Draft)} (hfront : Blank front)
    (h : SpellsEntries cs entries) (hback : Blank back) :
    Spells (front ++ '\x7b' :: (cs ++ '\x7d' :: back)) (.map entries none)

/-- The texts of some items, with commas between them. -/
inductive SpellsItems : List Char → List Draft → Prop where
  | one {cs : List Char} {item : Draft} (h : Spells cs item) : SpellsItems cs [item]
  | cons {cs rest : List Char} {item : Draft} {items : List Draft} (h : Spells cs item)
    (hrest : SpellsItems rest items) : SpellsItems (cs ++ ',' :: rest) (item :: items)

/-- The texts of some entries, with commas between them. -/
inductive SpellsEntries : List Char → List (Except Fault String × Draft) → Prop where
  | one {name cs : List Char} {key : Except Fault String} {value : Draft} (hkey : SpellsKey name key)
    (h : Spells cs value) : SpellsEntries (name ++ ':' :: cs) [(key, value)]
  | cons {name cs rest : List Char} {key : Except Fault String} {value : Draft}
    {entries : List (Except Fault String × Draft)} (hkey : SpellsKey name key) (h : Spells cs value)
    (hrest : SpellsEntries rest entries) : SpellsEntries (name ++ ':' :: (cs ++ ',' :: rest)) ((key, value) :: entries)

end

/-! ## Blanks -/

theorem blank_nil : Blank [] := nofun

theorem Blank.append {cs cs' : List Char} (h : Blank cs) (h' : Blank cs') : Blank (cs ++ cs') :=
  List.forall_mem_append.mpr ⟨h, h'⟩

theorem skipSpace_append {gap : List Char} (h : Blank gap) (cs : List Char) : skipSpace (gap ++ cs) = skipSpace cs :=
  List.dropWhile_append_of_pos h

theorem skipSpace_append_cons {gap : List Char} (h : Blank gap) {c : Char} (hc : isSpace c = false) (cs : List Char) :
    skipSpace (gap ++ c :: cs) = c :: cs :=
  (skipSpace_append h _).trans (skipSpace_of_not_isSpace hc cs)

theorem skipSpace_of_blank {gap : List Char} (h : Blank gap) : skipSpace gap = [] := by
  rw [← List.append_nil gap, skipSpace_append h]
  rfl

/-- After the blanks are skipped there are none to skip. -/
theorem skipSpace_skipSpace (cs : List Char) : skipSpace (skipSpace cs) = skipSpace cs := by
  cases hcs : skipSpace cs with
  | nil => rfl
  | cons c rest =>
    refine skipSpace_of_not_isSpace ?_ rest
    have hends := Text.ends_dropWhile isSpace cs
    exact hends c (by rw [show cs.dropWhile isSpace = c :: rest from hcs]; rfl)

/-- A text is its blanks and what follows them. -/
theorem exists_blank_append (cs : List Char) : ∃ gap, Blank gap ∧ cs = gap ++ skipSpace cs :=
  ⟨cs.takeWhile isSpace, fun _ => List.mem_takeWhile_imp, List.takeWhile_append_dropWhile.symm⟩

theorem endsNumber_append {gap rest : List Char} (h : Blank gap) (hrest : EndsNumber rest) :
    EndsNumber (gap ++ rest) := by
  cases gap with
  | nil => exact hrest
  | cons c gap =>
    refine endsNumber_cons ?_ _
    have hc : isSpace c = true := h c List.mem_cons_self
    simp only [isSpace, Bool.or_eq_true, beq_iff_eq] at hc
    rcases hc with ((rfl | rfl) | rfl) | rfl <;> rfl

/-! ## How texts start -/

/-- The text of a value that is neither a list nor a map starts with a character of its own. -/
theorem SpellsToken.startsItem {cs : List Char} {draft : Draft} (h : SpellsToken cs draft) (rest : List Char) :
    StartsItem (cs ++ rest) := by
  have hnumber {parts : Number.Parts} (hparts : readParts cs = .ok (parts, [])) : StartsItem (cs ++ rest) := by
    obtain ⟨c, left, rfl, hc⟩ := exists_cons_of_readParts hparts
    rcases hc with rfl | hc
    · exact startsItem_cons rfl (by decide) _
    · refine startsItem_cons (not_isSpace_of_isAsciiDigit hc) ?_ _
      rintro rfl
      exact absurd hc (by decide)
  -- a word and a text start with a letter or a quote, a number with a digit or a minus
  cases h with
  | null | true | false | text | unfitText => exact startsItem_cons rfl (by decide) _
  | number hparts | unfitNumber hparts => exact hnumber hparts

/-- Behind its blanks, the text of a document starts with a character of its own. -/
theorem Spells.startsItem {cs : List Char} {draft : Draft} (h : Spells cs draft) (rest : List Char) :
    StartsItem (skipSpace (cs ++ rest)) := by
  -- behind the blanks stands the token itself, or the bracket that opens a list or a map
  cases h with
  | token hfront h hback =>
    rw [List.append_assoc, List.append_assoc, skipSpace_append hfront, (h.startsItem _).skipSpace_eq]
    exact h.startsItem _
  | noItems hfront | list hfront =>
    rw [List.append_assoc, List.cons_append, skipSpace_append_cons hfront rfl]
    exact startsItem_cons rfl (by decide) _
  | noEntries hfront | map hfront =>
    rw [List.append_assoc, List.cons_append, skipSpace_append_cons hfront rfl]
    exact startsItem_cons rfl (by decide) _

/-- The text of a document is not empty. -/
theorem Spells.length_pos {cs : List Char} {draft : Draft} (h : Spells cs draft) : 1 ≤ cs.length := by
  obtain ⟨c, rest, hcs, -⟩ := h.startsItem []
  rw [List.append_nil] at hcs
  cases cs with
  | nil => cases hcs
  | cons => exact Nat.le_add_left _ _

/-! ## Blanks around texts -/

/-- Blanks may follow the text of a document. -/
theorem Spells.append {cs gap : List Char} {draft : Draft} (h : Spells cs draft) (hgap : Blank gap) :
    Spells (cs ++ gap) draft := by
  -- each form has blanks at its end, and these are more of them
  cases h with
  | token hfront h hback =>
    rw [List.append_assoc, List.append_assoc]
    exact .token hfront h (hback.append hgap)
  | noItems hfront hbetween hback =>
    rw [List.append_assoc, List.cons_append, List.append_assoc, List.cons_append]
    exact .noItems hfront hbetween (hback.append hgap)
  | list hfront h hback =>
    rw [List.append_assoc, List.cons_append, List.append_assoc, List.cons_append]
    exact .list hfront h (hback.append hgap)
  | noEntries hfront hbetween hback =>
    rw [List.append_assoc, List.cons_append, List.append_assoc, List.cons_append]
    exact .noEntries hfront hbetween (hback.append hgap)
  | map hfront h hback =>
    rw [List.append_assoc, List.cons_append, List.append_assoc, List.cons_append]
    exact .map hfront h (hback.append hgap)

/-- Blanks may stand in front of the text of a document. -/
theorem Spells.prepend {cs gap : List Char} {draft : Draft} (h : Spells cs draft) (hgap : Blank gap) :
    Spells (gap ++ cs) draft := by
  -- each form has blanks at its beginning, and these are more of them
  cases h with
  | token hfront h hback =>
    rw [← List.append_assoc]
    exact .token (hgap.append hfront) h hback
  | noItems hfront hbetween hback =>
    rw [← List.append_assoc]
    exact .noItems (hgap.append hfront) hbetween hback
  | list hfront h hback =>
    rw [← List.append_assoc]
    exact .list (hgap.append hfront) h hback
  | noEntries hfront hbetween hback =>
    rw [← List.append_assoc]
    exact .noEntries (hgap.append hfront) hbetween hback
  | map hfront h hback =>
    rw [← List.append_assoc]
    exact .map (hgap.append hfront) h hback

theorem Spells.ofToken {cs : List Char} {draft : Draft} (h : SpellsToken cs draft) : Spells cs draft := by
  rw [← List.append_nil cs]
  exact .token blank_nil h blank_nil

/-- Blanks may follow the last item. -/
theorem SpellsItems.append : ∀ {cs gap : List Char} {items : List Draft}, SpellsItems cs items → Blank gap →
    SpellsItems (cs ++ gap) items
  | _, _, _, .one h, hgap => .one (h.append hgap)
  | _, _, _, .cons h hrest, hgap => by
    rw [List.append_assoc, List.cons_append]
    exact .cons h (hrest.append hgap)

/-- Blanks may follow the last entry. -/
theorem SpellsEntries.append : ∀ {cs gap : List Char} {entries : List (Except Fault String × Draft)},
    SpellsEntries cs entries → Blank gap → SpellsEntries (cs ++ gap) entries
  | _, _, _, .one hkey h, hgap => by
    rw [List.append_assoc, List.cons_append]
    exact .one hkey (h.append hgap)
  | _, _, _, .cons hkey h hrest, hgap => by
    rw [List.append_assoc, List.cons_append, List.append_assoc, List.cons_append]
    exact .cons hkey h (hrest.append hgap)

/-- Blanks may stand in front of the first item. -/
theorem SpellsItems.prepend {cs gap : List Char} {items : List Draft} (h : SpellsItems cs items) (hgap : Blank gap) :
    SpellsItems (gap ++ cs) items := by
  cases h with
  | one h => exact .one (h.prepend hgap)
  | cons h hrest =>
    rw [← List.append_assoc]
    exact .cons (h.prepend hgap) hrest

/-- Blanks may stand in front of a key. -/
theorem SpellsKey.prepend {cs gap : List Char} {key : Except Fault String} (h : SpellsKey cs key) (hgap : Blank gap) :
    SpellsKey (gap ++ cs) key := by
  obtain ⟨front, text, back, hfront, htext, hback, rfl⟩ := h
  exact ⟨gap ++ front, text, back, hgap.append hfront, htext, hback, (List.append_assoc _ _ _).symm⟩

/-- Blanks may stand in front of the first entry. -/
theorem SpellsEntries.prepend {cs gap : List Char} {entries : List (Except Fault String × Draft)}
    (h : SpellsEntries cs entries) (hgap : Blank gap) : SpellsEntries (gap ++ cs) entries := by
  cases h with
  | one hkey h =>
    rw [← List.append_assoc]
    exact .one (hkey.prepend hgap) h
  | cons hkey h hrest =>
    rw [← List.append_assoc]
    exact .cons (hkey.prepend hgap) h hrest

/-! ## Texts of texts -/

theorem readString_encodeText (s : String) : readString (s.toList.flatMap encodeChar ++ ['"']) = .ok (.ok s, []) :=
  readString_encode s []

/-- What is written for a text spells it. -/
theorem spells_encodeText (s : String) : Spells (encodeText s) (.str s) :=
  .ofToken (.text (readString_encodeText s))

theorem spellsKey_encodeText (key : String) : SpellsKey (encodeText key) (.ok key) :=
  ⟨[], key.toList.flatMap encodeChar ++ ['"'], [], blank_nil, readString_encodeText key, blank_nil,
    by rw [encodeText, List.append_nil]; rfl⟩

/-! ## Texts that are read -/

theorem readString_append {cs : List Char} {said : Except Fault String} (h : readString cs = .ok (said, []))
    (rest : List Char) : readString (cs ++ rest) = .ok (said, rest) := by
  obtain ⟨text, rfl, htext⟩ := exists_readString_append h
  rw [List.append_nil]
  exact htext rest

/-- A key is read from its text, up to the colon. -/
theorem SpellsKey.exists_readString {name : List Char} {key : Except Fault String} (h : SpellsKey name key)
    (rest : List Char) :
    ∃ text gap, skipSpace (name ++ ':' :: rest) = '"' :: text ∧ readString text = .ok (key, gap) ∧
      skipSpace gap = ':' :: rest := by
  obtain ⟨front, text, back, hfront, htext, hback, rfl⟩ := h
  refine ⟨text ++ (back ++ ':' :: rest), back ++ ':' :: rest, ?_, readString_append htext _,
    skipSpace_append_cons hback rfl rest⟩
  simp only [List.append_assoc, List.cons_append]
  exact skipSpace_append_cons hfront rfl _

namespace Draft

theorem readWord_append (word rest : List Char) : readWord word (word ++ rest) = .ok rest := by
  induction word with
  | nil => rfl
  | cons c word ih => exact (if_pos rfl).trans ih

/-- Blanks in front make no difference to a value. -/
theorem readValue_congr {cs cs' : List Char} (h : skipSpace cs = skipSpace cs') (fuel : Nat) :
    readValue fuel cs = readValue fuel cs' := by
  cases fuel with
  | zero => rfl
  | succ fuel =>
    unfold readValue
    rw [h]

/-- Blanks in front make no difference to the items of a list. -/
theorem readItems_congr {cs cs' : List Char} (h : skipSpace cs = skipSpace cs') (fuel : Nat) (first : Bool) :
    readItems fuel first cs = readItems fuel first cs' := by
  cases fuel with
  | zero => rfl
  | succ fuel =>
    unfold readItems
    rw [h]

/-- Blanks in front make no difference to the entries of a map. -/
theorem readEntries_congr {cs cs' : List Char} (h : skipSpace cs = skipSpace cs') (fuel : Nat) (first : Bool) :
    readEntries fuel first cs = readEntries fuel first cs' := by
  cases fuel with
  | zero => rfl
  | succ fuel =>
    unfold readEntries
    rw [h]

/-- A value that is neither a list nor a map is read from its text. -/
theorem readValue_of_spellsToken {cs text rest : List Char} {draft : Draft} (h : SpellsToken cs draft)
    (htext : skipSpace text = cs ++ rest) (hrest : EndsNumber rest) (fuel : Nat) :
    readValue (fuel + 1) text = (draft, some rest) := by
  -- numbers and texts are read alike, whether or not they are fit for use
  have hnumber {parts : Number.Parts} (hparts : readParts cs = .ok (parts, [])) :
      readValue (fuel + 1) text = ofNumber (.ok (parts, rest)) := by
    obtain ⟨c, left, rfl, hc⟩ := exists_cons_of_readParts hparts
    rw [readValue_number htext hc]
    exact congrArg ofNumber (readParts_append hrest hparts)
  have hquoted {body : List Char} {said : Except Fault String} (hbody : readString body = .ok (said, []))
      (hcs : skipSpace text = '"' :: (body ++ rest)) :
      readValue (fuel + 1) text = ofString (.ok (said, rest)) := by
    unfold readValue
    rw [hcs]
    change ofString (readString (body ++ rest)) = _
    rw [readString_append hbody]
  -- a word is read by its letters, a text up to its second quote, and a number as far as it goes
  cases h with
  | null =>
    unfold readValue
    rw [htext]
    change ofWord .null (readWord ['u', 'l', 'l'] (['u', 'l', 'l'] ++ rest)) = _
    rw [readWord_append]
    rfl
  | true =>
    unfold readValue
    rw [htext]
    change ofWord (.bool true) (readWord ['r', 'u', 'e'] (['r', 'u', 'e'] ++ rest)) = _
    rw [readWord_append]
    rfl
  | false =>
    unfold readValue
    rw [htext]
    change ofWord (.bool false) (readWord ['a', 'l', 's', 'e'] (['a', 'l', 's', 'e'] ++ rest)) = _
    rw [readWord_append]
    rfl
  | text hbody => exact hquoted hbody htext
  | unfitText hbody => exact hquoted hbody htext
  | number hparts hn =>
    rw [hnumber hparts, ofNumber, hn]
  | unfitNumber hparts hn =>
    rw [hnumber hparts, ofNumber, hn]

mutual

/-- A value is read from its text, up to the blanks after it. -/
theorem readValue_of_spells : ∀ {cs : List Char} {draft : Draft}, Spells cs draft →
    ∀ {fuel : Nat} {rest : List Char}, cs.length ≤ fuel → EndsNumber rest →
      ∃ back, Blank back ∧ readValue fuel (cs ++ rest) = (draft, some (back ++ rest))
  | _, _, @Spells.token front cs back draft hfront h hback, fuel, rest, hfuel, hrest => by
    have hskip : skipSpace (front ++ (cs ++ back) ++ rest) = cs ++ (back ++ rest) := by
      rw [List.append_assoc, List.append_assoc, skipSpace_append hfront, (h.startsItem _).skipSpace_eq]
    -- one step is enough for a token, and its blanks are left to whoever reads on
    have hpos := (Spells.token hfront h hback).length_pos
    obtain ⟨fuel, rfl⟩ : ∃ n, fuel = n + 1 := Nat.exists_eq_add_one.mpr (by omega)
    exact ⟨back, hback, readValue_of_spellsToken h hskip (endsNumber_append hback hrest) fuel⟩
  | _, _, @Spells.noItems front gap back hfront hgap hback, fuel, rest, hfuel, _ => by
    have hskip : skipSpace (front ++ '[' :: (gap ++ ']' :: back) ++ rest) = '[' :: (gap ++ ']' :: (back ++ rest)) := by
      simp only [List.append_assoc, List.cons_append]
      exact skipSpace_append_cons hfront rfl _
    simp only [List.length_append, List.length_cons] at hfuel
    obtain ⟨fuel, rfl⟩ : ∃ n, fuel = n + 2 := ⟨fuel - 2, by omega⟩
    -- one step for the bracket and one for the end of the list
    exact ⟨back, hback, readValue_list hskip (readItems_close (skipSpace_append_cons hgap rfl _))⟩
  | _, _, @Spells.list front cs back items hfront h hback, fuel, rest, hfuel, _ => by
    have hskip : skipSpace (front ++ '[' :: (cs ++ ']' :: back) ++ rest) = '[' :: (cs ++ ']' :: (back ++ rest)) := by
      simp only [List.append_assoc, List.cons_append]
      exact skipSpace_append_cons hfront rfl _
    simp only [List.length_append, List.length_cons] at hfuel
    obtain ⟨fuel, rfl⟩ : ∃ n, fuel = n + 1 := ⟨fuel - 1, by omega⟩
    exact ⟨back, hback, readValue_list hskip (readItems_of_spells h (by omega)).1⟩
  | _, _, @Spells.noEntries front gap back hfront hgap hback, fuel, rest, hfuel, _ => by
    have hskip : skipSpace (front ++ '\x7b' :: (gap ++ '\x7d' :: back) ++ rest) =
        '\x7b' :: (gap ++ '\x7d' :: (back ++ rest)) := by
      simp only [List.append_assoc, List.cons_append]
      exact skipSpace_append_cons hfront rfl _
    simp only [List.length_append, List.length_cons] at hfuel
    obtain ⟨fuel, rfl⟩ : ∃ n, fuel = n + 2 := ⟨fuel - 2, by omega⟩
    -- one step for the brace and one for the end of the map
    exact ⟨back, hback, readValue_map hskip (readEntries_close (skipSpace_append_cons hgap rfl _))⟩
  | _, _, @Spells.map front cs back entries hfront h hback, fuel, rest, hfuel, _ => by
    have hskip : skipSpace (front ++ '\x7b' :: (cs ++ '\x7d' :: back) ++ rest) =
        '\x7b' :: (cs ++ '\x7d' :: (back ++ rest)) := by
      simp only [List.append_assoc, List.cons_append]
      exact skipSpace_append_cons hfront rfl _
    simp only [List.length_append, List.length_cons] at hfuel
    obtain ⟨fuel, rfl⟩ : ∃ n, fuel = n + 1 := ⟨fuel - 1, by omega⟩
    exact ⟨back, hback, readValue_map hskip (readEntries_of_spells h (by omega)).1⟩

/-- Items are read from their text up to the end of the list, at its beginning and after a comma. -/
theorem readItems_of_spells : ∀ {cs : List Char} {items : List Draft}, SpellsItems cs items →
    ∀ {fuel : Nat} {rest : List Char}, cs.length < fuel →
      readItems fuel true (cs ++ ']' :: rest) = (items, none, some rest) ∧
        readItems fuel false (',' :: (cs ++ ']' :: rest)) = (items, none, some rest)
  | _, _, @SpellsItems.one cs item h, fuel, rest, hfuel => by
    have hpos := h.length_pos
    obtain ⟨fuel, rfl⟩ : ∃ n, fuel = n + 2 := ⟨fuel - 2, by omega⟩
    obtain ⟨back, hback, hitem⟩ :=
      @readValue_of_spells _ _ h (fuel + 1) (']' :: rest) (by omega) (endsNumber_cons rfl rest)
    have htail : readItems (fuel + 1) false (back ++ ']' :: rest) = ([], none, some rest) :=
      readItems_close (skipSpace_append_cons hback rfl rest)
    exact ⟨readItems_first rfl (h.startsItem _) ((readValue_congr (skipSpace_skipSpace _) _).trans hitem) htail,
      readItems_next (h.startsItem _) hitem htail⟩
  | _, _, @SpellsItems.cons cs others item items h hothers, fuel, rest, hfuel => by
    simp only [List.length_append, List.length_cons] at hfuel
    obtain ⟨fuel, rfl⟩ : ∃ n, fuel = n + 1 := ⟨fuel - 1, by omega⟩
    obtain ⟨back, hback, hitem⟩ :=
      @readValue_of_spells _ _ h fuel (',' :: (others ++ ']' :: rest)) (by omega) (endsNumber_cons rfl _)
    -- the blanks after an item do not count
    have htail : readItems fuel false (back ++ ',' :: (others ++ ']' :: rest)) = (items, none, some rest) :=
      (readItems_congr (skipSpace_append hback _) fuel false).trans (readItems_of_spells hothers (by omega)).2
    rw [List.append_assoc, List.cons_append]
    exact ⟨readItems_first rfl (h.startsItem _) ((readValue_congr (skipSpace_skipSpace _) _).trans hitem) htail,
      readItems_next (h.startsItem _) hitem htail⟩

/-- Entries are read from their text up to the end of the map, at its beginning and after a comma. -/
theorem readEntries_of_spells : ∀ {cs : List Char} {entries : List (Except Fault String × Draft)},
    SpellsEntries cs entries → ∀ {fuel : Nat} {rest : List Char}, cs.length < fuel →
      readEntries fuel true (cs ++ '\x7d' :: rest) = (entries, none, some rest) ∧
        readEntries fuel false (',' :: (cs ++ '\x7d' :: rest)) = (entries, none, some rest)
  | _, _, @SpellsEntries.one name cs key value hkey h, fuel, rest, hfuel => by
    have hpos := h.length_pos
    simp only [List.length_append, List.length_cons] at hfuel
    obtain ⟨fuel, rfl⟩ : ∃ n, fuel = n + 2 := ⟨fuel - 2, by omega⟩
    -- blanks behind the last value belong to it
    obtain ⟨back, hback, hvalue⟩ :=
      @readValue_of_spells _ _ h (fuel + 1) ('\x7d' :: rest) (by omega) (endsNumber_cons rfl rest)
    have htail : readEntries (fuel + 1) false (back ++ '\x7d' :: rest) = ([], none, some rest) :=
      readEntries_close (skipSpace_append_cons hback rfl rest)
    obtain ⟨text, gap, hquote, hread, hcolon⟩ := hkey.exists_readString (cs ++ '\x7d' :: rest)
    rw [List.append_assoc, List.cons_append]
    exact ⟨readEntries_first hquote hread hcolon hvalue htail, readEntries_next hquote hread hcolon hvalue htail⟩
  | _, _, @SpellsEntries.cons name cs others key value entries hkey h hothers, fuel, rest, hfuel => by
    simp only [List.length_append, List.length_cons] at hfuel
    obtain ⟨fuel, rfl⟩ : ∃ n, fuel = n + 1 := ⟨fuel - 1, by omega⟩
    -- the reader goes on behind the value, at the comma
    obtain ⟨back, hback, hvalue⟩ :=
      @readValue_of_spells _ _ h fuel (',' :: (others ++ '\x7d' :: rest)) (by omega) (endsNumber_cons rfl _)
    have htail : readEntries fuel false (back ++ ',' :: (others ++ '\x7d' :: rest)) = (entries, none, some rest) :=
      (readEntries_congr (skipSpace_append hback _) fuel false).trans (readEntries_of_spells hothers (by omega)).2
    obtain ⟨text, gap, hquote, hread, hcolon⟩ := hkey.exists_readString (cs ++ ',' :: (others ++ '\x7d' :: rest))
    simp only [List.append_assoc, List.cons_append]
    exact ⟨readEntries_first hquote hread hcolon hvalue htail, readEntries_next hquote hread hcolon hvalue htail⟩

end

/-- The reader finds in a text the document that the text spells. -/
theorem read_of_spells {text : String} {draft : Draft} (h : Spells text.toList draft) : read text = (draft, none) := by
  obtain ⟨back, hback, hvalue⟩ :=
    @readValue_of_spells _ _ h (2 * text.toList.length + 2) [] (by omega) endsNumber_nil
  -- the value ends where the text does, apart from blanks
  rw [List.append_nil, List.append_nil] at hvalue
  unfold read
  dsimp only
  rw [hvalue]
  dsimp only
  rw [skipSpace_of_blank hback]
  rfl

end Draft

end Signalbox.Json
