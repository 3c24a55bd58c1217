import Mathlib.Tactic.SplitIfs
import Signalbox.Json.Reader

/-!
# Steps of the reader

What one call of the reader does: a value by the character it starts with, an item of a list and an entry of a map
with what separates it from the one before. Each step is said in both directions, how it is read when the text goes
on as it should (`readItems_next` and the like) and what can have been read (`readItems_succ`, `readEntries_succ`).
-/

namespace Signalbox.Json

/-! ## Blanks -/

theorem skipSpace_of_not_isSpace {c : Char} (h : isSpace c = false) (cs : List Char) :
    skipSpace (c :: cs) = c :: cs :=
  List.dropWhile_cons_of_neg (by rw [h]; exact Bool.false_ne_true)

/-- The text starts with a character that is no blank and does not end a list. -/
def StartsItem (cs : List Char) : Prop :=
  ∃ c rest, cs = c :: rest ∧ isSpace c = false ∧ c ≠ ']'

theorem startsItem_cons {c : Char} (hspace : isSpace c = false) (hbracket : c ≠ ']') (rest : List Char) :
    StartsItem (c :: rest) :=
  ⟨c, rest, rfl, hspace, hbracket⟩

theorem StartsItem.skipSpace_eq {cs : List Char} (h : StartsItem cs) : skipSpace cs = cs := by
  obtain ⟨c, rest, rfl, hspace, -⟩ := h
  exact skipSpace_of_not_isSpace hspace rest

namespace Draft

/-! ## Steps that go on -/

section

variable {fuel : Nat} {cs rest left : List Char} {c : Char} {stop : Option Stop} {beyond : Option (List Char)}

theorem start_of_cons_eq {d : Char} {left : List Char} (heq : c :: rest = d :: left)
    (hc : c = '-' ∨ Text.isAsciiDigit c) : d = '-' ∨ Text.isAsciiDigit d :=
  (List.cons.inj heq).1 ▸ hc

/-- A minus or a digit in front says that the value is a number. -/
theorem readValue_number (hcs : skipSpace cs = c :: rest) (hc : c = '-' ∨ Text.isAsciiDigit c) :
    readValue (fuel + 1) cs = ofNumber (readParts (c :: rest)) := by
  rw [readValue.eq_def]
  dsimp only
  rw [hcs]
  split
  -- the first character rules out the values of every other kind
  next heq => exact nomatch heq
  next heq => exact absurd (start_of_cons_eq heq hc) (by decide)
  next heq => exact absurd (start_of_cons_eq heq hc) (by decide)
  next heq => exact absurd (start_of_cons_eq heq hc) (by decide)
  next heq => exact absurd (start_of_cons_eq heq hc) (by decide)
  next heq => exact absurd (start_of_cons_eq heq hc) (by decide)
  next heq => exact absurd (start_of_cons_eq heq hc) (by decide)
  next heq =>
    obtain ⟨rfl, rfl⟩ := List.cons.inj heq
    exact if_pos hc

/-- A bracket in front says that the value is a list, and its items follow. -/
theorem readValue_list {items : List Draft} (hcs : skipSpace cs = '[' :: rest)
    (hitems : readItems fuel true rest = (items, stop, beyond)) :
    readValue (fuel + 1) cs = (.list items stop, beyond) := by
  rw [readValue.eq_def]
  dsimp only
  rw [hcs]
  change (Draft.list (readItems fuel true rest).1 (readItems fuel true rest).2.1, (readItems fuel true rest).2.2) = _
  rw [hitems]

/-- A brace in front says that the value is a map, and its entries follow. -/
theorem readValue_map {entries : List (Except Fault String × Draft)} (hcs : skipSpace cs = '\x7b' :: rest)
    (hentries : readEntries fuel true rest = (entries, stop, beyond)) :
    readValue (fuel + 1) cs = (.map entries stop, beyond) := by
  rw [readValue.eq_def]
  dsimp only
  rw [hcs]
  change (Draft.map (readEntries fuel true rest).1 (readEntries fuel true rest).2.1,
    (readEntries fuel true rest).2.2) = _
  rw [hentries]

/-- The bracket that closes a list ends its items. -/
theorem readItems_close {first : Bool} (hcs : skipSpace cs = ']' :: rest) :
    readItems (fuel + 1) first cs = ([], none, some rest) := by
  unfold readItems
  rw [hcs]
  rfl

/-- The first item of a list is read where the list begins. -/
theorem readItems_first {text : List Char} {item : Draft} {items : List Draft} (hcs : skipSpace cs = text)
    (htext : StartsItem text) (hitem : readValue fuel text = (item, some left))
    (hitems : readItems fuel false left = (items, stop, beyond)) :
    readItems (fuel + 1) true cs = (item :: items, stop, beyond) := by
  obtain ⟨c, rest, rfl, -, hc⟩ := htext
  rw [readItems.eq_def]
  dsimp only
  rw [hcs]
  dsimp only
  -- the list does not close here, and a first item needs no comma
  rw [if_neg hc, if_neg (by simp), if_neg (by simp), if_pos rfl, hitem]
  dsimp only
  rw [hitems]

/-- Each other item is read behind a comma. -/
theorem readItems_next {item : Draft} {items : List Draft} (hcs : StartsItem (skipSpace cs))
    (hitem : readValue fuel cs = (item, some left))
    (hitems : readItems fuel false left = (items, stop, beyond)) :
    readItems (fuel + 1) false (',' :: cs) = (item :: items, stop, beyond) := by
  obtain ⟨c, rest, hcs, -, hc⟩ := hcs
  rw [readItems.eq_def]
  dsimp only
  rw [skipSpace_of_not_isSpace rfl]
  dsimp only
  -- behind the comma there is an item, and not the end of the list
  rw [if_neg (by decide), if_neg (by simp), hcs, if_neg (by simpa using hc), if_neg (by simp), hitem]
  dsimp only
  rw [hitems]

/-- The brace that closes a map ends its entries. -/
theorem readEntries_close {first : Bool} (hcs : skipSpace cs = '\x7d' :: rest) :
    readEntries (fuel + 1) first cs = ([], none, some rest) := by
  unfold readEntries
  rw [hcs]
  rfl

/-- An entry is read: its key, the colon and its value, and then the others. -/
theorem readEntries_entry {first : Bool} {text : List Char} {key : Except Fault String} {value : Draft}
    {entries : List (Except Fault String × Draft)} (hcs : skipSpace cs = c :: rest) (hc : c ≠ '\x7d')
    (hcomma : ¬ (¬ first ∧ c ≠ ',')) (hquote : skipSpace (if first then c :: rest else rest) = '"' :: text)
    {gap afterColon : List Char} (hkey : readString text = .ok (key, gap)) (hcolon : skipSpace gap = ':' :: afterColon)
    (hvalue : readValue fuel afterColon = (value, some left))
    (hentries : readEntries fuel false left = (entries, stop, beyond)) :
    readEntries (fuel + 1) first cs = ((key, value) :: entries, stop, beyond) := by
  rw [readEntries.eq_def]
  dsimp only
  rw [hcs]
  dsimp only
  -- the map does not close here, and the key begins with a quote
  rw [if_neg hc, if_neg hcomma, hquote]
  split
  next heq => exact absurd heq (List.cons_ne_nil _ _)
  next heq => exact absurd (List.cons.inj heq).1 (by decide)
  next heq =>
    obtain rfl := (List.cons.inj heq).2
    -- the key, the colon and the value
    rw [hkey]
    dsimp only
    rw [hcolon]
    split
    next heq => exact absurd heq (List.cons_ne_nil _ _)
    next heq =>
      obtain rfl := (List.cons.inj heq).2
      rw [hvalue]
      dsimp only
      rw [hentries]
    next hnoColon heq => exact (hnoColon (List.cons.inj heq).1.symm).elim
  next hnoQuote heq => exact (hnoQuote (List.cons.inj heq).1.symm).elim

/-- The first entry of a map is read where the map begins. -/
theorem readEntries_first {text gap afterColon : List Char} {key : Except Fault String} {value : Draft}
    {entries : List (Except Fault String × Draft)} (hcs : skipSpace cs = '"' :: text)
    (hkey : readString text = .ok (key, gap)) (hcolon : skipSpace gap = ':' :: afterColon)
    (hvalue : readValue fuel afterColon = (value, some left))
    (hentries : readEntries fuel false left = (entries, stop, beyond)) :
    readEntries (fuel + 1) true cs = ((key, value) :: entries, stop, beyond) :=
  readEntries_entry hcs (by decide) (by simp) (skipSpace_of_not_isSpace rfl text) hkey hcolon hvalue hentries

/-- Each other entry is read behind a comma. -/
theorem readEntries_next {text gap afterColon : List Char} {key : Except Fault String} {value : Draft}
    {entries : List (Except Fault String × Draft)} (hcs : skipSpace cs = '"' :: text)
    (hkey : readString text = .ok (key, gap)) (hcolon : skipSpace gap = ':' :: afterColon)
    (hvalue : readValue fuel afterColon = (value, some left))
    (hentries : readEntries fuel false left = (entries, stop, beyond)) :
    readEntries (fuel + 1) false (',' :: cs) = ((key, value) :: entries, stop, beyond) :=
  readEntries_entry (skipSpace_of_not_isSpace rfl cs) (by decide) (by simp) hcs hkey hcolon hvalue hentries

end

/-! ## What a step has read -/

/-- Where the first item of a list or the first entry of a map begins, and the others after a comma. -/
def Begins (first : Bool) (cs start : List Char) : Prop :=
  skipSpace cs = if first then start else ',' :: start

/-- Where neither the end nor a missing comma is found, an item or an entry begins. -/
theorem begins_of_skipSpace {first : Bool} {cs rest : List Char} {c : Char} (hcs : skipSpace cs = c :: rest)
    (hcomma : ¬ (¬ first ∧ c ≠ ',')) : Begins first cs (if first then c :: rest else rest) := by
  cases first with
  | true => exact hcs
  | false =>
    obtain rfl : c = ',' := by simpa using hcomma
    exact hcs

/-- A step of a list breaks off, finds the end of the list, or reads an item after which reading goes on or not. -/
theorem readItems_succ {fuel : Nat} {first : Bool} {cs : List Char} {items : List Draft} {stop : Option Stop}
    {beyond : Option (List Char)} (h : readItems (fuel + 1) first cs = (items, stop, beyond)) :
    (items = [] ∧ stop ≠ none ∧ beyond = none) ∨
      (∃ rest, skipSpace cs = ']' :: rest ∧ items = [] ∧ stop = none ∧ beyond = some rest) ∨
      ∃ start, Begins first cs start ∧
        ((∃ item, readValue fuel start = (item, none) ∧ items = [item] ∧ stop = none ∧ beyond = none) ∨
          ∃ item left others, readValue fuel start = (item, some left) ∧
            readItems fuel false left = (others, stop, beyond) ∧ items = item :: others) := by
  -- the cases are those of the reader, in its order
  unfold readItems at h
  split at h
  · obtain ⟨rfl, rfl, rfl⟩ := h
    exact .inl ⟨rfl, Option.some_ne_none _, rfl⟩
  next c rest hcs =>
    by_cases hclose : c = ']'
    · rw [if_pos hclose] at h
      obtain ⟨rfl, rfl, rfl⟩ := h
      exact .inr (.inl ⟨rest, hclose ▸ hcs, rfl, rfl, rfl⟩)
    rw [if_neg hclose] at h
    by_cases hcomma : ¬ first ∧ c ≠ ','
    · rw [if_pos hcomma] at h
      obtain ⟨rfl, rfl, rfl⟩ := h
      exact .inl ⟨rfl, Option.some_ne_none _, rfl⟩
    rw [if_neg hcomma] at h
    by_cases htrailing : ¬ first ∧ (skipSpace rest).head? = some ']'
    · rw [if_pos htrailing] at h
      obtain ⟨rfl, rfl, rfl⟩ := h
      exact .inl ⟨rfl, Option.some_ne_none _, rfl⟩
    rw [if_neg htrailing] at h
    -- an item begins here, whether reading it comes to an end or not
    refine .inr (.inr ⟨_, begins_of_skipSpace hcs hcomma, ?_⟩)
    split at h
    next item hread =>
      obtain ⟨rfl, rfl, rfl⟩ := h
      exact .inl ⟨item, hread, rfl, rfl, rfl⟩
    next item left hread =>
      obtain ⟨rfl, rfl, rfl⟩ := h
      exact .inr ⟨item, left, _, hread, rfl, rfl⟩

/-- A step of a map breaks off, finds the end of the map, reads a key and breaks off, or reads an entry after which
reading goes on or not. -/
theorem readEntries_succ {fuel : Nat} {first : Bool} {cs : List Char} {entries : List (Except Fault String × Draft)}
    {stop : Option Stop} {beyond : Option (List Char)}
    (h : readEntries (fuel + 1) first cs = (entries, stop, beyond)) :
    (entries = [] ∧ stop ≠ none ∧ beyond = none) ∨
      (∃ rest, skipSpace cs = '\x7d' :: rest ∧ entries = [] ∧ stop = none ∧ beyond = some rest) ∨
      (∃ key broken, entries = [(key, .broken broken)] ∧ beyond = none) ∨
      ∃ start text key gap afterColon, Begins first cs start ∧ skipSpace start = '"' :: text ∧
        readString text = .ok (key, gap) ∧ skipSpace gap = ':' :: afterColon ∧
        ((∃ value, readValue fuel afterColon = (value, none) ∧ entries = [(key, value)] ∧ beyond = none) ∨
          ∃ value left others, readValue fuel afterColon = (value, some left) ∧
            readEntries fuel false left = (others, stop, beyond) ∧ entries = (key, value) :: others) := by
  -- the cases are those of the reader, in its order
  unfold readEntries at h
  -- in the order the reader looks: the close, the comma, the key, the colon and the value
  split at h
  · obtain ⟨rfl, rfl, rfl⟩ := h
    exact .inl ⟨rfl, Option.some_ne_none _, rfl⟩
  next c rest hcs =>
    by_cases hclose : c = '\x7d'
    · rw [if_pos hclose] at h
      obtain ⟨rfl, rfl, rfl⟩ := h
      exact .inr (.inl ⟨rest, hclose ▸ hcs, rfl, rfl, rfl⟩)
    rw [if_neg hclose] at h
    by_cases hcomma : ¬ first ∧ c ≠ ','
    · rw [if_pos hcomma] at h
      obtain ⟨rfl, rfl, rfl⟩ := h
      exact .inl ⟨rfl, Option.some_ne_none _, rfl⟩
    rw [if_neg hcomma] at h
    have hbegins := begins_of_skipSpace hcs hcomma
    split at h
    · obtain ⟨rfl, rfl, rfl⟩ := h
      exact .inl ⟨rfl, Option.some_ne_none _, rfl⟩
    · obtain ⟨rfl, rfl, rfl⟩ := h
      exact .inl ⟨rfl, Option.some_ne_none _, rfl⟩
    next text htext =>
      split at h
      · obtain ⟨rfl, rfl, rfl⟩ := h
        exact .inl ⟨rfl, Option.some_ne_none _, rfl⟩
      next key gap hkey =>
        split at h
        · obtain ⟨rfl, rfl, rfl⟩ := h
          exact .inr (.inr (.inl ⟨key, _, rfl, rfl⟩))
        -- behind a colon a value begins, whether reading it comes to an end or not
        next afterColon hcolon =>
          refine .inr (.inr (.inr ⟨_, text, key, gap, afterColon, hbegins, htext, hkey, hcolon, ?_⟩))
          split at h
          next value hread =>
            obtain ⟨rfl, rfl, rfl⟩ := h
            exact .inl ⟨value, hread, rfl, rfl⟩
          next value left hread =>
            obtain ⟨rfl, rfl, rfl⟩ := h
            exact .inr ⟨value, left, _, hread, rfl, rfl⟩
        · obtain ⟨rfl, rfl, rfl⟩ := h
          exact .inr (.inr (.inl ⟨key, _, rfl, rfl⟩))
    · obtain ⟨rfl, rfl, rfl⟩ := h
      exact .inl ⟨rfl, Option.some_ne_none _, rfl⟩

end Draft

end Signalbox.Json
