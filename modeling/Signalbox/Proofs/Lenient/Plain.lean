import Signalbox.Proofs.Json.Pretty
import Signalbox.Proofs.Lenient.Numeral
import Signalbox.Proofs.Lenient.Text

/-!
# Plain documents as lenient ones

A plain document, each item and entry on a line of its own, is a lenient document as well: its numbers are
numerals, and all else is as it was. Only where a text has a separator in it, there is no document at all.

Main results:

* `Lenient.readValue_prettyChars`: a value, in front of anything that ends a numeral.
* `Lenient.read?_pretty`: a whole text.
-/

namespace Signalbox

namespace Lenient

/-! ## What is read -/

/-- The numeral that is written for a number, if it is one. -/
def numeral? (n : Number) : Option Numeral :=
  match Json.readParts (Json.encodeNumber n) with
  | .ok (parts, []) => some (.ofParts parts)
  | _ => none

mutual

/-- The lenient document that is read for a plain one. -/
def ofJson? : Json → Option Lenient
  | .null => some .null
  | .bool b => some (.bool b)
  | .num n => (numeral? n).map .numeral
  | .str s => if hasSeparator s then none else some (.text (some s))
  | .list items => (ofItems? items).map .list
  | .map entries => (ofEntries? entries).map .map

/-- The items that are read for those of a list. -/
def ofItems? : List Json → Option (List Lenient)
  | [] => some []
  | item :: rest => do
    let item ← ofJson? item
    let rest ← ofItems? rest
    return item :: rest

/-- The entries that are read for those of a map. -/
def ofEntries? : List (String × Json) → Option (List (Option String × Lenient))
  | [] => some []
  | (key, value) :: rest =>
    if hasSeparator key then none
    else do
      let value ← ofJson? value
      let rest ← ofEntries? rest
      return (some key, value) :: rest

end

/-! ## Gaps -/

theorem skipSpace_cons {c : Char} (hspace : isSpace c = false) (hslash : c ≠ '/') (cs : List Char) :
    skipSpace (c :: cs) = some (c :: cs) := by
  unfold skipSpace
  rw [skipGap]
  · rw [hspace]
    rfl
  · exact fun _ h => absurd h hslash
  · exact fun _ h => absurd h hslash

/-- The start of a line is skipped. -/
theorem skipSpace_lineStart (depth : Nat) (cs : List Char) :
    skipSpace (Json.lineStart depth ++ cs) = skipSpace cs := by
  have hblanks : ∀ n, skipSpace (List.replicate n ' ' ++ cs) = skipSpace cs := by
    intro n
    induction n with
    | zero => rfl
    | succ n ih => exact ih
  exact hblanks (2 * depth)

/-- A digit is no blank. -/
theorem not_isSpace_of_isAsciiDigit {c : Char} (h : Text.isAsciiDigit c = true) : isSpace c = false := by
  have hdigits : ∀ n < 58, 48 ≤ n → isSpace (Char.ofNat n) = false := by decide
  simp only [Text.isAsciiDigit, Bool.and_eq_true, decide_eq_true_eq, Char.le_def, UInt32.le_iff_toNat_le] at h
  have hc := hdigits c.toNat (Nat.lt_succ_of_le h.2) h.1
  rwa [Char.ofNat_toNat] at hc

/-! ## Values -/

/-- A numeral in front of the text ends there. -/
def EndsNumeral (rest : List Char) : Prop :=
  Json.EndsNumber rest ∧ ∀ c ∈ rest.head?, c ≠ 'x' ∧ c ≠ 'X'

theorem endsNumeral_cons {c : Char} (h : Json.isNumberChar c = false) (hx : c ≠ 'x' ∧ c ≠ 'X')
    (rest : List Char) : EndsNumeral (c :: rest) := by
  refine ⟨Json.endsNumber_cons h rest, ?_⟩
  intro c' hc'
  obtain rfl := Option.some.inj hc'
  exact hx

/-- A written number is read back whole, where the text goes on with something else. -/
theorem readNumeral_encodeNumber {n : Number} {numeral : Numeral} (h : numeral? n = some numeral)
    {rest : List Char} (hrest : EndsNumeral rest) :
    readNumeral (Json.encodeNumber n ++ rest) = some (numeral, rest) := by
  unfold numeral? at h
  split at h
  next parts hparts =>
    obtain rfl := Option.some.inj h
    exact readNumeral_of_readParts (Json.readParts_append hrest.1 hparts) hrest.2
  next => cases h

/-- The text starts with a character that is no gap and does not end a list. -/
def StartsItem (cs : List Char) : Prop :=
  ∃ c rest, cs = c :: rest ∧ isSpace c = false ∧ c ≠ '/' ∧ c ≠ ']'

theorem StartsItem.skipSpace_eq {cs : List Char} (h : StartsItem cs) : skipSpace cs = some cs := by
  obtain ⟨c, rest, rfl, hspace, hslash, -⟩ := h
  exact skipSpace_cons hspace hslash rest

/-- A numeral starts with a minus or a digit. -/
theorem exists_cons_of_numeral? {n : Number} {numeral : Numeral} (h : numeral? n = some numeral) :
    ∃ c rest, Json.encodeNumber n = c :: rest ∧ (c = '-' ∨ Text.isAsciiDigit c) := by
  unfold numeral? at h
  split at h
  next hparts => exact Json.exists_cons_of_readParts hparts
  next => cases h

/-- The pretty form of a document starts with an item, not with a blank. -/
theorem startsItem_prettyChars (depth : Nat) {j : Json} (hnumbers : ∀ n ∈ j.numbers, (numeral? n).isSome)
    (rest : List Char) : StartsItem (j.prettyChars depth ++ rest) := by
  cases j with
  | null => exact ⟨_, _, rfl, by decide⟩
  | bool b => cases b <;> exact ⟨_, _, rfl, by decide⟩
  | num n =>
    obtain ⟨numeral, hnumeral⟩ := Option.isSome_iff_exists.mp (hnumbers n (List.mem_singleton.mpr rfl))
    obtain ⟨c, cs, hcs, hc⟩ := exists_cons_of_numeral? hnumeral
    rw [Json.prettyChars, hcs]
    refine ⟨c, cs ++ rest, rfl, ?_⟩
    -- a minus, or a digit, which starts neither a blank nor a comment
    rcases hc with rfl | hc
    · decide
    · refine ⟨not_isSpace_of_isAsciiDigit hc, ?_, ?_⟩
      all_goals
        rintro rfl
        exact absurd hc (by decide)
  | str s => exact ⟨_, _, rfl, by decide⟩
  | list items => cases items <;> exact ⟨_, _, rfl, by decide⟩
  | map entries => cases entries <;> exact ⟨_, _, rfl, by decide⟩

/-! ## Steps of the reader -/

section

variable {fuel : Nat} {cs text left close rest : List Char} {value? : Option Lenient}

/-- A value that starts with a digit or a minus is a number. -/
theorem readValue_numeral {c : Char} (hc : c = '-' ∨ Text.isAsciiDigit c) (cs : List Char) :
    readValue (fuel + 1) (c :: cs) = (readNumeral (c :: cs)).map fun (n, rest) => (.numeral n, rest) := by
  unfold readValue
  split
  case h_8 => rfl
  all_goals
    next heq =>
      obtain ⟨rfl, -⟩ := List.cons.inj heq
      exact absurd hc (by decide)

/-- The last item of a list. -/
theorem readItems_last (hcs : skipSpace cs = some text) (htext : StartsItem text)
    (hvalue : readValue fuel text = value?.map (·, left)) (hleft : skipSpace left = some (']' :: rest)) :
    readItems (fuel + 1) cs = value?.map fun value => ([value], rest) := by
  obtain ⟨c, cs', rfl, -, -, hc⟩ := htext
  rw [readItems.eq_def]
  simp only [hcs, Option.bind_eq_bind, Option.bind_some]
  split
  next heq => exact absurd (List.cons.inj heq).1 hc
  next =>
    rw [hvalue]
    cases value? with
    | none => rfl
    | some value =>
      simp only [Option.map_some, Option.bind_some, hleft]
      rfl

/-- An item of a list in front of another one. -/
theorem readItems_next {items? : Option (List Lenient)} (hcs : skipSpace cs = some text) (htext : StartsItem text)
    (hvalue : readValue fuel text = value?.map (·, ',' :: left))
    (hitems : readItems fuel left = items?.map (·, rest)) :
    readItems (fuel + 1) cs = (value?.bind fun value => items?.map (value :: ·)).map (·, rest) := by
  obtain ⟨c, cs', rfl, -, -, hc⟩ := htext
  rw [readItems.eq_def]
  simp only [hcs, Option.bind_eq_bind, Option.bind_some]
  split
  next heq => exact absurd (List.cons.inj heq).1 hc
  next =>
    rw [hvalue]
    cases value? with
    | none => rfl
    | some value =>
      have hcomma : skipSpace (',' :: left) = some (',' :: left) := skipSpace_cons (by decide) (by decide) left
      simp only [Option.map_some, Option.bind_some, hcomma, hitems]
      cases items? <;> rfl

/-- What is written for an entry from its key to its value. -/
def entryHead (key : String) (cs : List Char) : List Char :=
  '"' :: (key.toList.flatMap Json.encodeChar ++ '"' :: ':' :: ' ' :: cs)

/-- An entry whose key has a separator is no entry. -/
theorem readEntries_broken {key : String} (hcs : skipSpace cs = some (entryHead key text))
    (hkey : hasSeparator key = true) : readEntries (fuel + 1) cs = none := by
  have hread := readQuoted_encode key (':' :: ' ' :: text)
  rw [if_pos hkey] at hread
  rw [readEntries.eq_def]
  dsimp only
  rw [hcs]
  change (readQuoted '"' (key.toList.flatMap Json.encodeChar ++ '"' :: ':' :: ' ' :: text)).bind _ = none
  rw [hread, Option.bind_none]

/-- The key of an entry, its colon and its value. -/
theorem readEntries_entry {key : String} (hcs : skipSpace cs = some (entryHead key text))
    (hkey : hasSeparator key = false) (htext : StartsItem text) :
    readEntries (fuel + 1) cs = (readValue fuel text).bind fun read => (skipSpace read.2).bind fun cs =>
      match cs with
      | '\x7d' :: rest => some ([(some key, read.1)], rest)
      | ',' :: rest => (readEntries fuel rest).bind fun entries =>
        some ((some key, read.1) :: entries.1, entries.2)
      | _ => none := by
  have hread := readQuoted_encode key (':' :: ' ' :: text)
  rw [hkey, if_neg Bool.false_ne_true] at hread
  have hcolon : skipSpace (':' :: ' ' :: text) = some (':' :: ' ' :: text) :=
    skipSpace_cons (by decide) (by decide) _
  have hblank : skipSpace (' ' :: text) = some text := htext.skipSpace_eq
  -- the key, the colon, the blank and the value, in the order they are read in
  rw [readEntries.eq_def]
  dsimp only
  rw [hcs]
  change (readQuoted '"' (key.toList.flatMap Json.encodeChar ++ '"' :: ':' :: ' ' :: text)).bind _ = _
  rw [hread, Option.bind_some]
  change (skipSpace (':' :: ' ' :: text)).bind _ = _
  rw [hcolon, Option.bind_some]
  change (skipSpace (' ' :: text)).bind _ = _
  rw [hblank, Option.bind_some, Option.map_some, String.ofList_toList]
  rfl

/-- The last entry of a map. -/
theorem readEntries_last {key : String} (hcs : skipSpace cs = some (entryHead key text))
    (hkey : hasSeparator key = false) (htext : StartsItem text) (hvalue : readValue fuel text = value?.map (·, left))
    (hleft : skipSpace left = some ('\x7d' :: rest)) :
    readEntries (fuel + 1) cs = value?.map fun value => ([(some key, value)], rest) := by
  rw [readEntries_entry hcs hkey htext, hvalue]
  cases value? with
  | none => rfl
  | some value =>
    rw [Option.map_some, Option.bind_some, hleft]
    rfl

/-- An entry of a map in front of another one. -/
theorem readEntries_next {key : String} {entries? : Option (List (Option String × Lenient))}
    (hcs : skipSpace cs = some (entryHead key text)) (hkey : hasSeparator key = false) (htext : StartsItem text)
    (hvalue : readValue fuel text = value?.map (·, ',' :: left))
    (hentries : readEntries fuel left = entries?.map (·, rest)) :
    readEntries (fuel + 1) cs =
      (value?.bind fun value => entries?.map ((some key, value) :: ·)).map (·, rest) := by
  rw [readEntries_entry hcs hkey htext, hvalue]
  cases value? with
  | none => rfl
  | some value =>
    have hcomma : skipSpace (',' :: left) = some (',' :: left) := skipSpace_cons (by decide) (by decide) left
    rw [Option.map_some, Option.bind_some, hcomma, Option.bind_some]
    change (readEntries fuel left).bind _ = _
    rw [hentries]
    cases entries? <;> rfl

end

/-! ## What is written -/

theorem length_lineStart (depth : Nat) : (Json.lineStart depth).length = 2 * depth + 1 := by
  rw [Json.lineStart, List.length_cons, List.length_replicate]

/-- What is left of a list after one of its items. -/
def prettyTail (depth : Nat) : List Json → List Char
  | [] => []
  | item :: rest => ',' :: Json.prettyItems depth (item :: rest)

/-- What is left of a map after one of its entries. -/
def entriesTail (depth : Nat) : List (String × Json) → List Char
  | [] => []
  | entry :: rest => ',' :: Json.prettyEntries depth (entry :: rest)

theorem prettyItems_cons (depth : Nat) (item : Json) (rest : List Json) :
    Json.prettyItems depth (item :: rest) = Json.lineStart depth ++ (item.prettyChars depth ++ prettyTail depth rest) := by
  cases rest with
  | nil => rw [Json.prettyItems, prettyTail, List.append_nil]
  | cons next rest =>
    rw [Json.prettyItems, prettyTail]
    simp only [List.append_assoc, List.singleton_append]

theorem prettyEntries_cons (depth : Nat) (key : String) (value : Json) (rest : List (String × Json)) :
    Json.prettyEntries depth ((key, value) :: rest) =
      Json.lineStart depth ++ ('"' :: (key.toList.flatMap Json.encodeChar ++ '"' :: ':' :: ' ' ::
        (value.prettyChars depth ++ entriesTail depth rest))) := by
  cases rest with
  | nil =>
    rw [Json.prettyEntries, entriesTail, Json.encodeText]
    simp only [List.append_assoc, List.cons_append, List.nil_append, List.append_nil]
  | cons next rest =>
    rw [Json.prettyEntries, entriesTail, Json.encodeText]
    simp only [List.append_assoc, List.cons_append, List.nil_append]

/-! ## Reading what was written -/

theorem endsNumeral_lineStart (depth : Nat) (rest : List Char) : EndsNumeral (Json.lineStart depth ++ rest) :=
  endsNumeral_cons rfl (by decide) _

/-- A number ends in front of the items behind it. -/
theorem endsNumeral_prettyTail {close : List Char} (h : EndsNumeral close) (depth : Nat) (items : List Json) :
    EndsNumeral (prettyTail depth items ++ close) := by
  cases items with
  | nil => exact h
  | cons item items => exact endsNumeral_cons rfl (by decide) _

/-- A number ends in front of the entries behind it. -/
theorem endsNumeral_entriesTail {close : List Char} (h : EndsNumeral close) (depth : Nat)
    (entries : List (String × Json)) : EndsNumeral (entriesTail depth entries ++ close) := by
  cases entries with
  | nil => exact h
  | cons entry entries => exact endsNumeral_cons rfl (by decide) _

theorem ofItems?_singleton (item : Json) : ofItems? [item] = (ofJson? item).map ([·]) := by
  rw [ofItems?, ofItems?]
  cases ofJson? item <;> rfl

theorem ofItems?_cons (item : Json) (items : List Json) :
    ofItems? (item :: items) = (ofJson? item).bind fun value => (ofItems? items).map (value :: ·) := by
  rw [ofItems?]
  cases ofJson? item <;> cases ofItems? items <;> rfl

theorem ofEntries?_broken {key : String} (hkey : hasSeparator key = true) (value : Json)
    (entries : List (String × Json)) : ofEntries? ((key, value) :: entries) = none := by
  rw [ofEntries?, if_pos hkey]

theorem ofEntries?_cons {key : String} (hkey : hasSeparator key = false) (value : Json)
    (entries : List (String × Json)) : ofEntries? ((key, value) :: entries) =
      (ofJson? value).bind fun read => (ofEntries? entries).map ((some key, read) :: ·) := by
  rw [ofEntries?, hkey, if_neg Bool.false_ne_true]
  cases ofJson? value <;> cases ofEntries? entries <;> rfl

mutual

/-- What is read for a value in the text that is written for it. -/
theorem readValue_prettyChars : ∀ (j : Json) (fuel depth : Nat) {rest : List Char},
    (∀ n ∈ j.numbers, (numeral? n).isSome) → EndsNumeral rest → (j.prettyChars depth).length < fuel →
    readValue fuel (j.prettyChars depth ++ rest) = (ofJson? j).map (·, rest)
  | _, 0, _, _, _, _, hfuel => absurd hfuel (Nat.not_lt_zero _)
  | .null, fuel + 1, _, _, _, _, _ => rfl
  | .bool true, fuel + 1, _, _, _, _, _ => rfl
  | .bool false, fuel + 1, _, _, _, _, _ => rfl
  | .num n, fuel + 1, _, rest, hnumbers, hrest, _ => by
    obtain ⟨numeral, hnumeral⟩ := Option.isSome_iff_exists.mp (hnumbers n (List.mem_singleton.mpr rfl))
    -- the text of a numeral starts like a number
    obtain ⟨c, cs, hcs, hc⟩ := exists_cons_of_numeral? hnumeral
    have hread := readNumeral_encodeNumber hnumeral hrest
    rw [hcs, List.cons_append] at hread
    rw [Json.prettyChars, hcs, List.cons_append, readValue_numeral hc, hread, ofJson?, hnumeral]
    rfl
  | .str s, fuel + 1, _, rest, _, _, _ => by
    have hread := readQuoted_encode s rest
    rw [Json.prettyChars, Json.encodeText, List.append_assoc, List.append_assoc, ofJson?]
    change (readQuoted '"' (s.toList.flatMap Json.encodeChar ++ '"' :: rest)).map ofQuoted = _
    rw [hread]
    split_ifs
    · rfl
    · rw [Option.map_some, ofQuoted, Option.map_some, String.ofList_toList]
      rfl
  | .list [], fuel + 1, _, rest, _, _, hfuel => by
    obtain ⟨fuel, rfl⟩ : ∃ n, fuel = n + 1 :=
      Nat.exists_eq_add_one.mpr (by simp [Json.prettyChars] at hfuel; omega)
    rfl
  | .list (item :: items), fuel + 1, depth, rest, hnumbers, _, hfuel => by
    have htext : (Json.list (item :: items)).prettyChars depth ++ rest =
        '[' :: (Json.prettyItems (depth + 1) (item :: items) ++ (Json.lineStart depth ++ ']' :: rest)) := by
      rw [Json.prettyChars]
      simp only [List.append_assoc, List.cons_append, List.nil_append]
    rw [Json.prettyChars] at hfuel
    simp only [List.length_append, List.length_cons, List.length_nil] at hfuel
    have hclose : skipSpace (Json.lineStart depth ++ ']' :: rest) = some (']' :: rest) := skipSpace_lineStart depth _
    have hitems := readItems_prettyItems (item :: items) fuel (depth + 1) (List.cons_ne_nil _ _) hnumbers hclose
      (endsNumeral_lineStart depth _) (by omega)
    rw [htext, ofJson?]
    change (readItems fuel _).map _ = _
    rw [hitems, Option.map_map, Option.map_map]
    rfl
  | .map [], fuel + 1, _, rest, _, _, hfuel => by
    obtain ⟨fuel, rfl⟩ : ∃ n, fuel = n + 1 :=
      Nat.exists_eq_add_one.mpr (by simp [Json.prettyChars] at hfuel; omega)
    rfl
  | .map (entry :: entries), fuel + 1, depth, rest, hnumbers, _, hfuel => by
    have htext : (Json.map (entry :: entries)).prettyChars depth ++ rest =
        '\x7b' :: (Json.prettyEntries (depth + 1) (entry :: entries) ++ (Json.lineStart depth ++ '\x7d' :: rest)) := by
      rw [Json.prettyChars]
      simp only [List.append_assoc, List.cons_append, List.nil_append]
    rw [Json.prettyChars] at hfuel
    simp only [List.length_append, List.length_cons, List.length_nil] at hfuel
    have hclose : skipSpace (Json.lineStart depth ++ '\x7d' :: rest) = some ('\x7d' :: rest) :=
      skipSpace_lineStart depth _
    have hentries := readEntries_prettyEntries (entry :: entries) fuel (depth + 1) (List.cons_ne_nil _ _) hnumbers
      hclose (endsNumeral_lineStart depth _) (by omega)
    rw [htext, ofJson?]
    change (readEntries fuel _).map _ = _
    rw [hentries, Option.map_map, Option.map_map]
    rfl

/-- The pretty form of items is read as what the items are for this reader. -/
theorem readItems_prettyItems : ∀ (items : List Json) (fuel depth : Nat) {close rest : List Char}, items ≠ [] →
    (∀ n ∈ Json.numbersOfItems items, (numeral? n).isSome) → skipSpace close = some (']' :: rest) →
    EndsNumeral close → (Json.prettyItems depth items).length < fuel →
    readItems fuel (Json.prettyItems depth items ++ close) = (ofItems? items).map (·, rest)
  | [], _, _, _, _, hne, _, _, _, _ => absurd rfl hne
  | item :: items, fuel + 1, depth, close, rest, _, hnumbers, hclose, hends, hfuel => by
    rw [prettyItems_cons] at hfuel
    simp only [List.length_append, length_lineStart] at hfuel
    have hitem : ∀ n ∈ item.numbers, (numeral? n).isSome := fun n hn => hnumbers n (List.mem_append_left _ hn)
    have hstart := startsItem_prettyChars depth hitem (prettyTail depth items ++ close)
    -- the reader skips the start of the line and stands at the item
    have hskip := (skipSpace_lineStart depth _).trans hstart.skipSpace_eq
    have hvalue := readValue_prettyChars item fuel depth hitem
      (endsNumeral_prettyTail hends depth items) (by omega)
    rw [prettyItems_cons, List.append_assoc, List.append_assoc]
    cases items with
    | nil =>
      rw [readItems_last hskip hstart hvalue hclose, ofItems?_singleton, Option.map_map]
      rfl
    | cons next items =>
      have hitems : ∀ n ∈ Json.numbersOfItems (next :: items), (numeral? n).isSome :=
        fun n hn => hnumbers n (List.mem_append_right _ hn)
      have hrest := readItems_prettyItems (next :: items) fuel depth (List.cons_ne_nil _ _)
        hitems hclose hends (by rw [prettyTail, List.length_cons] at hfuel; omega)
      rw [readItems_next hskip hstart hvalue hrest, ← ofItems?_cons]

/-- The pretty form of entries is read as what the entries are for this reader. -/
theorem readEntries_prettyEntries : ∀ (entries : List (String × Json)) (fuel depth : Nat) {close rest : List Char},
    entries ≠ [] → (∀ n ∈ Json.numbersOfEntries entries, (numeral? n).isSome) →
    skipSpace close = some ('\x7d' :: rest) → EndsNumeral close → (Json.prettyEntries depth entries).length < fuel →
    readEntries fuel (Json.prettyEntries depth entries ++ close) = (ofEntries? entries).map (·, rest)
  | [], _, _, _, _, hne, _, _, _, _ => absurd rfl hne
  | (key, value) :: entries, fuel + 1, depth, close, rest, _, hnumbers, hclose, hends, hfuel => by
    have htext : Json.prettyEntries depth ((key, value) :: entries) ++ close = Json.lineStart depth ++
        entryHead key (value.prettyChars depth ++ (entriesTail depth entries ++ close)) := by
      rw [prettyEntries_cons, entryHead]
      simp only [List.append_assoc, List.cons_append]
    rw [prettyEntries_cons] at hfuel
    simp only [List.length_append, List.length_cons, length_lineStart] at hfuel
    have hnumber : ∀ n ∈ value.numbers, (numeral? n).isSome := fun n hn => hnumbers n (List.mem_append_left _ hn)
    have hstart := startsItem_prettyChars depth hnumber (entriesTail depth entries ++ close)
    -- the reader skips the start of the line and stands at the key
    have hskip : skipSpace (Json.lineStart depth ++
        entryHead key (value.prettyChars depth ++ (entriesTail depth entries ++ close))) = _ :=
      (skipSpace_lineStart depth _).trans (skipSpace_cons (by decide) (by decide) _)
    have hvalue := readValue_prettyChars value fuel depth hnumber
      (endsNumeral_entriesTail hends depth entries) (by omega)
    rw [htext]
    -- a key with a line separator ends the reading, whatever follows
    cases hkey : hasSeparator key with
    | true =>
      rw [readEntries_broken hskip hkey, ofEntries?_broken hkey]
      rfl
    | false =>
      cases entries with
      | nil =>
        rw [readEntries_last hskip hkey hstart hvalue hclose, ofEntries?_cons hkey, ofEntries?]
        cases ofJson? value <;> rfl
      | cons next entries =>
        have hentries : ∀ n ∈ Json.numbersOfEntries (next :: entries), (numeral? n).isSome :=
          fun n hn => hnumbers n (List.mem_append_right _ hn)
        have hrest := readEntries_prettyEntries (next :: entries) fuel depth
          (List.cons_ne_nil _ _) hentries hclose hends (by rw [entriesTail, List.length_cons] at hfuel; omega)
        rw [readEntries_next hskip hkey hstart hvalue hrest, ← ofEntries?_cons hkey]

end

/-- What is read for a document in the text that is written for it. -/
theorem read?_pretty {j : Json} (hnumbers : ∀ n ∈ j.numbers, (numeral? n).isSome) : read? j.pretty = ofJson? j := by
  have hends : EndsNumeral [] := ⟨Json.endsNumber_nil, fun _ h => nomatch h⟩
  have htext : j.pretty.toList = j.prettyChars 0 ++ [] := by
    rw [Json.pretty, String.toList_ofList, List.append_nil]
  have hskip : skipSpace j.pretty.toList = some (j.prettyChars 0 ++ []) := by
    rw [htext]
    exact (startsItem_prettyChars 0 hnumbers []).skipSpace_eq
  have hlength : (j.prettyChars 0).length < 2 * j.pretty.toList.length + 2 := by
    rw [htext, List.append_nil]
    omega
  have hvalue := readValue_prettyChars j _ 0 hnumbers hends hlength
  unfold read?
  simp only [hskip, Option.bind_eq_bind, Option.bind_some, hvalue]
  cases ofJson? j <;> rfl

end Lenient

end Signalbox
