import Signalbox.Proofs.Json.Reread
import Signalbox.Proofs.Json.Steps

/-!
# The numbers of a document

The numbers that stand in a document or a draft, and those that stand in a text: whatever is read holds
numbers in range only.

Main results:

* `Json.Draft.numbers_of_buffer`: a document that is taken out of a draft.
* `Json.Draft.inRange_of_mem_read`: a draft that is read from a text.
-/

namespace Signalbox.Json

mutual

/-- The numbers of a document, in order. -/
def numbers : Json → List Number
  | .null | .bool _ | .str _ => []
  | .num n => [n]
  | .list items => numbersOfItems items
  | .map entries => numbersOfEntries entries

/-- The numbers of the items of a list. -/
def numbersOfItems : List Json → List Number
  | [] => []
  | item :: rest => item.numbers ++ numbersOfItems rest

/-- The numbers of the values of a map. -/
def numbersOfEntries : List (String × Json) → List Number
  | [] => []
  | (_, value) :: rest => value.numbers ++ numbersOfEntries rest

end

/-- The numbers of entries are those of their values. -/
theorem mem_numbersOfEntries {entries : List (String × Json)} {n : Number} :
    n ∈ numbersOfEntries entries ↔ ∃ entry ∈ entries, n ∈ entry.2.numbers := by
  induction entries with
  | nil => simp [numbersOfEntries]
  | cons entry rest ih => simp [numbersOfEntries, ih]

namespace Draft

mutual

/-- The numbers of a draft, in order. -/
def numbers : Draft → List Number
  | .null | .bool _ | .str _ | .unfit _ | .broken _ => []
  | .num n => [n]
  | .list items _ => numbersOfItems items
  | .map entries _ => numbersOfEntries entries

/-- The numbers of the items of a list. -/
def numbersOfItems : List Draft → List Number
  | [] => []
  | item :: rest => item.numbers ++ numbersOfItems rest

/-- The numbers of the values of a map. -/
def numbersOfEntries : List (Except Fault String × Draft) → List Number
  | [] => []
  | (_, value) :: rest => value.numbers ++ numbersOfEntries rest

end

/-- The numbers of drafted entries are those of their values. -/
theorem mem_numbersOfEntries {entries : List (Except Fault String × Draft)} {n : Number} :
    n ∈ numbersOfEntries entries ↔ ∃ entry ∈ entries, n ∈ entry.2.numbers := by
  induction entries with
  | nil => simp [numbersOfEntries]
  | cons entry rest ih => simp [numbersOfEntries, ih]

/-! ## Taking a document out of a draft -/

mutual

/-- A document that is taken out of a draft has the numbers of the draft. -/
theorem numbers_of_buffer : ∀ {depth : Nat} {draft : Draft} {j : Json},
    draft.buffer depth = .ok j → j.numbers = draft.numbers
  | _, .null, _, h | _, .bool _, _, h | _, .num _, _, h | _, .str _, _, h => by
    rw [← Except.ok.inj h]
    rfl
  | _, .unfit _, _, h | _, .broken _, _, h => nomatch h
  | _, .list _ _, _, h => by
    rw [buffer] at h
    split at h
    · exact nomatch h
    · obtain ⟨items, hitems, h⟩ := bind_eq_ok.mp h
      obtain ⟨-, -, h⟩ := bind_eq_ok.mp h
      rw [← Except.ok.inj h]
      exact numbers_of_bufferItems hitems
  | _, .map _ _, _, h => by
    rw [buffer] at h
    split at h
    · exact nomatch h
    · obtain ⟨entries, hentries, h⟩ := bind_eq_ok.mp h
      obtain ⟨-, -, h⟩ := bind_eq_ok.mp h
      rw [← Except.ok.inj h]
      exact numbers_of_bufferEntries hentries

/-- Taking items out of the text keeps their numbers. -/
theorem numbers_of_bufferItems : ∀ {depth : Nat} {drafts : List Draft} {items : List Json},
    bufferItems depth drafts = .ok items → Json.numbersOfItems items = numbersOfItems drafts
  | _, [], _, h => by
    rw [← Except.ok.inj h]
    rfl
  | _, _ :: _, _, h => by
    obtain ⟨item, hitem, h⟩ := bind_eq_ok.mp h
    obtain ⟨rest, hrest, h⟩ := bind_eq_ok.mp h
    rw [← Except.ok.inj h, Json.numbersOfItems, numbers_of_buffer hitem, numbers_of_bufferItems hrest]
    rfl

/-- Taking entries out of the text keeps the numbers of their values. -/
theorem numbers_of_bufferEntries :
    ∀ {depth : Nat} {drafts : List (Except Fault String × Draft)} {entries : List (String × Json)},
      bufferEntries depth drafts = .ok entries → Json.numbersOfEntries entries = numbersOfEntries drafts
  | _, [], _, h => by
    rw [← Except.ok.inj h]
    rfl
  | _, (_, _) :: _, _, h => by
    obtain ⟨key, -, h⟩ := bind_eq_ok.mp h
    obtain ⟨value, hvalue, h⟩ := bind_eq_ok.mp h
    obtain ⟨rest, hrest, h⟩ := bind_eq_ok.mp h
    rw [← Except.ok.inj h, Json.numbersOfEntries, numbers_of_buffer hvalue, numbers_of_bufferEntries hrest]
    rfl

end

/-! ## Numbers that are read -/

/-- A number that was read is in range. -/
theorem inRange_of_ofNumber (read : Except Stop (Number.Parts × List Char)) :
    ∀ n ∈ (ofNumber read).1.numbers, n.InRange := by
  intro n hn
  cases read with
  | error stop => exact nomatch hn
  | ok read =>
    rw [ofNumber] at hn
    cases hparts : Number.ofParts? read.1 with
    | none =>
      rw [hparts] at hn
      cases hn
    | some m =>
      rw [hparts] at hn
      rw [List.mem_singleton.mp hn]
      exact Number.inRange_of_ofParts? hparts

/-- A word such as null has no number in it. -/
theorem numbers_ofWord {value : Draft} (h : value.numbers = []) (word : Except Fault (List Char)) :
    (ofWord value word).1.numbers = [] := by
  cases word with
  | error fault => rfl
  | ok rest => exact h

/-- A text has no number in it. -/
theorem numbers_ofString (read : Except Stop (Except Fault String × List Char)) :
    (ofString read).1.numbers = [] := by
  match read with
  | .error stop => rfl
  | .ok (.error fault, rest) => rfl
  | .ok (.ok s, rest) => rfl

/-- Numbers in range only are read, as long as there is fuel: in a value, in items and in entries. -/
theorem inRange_of_read (fuel : Nat) :
    (∀ cs, ∀ n ∈ (readValue fuel cs).1.numbers, n.InRange) ∧
    (∀ first cs, ∀ n ∈ numbersOfItems (readItems fuel first cs).1, n.InRange) ∧
    (∀ first cs, ∀ n ∈ numbersOfEntries (readEntries fuel first cs).1, n.InRange) := by
  induction fuel with
  | zero => exact ⟨fun _ => nofun, fun _ _ => nofun, fun _ _ => nofun⟩
  | succ fuel ih =>
    obtain ⟨hvalue, hitems, hentries⟩ := ih
    refine ⟨?_, ?_, ?_⟩
    · -- a value
      intro cs n hn
      unfold readValue at hn
      split at hn
      · exact nomatch hn
      · rw [numbers_ofWord rfl] at hn
        exact nomatch hn
      · rw [numbers_ofWord rfl] at hn
        exact nomatch hn
      · rw [numbers_ofWord rfl] at hn
        exact nomatch hn
      · rw [numbers_ofString] at hn
        exact nomatch hn
      · exact hitems true _ n hn
      · exact hentries true _ n hn
      · split_ifs at hn
        · exact inRange_of_ofNumber _ n hn
        · exact nomatch hn
    · intro first cs n hn
      -- items, by what one step reads of them
      obtain ⟨items, stop, beyond, h⟩ : ∃ items stop beyond, readItems (fuel + 1) first cs = (items, stop, beyond) :=
        ⟨_, _, _, rfl⟩
      rw [h] at hn
      rcases readItems_succ h with ⟨rfl, -⟩ | ⟨-, -, rfl, -⟩ |
        ⟨start, -, ⟨item, hitem, rfl, -⟩ | ⟨item, left, others, hitem, hothers, rfl⟩⟩
      · exact nomatch hn
      · exact nomatch hn
      · rcases List.mem_append.mp hn with hn | hn
        · exact hvalue start n (by rw [hitem]; exact hn)
        · exact nomatch hn
      · rcases List.mem_append.mp hn with hn | hn
        · exact hvalue start n (by rw [hitem]; exact hn)
        · exact hitems false left n (by rw [hothers]; exact hn)
    · intro first cs n hn
      -- entries, likewise
      obtain ⟨entries, stop, beyond, h⟩ :
        ∃ entries stop beyond, readEntries (fuel + 1) first cs = (entries, stop, beyond) := ⟨_, _, _, rfl⟩
      rw [h] at hn
      rcases readEntries_succ h with ⟨rfl, -⟩ | ⟨-, -, rfl, -⟩ | ⟨key, broken, rfl, -⟩ | ⟨-, -, key, -, start, -, -, -, -,
        ⟨value, hread, rfl, -⟩ | ⟨value, left, others, hread, hothers, rfl⟩⟩
      · exact nomatch hn
      · exact nomatch hn
      · exact nomatch hn
      · rcases List.mem_append.mp hn with hn | hn
        · exact hvalue start n (by rw [hread]; exact hn)
        · exact nomatch hn
      · rcases List.mem_append.mp hn with hn | hn
        · exact hvalue start n (by rw [hread]; exact hn)
        · exact hentries false left n (by rw [hothers]; exact hn)

/-- The numbers of a draft of a text are in range. -/
theorem inRange_of_mem_read (text : String) : ∀ n ∈ (read text).1.numbers, n.InRange := by
  intro n hn
  have hvalue := (inRange_of_read (2 * text.toList.length + 2)).1 text.toList n
  unfold read at hn
  dsimp only at hn
  split at hn
  next draft hread =>
    rw [hread] at hvalue
    exact hvalue hn
  next draft rest hread =>
    rw [hread] at hvalue
    split_ifs at hn <;> exact hvalue hn

end Draft

/-- The numbers of a document that was read are in range. -/
theorem inRange_of_mem_numbers {text : String} {j : Json} (h : read text = .ok j) :
    ∀ n ∈ j.numbers, n.InRange := by
  obtain ⟨value, hvalue, h⟩ := bind_eq_ok.mp h
  obtain ⟨-, -, h⟩ := bind_eq_ok.mp h
  obtain rfl := Except.ok.inj h
  rw [Draft.numbers_of_buffer hvalue]
  exact Draft.inRange_of_mem_read text

end Signalbox.Json
