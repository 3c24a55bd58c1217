import Signalbox.Proofs.Json.Outcome

/-!
# The height of a document

How many lists and maps stand inside each other. A document can be taken out of its draft exactly when its
height is below the depth that is left.

Main results:

* `Json.Draft.height_of_buffer`: what was taken out of a draft is not too high.
* `Json.Draft.buffer_ofJson`: what is not too high can be taken out.
* `Json.Draft.buffer_eq_ok_iff`: the drafts that can be taken out.
-/

namespace Signalbox.Json

mutual

/-- The most lists and maps that stand inside each other. -/
def height : Json → Nat
  | .null | .bool _ | .num _ | .str _ => 0
  | .list items => 1 + heightOfItems items
  | .map entries => 1 + heightOfEntries entries

/-- The height of the highest item. -/
def heightOfItems : List Json → Nat
  | [] => 0
  | item :: rest => max item.height (heightOfItems rest)

/-- The height of the highest value. -/
def heightOfEntries : List (String × Json) → Nat
  | [] => 0
  | (_, value) :: rest => max value.height (heightOfEntries rest)

end

/-- Entries are no higher than each of their values. -/
theorem heightOfEntries_le_iff {entries : List (String × Json)} {height : Nat} :
    heightOfEntries entries ≤ height ↔ ∀ entry ∈ entries, entry.2.height ≤ height := by
  induction entries with
  | nil => simp [heightOfEntries]
  | cons entry rest ih =>
    obtain ⟨key, value⟩ := entry
    rw [heightOfEntries, Nat.max_le, ih, List.forall_mem_cons]

/-- One level goes down by one, and there is at least one left. -/
theorem enter?_eq_some {depth inner : Nat} (h : enter? depth = some inner) : depth = inner + 1 ∧ 1 ≤ inner := by
  match depth with
  | 0 => exact nomatch h
  | 1 => exact nomatch h
  | depth + 2 =>
    obtain rfl := Option.some.inj h
    exact ⟨rfl, Nat.le_add_left 1 depth⟩

/-- There is room for a level when the height of what is inside fits below it. -/
theorem enter?_of_le {depth height : Nat} (h : 1 + height ≤ depth - 1) :
    ∃ inner, enter? depth = some inner ∧ height ≤ inner - 1 := by
  match depth with
  | 0 => omega
  | 1 => omega
  | depth + 2 => exact ⟨depth + 1, rfl, by omega⟩

namespace Draft

mutual

/-- A document that was taken out of a draft is lower than the depth, where any is left. -/
theorem height_of_buffer : ∀ {depth : Nat} {draft : Draft} {j : Json},
    draft.buffer depth = .ok j → j.height ≤ depth - 1
  | _, .null, _, h | _, .bool _, _, h | _, .num _, _, h | _, .str _, _, h => by
    rw [← Except.ok.inj h]
    exact Nat.zero_le _
  | _, .unfit _, _, h | _, .broken _, _, h => nomatch h
  | _, .list _ _, _, h => by
    rw [buffer] at h
    split at h
    · exact nomatch h
    next inner henter =>
      -- the list takes one of the levels that are left
      obtain ⟨rfl, hinner⟩ := enter?_eq_some henter
      obtain ⟨items, hitems, h⟩ := bind_eq_ok.mp h
      obtain ⟨-, -, h⟩ := bind_eq_ok.mp h
      -- one level is used up by the list itself
      have hheight := height_of_bufferItems hitems
      rw [← Except.ok.inj h, height]
      omega
  | _, .map _ _, _, h => by
    rw [buffer] at h
    split at h
    · exact nomatch h
    next inner henter =>
      obtain ⟨rfl, hinner⟩ := enter?_eq_some henter
      obtain ⟨entries, hentries, h⟩ := bind_eq_ok.mp h
      obtain ⟨-, -, h⟩ := bind_eq_ok.mp h
      -- and one by the map
      have hheight := height_of_bufferEntries hentries
      rw [← Except.ok.inj h, height]
      omega

/-- Items that were taken out are lower than the depth. -/
theorem height_of_bufferItems : ∀ {depth : Nat} {drafts : List Draft} {items : List Json},
    bufferItems depth drafts = .ok items → heightOfItems items ≤ depth - 1
  | _, [], _, h => by
    rw [← Except.ok.inj h]
    exact Nat.zero_le _
  | _, _ :: _, _, h => by
    obtain ⟨item, hitem, h⟩ := bind_eq_ok.mp h
    obtain ⟨rest, hrest, h⟩ := bind_eq_ok.mp h
    rw [← Except.ok.inj h]
    exact Nat.max_le.mpr ⟨height_of_buffer hitem, height_of_bufferItems hrest⟩

/-- So are entries. -/
theorem height_of_bufferEntries :
    ∀ {depth : Nat} {drafts : List (Except Fault String × Draft)} {entries : List (String × Json)},
      bufferEntries depth drafts = .ok entries → heightOfEntries entries ≤ depth - 1
  | _, [], _, h => by
    rw [← Except.ok.inj h]
    exact Nat.zero_le _
  | _, (_, _) :: _, _, h => by
    obtain ⟨key, -, h⟩ := bind_eq_ok.mp h
    obtain ⟨value, hvalue, h⟩ := bind_eq_ok.mp h
    obtain ⟨rest, hrest, h⟩ := bind_eq_ok.mp h
    rw [← Except.ok.inj h]
    exact Nat.max_le.mpr ⟨height_of_buffer hvalue, height_of_bufferEntries hrest⟩

end

mutual

/-- A document that is lower than the depth can be taken out of its draft. -/
theorem buffer_ofJson : ∀ {depth : Nat} (j : Json), j.height ≤ depth - 1 → (ofJson j).buffer depth = .ok j
  | _, .null, _ | _, .bool _, _ | _, .num _, _ | _, .str _, _ => rfl
  | _, .list items, h => by
    obtain ⟨inner, henter, hinner⟩ := enter?_of_le h
    rw [ofJson, buffer, henter]
    dsimp only
    rw [bufferItems_ofItems items hinner]
    rfl
  | _, .map entries, h => by
    obtain ⟨inner, henter, hinner⟩ := enter?_of_le h
    rw [ofJson, buffer, henter]
    dsimp only
    rw [bufferEntries_ofEntries entries hinner]
    rfl

/-- Items that are lower than the depth can be taken out of their drafts. -/
theorem bufferItems_ofItems : ∀ {depth : Nat} (items : List Json), heightOfItems items ≤ depth - 1 →
    bufferItems depth (ofItems items) = .ok items
  | _, [], _ => rfl
  | _, item :: rest, h => by
    obtain ⟨hitem, hrest⟩ := Nat.max_le.mp h
    rw [ofItems, bufferItems, buffer_ofJson item hitem, bufferItems_ofItems rest hrest]
    rfl

/-- So can entries. -/
theorem bufferEntries_ofEntries : ∀ {depth : Nat} (entries : List (String × Json)),
    heightOfEntries entries ≤ depth - 1 → bufferEntries depth (ofEntries entries) = .ok entries
  | _, [], _ => rfl
  | _, (key, value) :: rest, h => by
    obtain ⟨hvalue, hrest⟩ := Nat.max_le.mp h
    rw [ofEntries, bufferEntries, buffer_ofJson value hvalue, bufferEntries_ofEntries rest hrest]
    rfl

end

mutual

/-- What was taken out of a draft is all there is in it. -/
theorem eq_ofJson_of_buffer : ∀ {depth : Nat} {draft : Draft} {j : Json}, draft.buffer depth = .ok j → draft = ofJson j
  | _, .null, _, h | _, .bool _, _, h | _, .num _, _, h | _, .str _, _, h => by
    rw [← Except.ok.inj h]
    rfl
  | _, .unfit _, _, h | _, .broken _, _, h => nomatch h
  | _, .list _ stop, _, h => by
    rw [buffer] at h
    split at h
    · exact nomatch h
    next inner henter =>
      obtain ⟨items, hitems, h⟩ := bind_eq_ok.mp h
      obtain ⟨_, hstop, h⟩ := bind_eq_ok.mp h
      -- a list that broke off cannot be taken out
      -- a list that is broken off is not taken out
      cases stop with
      | some stop => exact nomatch hstop
      | none => rw [← Except.ok.inj h, ofJson, eq_ofItems_of_bufferItems hitems]
  | _, .map _ stop, _, h => by
    rw [buffer] at h
    split at h
    · exact nomatch h
    next inner henter =>
      obtain ⟨entries, hentries, h⟩ := bind_eq_ok.mp h
      obtain ⟨_, hstop, h⟩ := bind_eq_ok.mp h
      cases stop with
      | some stop => exact nomatch hstop
      | none => rw [← Except.ok.inj h, ofJson, eq_ofEntries_of_bufferEntries hentries]

/-- Items that were taken out are all there is in their drafts. -/
theorem eq_ofItems_of_bufferItems : ∀ {depth : Nat} {drafts : List Draft} {items : List Json},
    bufferItems depth drafts = .ok items → drafts = ofItems items
  | _, [], _, h => by
    rw [← Except.ok.inj h]
    rfl
  | _, _ :: _, _, h => by
    obtain ⟨item, hitem, h⟩ := bind_eq_ok.mp h
    obtain ⟨rest, hrest, h⟩ := bind_eq_ok.mp h
    rw [← Except.ok.inj h, ofItems, ← eq_ofJson_of_buffer hitem, ← eq_ofItems_of_bufferItems hrest]

/-- So are entries. -/
theorem eq_ofEntries_of_bufferEntries :
    ∀ {depth : Nat} {drafts : List (Except Fault String × Draft)} {entries : List (String × Json)},
      bufferEntries depth drafts = .ok entries → drafts = ofEntries entries
  | _, [], _, h => by
    rw [← Except.ok.inj h]
    rfl
  | _, (_, _) :: _, _, h => by
    obtain ⟨key, hkey, h⟩ := bind_eq_ok.mp h
    obtain ⟨value, hvalue, h⟩ := bind_eq_ok.mp h
    obtain ⟨rest, hrest, h⟩ := bind_eq_ok.mp h
    rw [← Except.ok.inj h, ofEntries, ← eq_ofJson_of_buffer hvalue, ← eq_ofEntries_of_bufferEntries hrest, hkey]

end

/-- A draft that can be taken out is the draft of a document that is lower than the depth. -/
theorem buffer_eq_ok_iff {depth : Nat} {draft : Draft} {j : Json} :
    draft.buffer depth = .ok j ↔ draft = ofJson j ∧ j.height ≤ depth - 1 :=
  ⟨fun h => ⟨eq_ofJson_of_buffer h, height_of_buffer h⟩, fun ⟨hdraft, hheight⟩ => hdraft ▸ buffer_ofJson j hheight⟩

/-- The draft can be taken out at a depth. -/
def Fits (depth : Nat) (draft : Draft) : Prop :=
  ∃ j, draft.buffer depth = .ok j

/-- Items can be taken out when each of them can be. -/
theorem exists_bufferItems_eq_ok {depth : Nat} {items : List Draft} :
    (∃ js, bufferItems depth items = .ok js) ↔ ∀ item ∈ items, item.Fits depth := by
  induction items with
  | nil => exact ⟨fun _ => nofun, fun _ => ⟨[], rfl⟩⟩
  | cons item rest ih =>
    rw [List.forall_mem_cons, ← ih]
    constructor
    · rintro ⟨js, h⟩
      obtain ⟨j, hj, h⟩ := bind_eq_ok.mp h
      obtain ⟨js, hjs, -⟩ := bind_eq_ok.mp h
      exact ⟨⟨j, hj⟩, js, hjs⟩
    · rintro ⟨⟨j, hj⟩, js, hjs⟩
      exact ⟨j :: js, bind_eq_ok.mpr ⟨j, hj, bind_eq_ok.mpr ⟨js, hjs, rfl⟩⟩⟩

/-- A list can be taken out when there is room for one more level and each item can be taken out there. -/
theorem fits_list_iff {depth : Nat} {items : List Draft} :
    (Draft.list items none).Fits depth ↔ ∃ inner, enter? depth = some inner ∧ ∀ item ∈ items, item.Fits inner := by
  unfold Fits
  rw [buffer.eq_def]
  dsimp only
  -- without room for another level nothing can be taken out
  cases enter? depth with
  | none => exact ⟨fun ⟨_, h⟩ => (nomatch h), nofun⟩
  | some inner =>
    constructor
    · rintro ⟨j, h⟩
      obtain ⟨js, hjs, -⟩ := bind_eq_ok.mp h
      exact ⟨inner, rfl, exists_bufferItems_eq_ok.mp ⟨js, hjs⟩⟩
    · rintro ⟨inner', hinner, h⟩
      obtain rfl := Option.some.inj hinner
      obtain ⟨js, hjs⟩ := exists_bufferItems_eq_ok.mpr h
      exact ⟨.list js, bind_eq_ok.mpr ⟨js, hjs, rfl⟩⟩

/-- The drafts of entries, one by one. -/
theorem ofEntries_eq_map (entries : List (String × Json)) :
    ofEntries entries = entries.map fun entry => (.ok entry.1, ofJson entry.2) := by
  induction entries with
  | nil => rfl
  | cons entry rest ih => rw [ofEntries, ih, List.map_cons]

mutual

/-- The draft of a document can be skipped. -/
theorem skip_ofJson : ∀ j : Json, (ofJson j).skip = .ok ()
  | .null | .bool _ | .num _ | .str _ => rfl
  | .list items => by
    rw [ofJson, skip, skipItems_ofItems]
    rfl
  | .map entries => by
    rw [ofJson, skip, skipEntries_ofEntries]
    rfl

/-- So can those of items. -/
theorem skipItems_ofItems : ∀ items : List Json, skipItems (ofItems items) = .ok ()
  | [] => rfl
  | item :: rest => by
    rw [ofItems, skipItems, skip_ofJson item]
    exact skipItems_ofItems rest

/-- So can those of entries. -/
theorem skipEntries_ofEntries : ∀ entries : List (String × Json), skipEntries (ofEntries entries) = .ok ()
  | [] => rfl
  | (key, value) :: rest => by
    rw [ofEntries, skipEntries, skip_ofJson value]
    exact skipEntries_ofEntries rest

end

end Draft

end Signalbox.Json
