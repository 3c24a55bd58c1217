import Mathlib.Data.List.Basic
import Mathlib.Data.String.Basic
import Signalbox.Device.Snapshot

/-!
# Dictionaries and snapshots

What can be seen of a dictionary is its keys and the value of each, and what can be seen of a snapshot is its devices by
their ids. Here it is said what the operations on the two do to them. Nothing of it hangs on the order of the entries: an
insertion finds the key wherever it stands, and where it puts a new one does not matter to who looks it up. The order only
matters to the keys being distinct, which they are in every document whose keys were sorted.

Main results:

* `Json.sortedKeys_sortEntries`: a document has each key once.
* `Dict.get?_insert`, `Dict.mem_keys_insert` and `Dict.get?_map`: what can be seen of a dictionary.
* `Snapshot.Keyed.insert`: devices that are inserted are kept under their ids.
-/

namespace Signalbox

variable {α β : Type}

/-! ## Entries -/

namespace Json

/-- A key is looked up in the first entry and then in the others. -/
theorem lookup_cons_eq_ite (k key : String) (value : α) (rest : List (String × α)) :
    ((key, value) :: rest).lookup k = if k = key then some value else rest.lookup k := by
  rw [List.lookup_cons]
  by_cases h : k = key
  · rw [beq_iff_eq.mpr h, if_pos h]
  · rw [beq_eq_false_iff_ne.mpr h, if_neg h]

/-- An entry that is inserted is found under its key, and the others as before. -/
theorem lookup_insertSorted (key : String) (value : α) (entries : List (String × α)) (k : String) :
    (insertSorted key value entries).lookup k = if k = key then some value else entries.lookup k := by
  induction entries with
  | nil => exact lookup_cons_eq_ite k key value []
  | cons entry rest ih =>
    obtain ⟨first, v⟩ := entry
    rw [insertSorted, lookup_cons_eq_ite k first]
    -- the new key is the first one, comes before it, or goes further back
    split
    next hsame =>
      subst hsame
      rw [lookup_cons_eq_ite]
      split <;> rfl
    next hne =>
      split
      next => rw [lookup_cons_eq_ite, lookup_cons_eq_ite]
      next =>
        rw [lookup_cons_eq_ite, ih]
        by_cases hk : k = key
        · -- the key that is looked up is not the first one, so it is found in the rest
          subst hk
          rw [if_neg hne, if_pos rfl, if_pos rfl]
        · rw [if_neg hk, if_neg hk]

/-- An entry that is there after one was inserted is this one or was there before. -/
theorem mem_insertSorted {key : String} {value : α} {entries : List (String × α)} {entry : String × α}
    (h : entry ∈ insertSorted key value entries) : entry = (key, value) ∨ entry ∈ entries := by
  induction entries with
  | nil => exact .inl (List.mem_singleton.mp h)
  | cons first rest ih =>
    rw [insertSorted] at h
    split at h
    next =>
      exact (List.mem_cons.mp h).imp_right (List.mem_cons_of_mem _)
    next =>
      split at h
      next => exact List.mem_cons.mp h
      next =>
        rcases List.mem_cons.mp h with rfl | h
        · exact .inr List.mem_cons_self
        · exact (ih h).imp_right (List.mem_cons_of_mem _)

/-- The keys of entries are sorted, and thereby distinct. -/
def SortedKeys (entries : List (String × α)) : Prop :=
  entries.Pairwise fun first second => first.1 < second.1

/-- Keys stay sorted when an entry is inserted. -/
theorem SortedKeys.insertSorted {entries : List (String × α)} (h : SortedKeys entries) (key : String) (value : α) :
    SortedKeys (insertSorted key value entries) := by
  induction entries with
  | nil => exact List.pairwise_singleton _ _
  | cons first rest ih =>
    obtain ⟨hfirst, hrest⟩ := List.pairwise_cons.mp h
    rw [Json.insertSorted]
    split
    next hsame => exact List.pairwise_cons.mpr ⟨hsame ▸ hfirst, hrest⟩
    next hne =>
      split
      next hlt =>
        -- the new key comes before the first one, and so before all
        refine List.pairwise_cons.mpr ⟨fun entry hentry => ?_, h⟩
        rcases List.mem_cons.mp hentry with rfl | hentry
        · exact hlt
        · exact lt_trans hlt (hfirst entry hentry)
      next hnlt =>
        -- the new key comes somewhere behind the first one
        refine List.pairwise_cons.mpr ⟨fun entry hentry => ?_, ih hrest⟩
        rcases mem_insertSorted hentry with rfl | hentry
        · exact lt_of_le_of_ne (not_lt.mp hnlt) (Ne.symm hne)
        · exact hfirst entry hentry

/-- Entries that are sorted have sorted keys. -/
theorem sortedKeys_sortEntries (entries : List (String × α)) : SortedKeys (sortEntries entries) := by
  have hinsertions : ∀ sorted : List (String × α), SortedKeys sorted →
      SortedKeys (entries.foldl (fun sorted entry => Json.insertSorted entry.1 entry.2 sorted) sorted) := by
    induction entries with
    | nil => exact fun _ h => h
    | cons entry rest ih => exact fun sorted h => ih _ (h.insertSorted entry.1 entry.2)
  exact hinsertions [] List.Pairwise.nil

theorem SortedKeys.nodup {entries : List (String × α)} (h : SortedKeys entries) : (entries.map Prod.fst).Nodup :=
  (List.pairwise_map.mpr h).imp fun hlt => ne_of_lt hlt

/-- A key has a value when it stands among the entries. -/
theorem mem_keys_iff {entries : List (String × α)} {k : String} :
    k ∈ entries.map Prod.fst ↔ ∃ value, entries.lookup k = some value := by
  rw [← Option.isSome_iff_exists, List.lookup_isSome_iff, List.mem_map]
  simp only [beq_iff_eq, eq_comm (a := k)]

/-- What is found under a key is there. -/
theorem mem_of_lookup {entries : List (String × α)} {k : String} {value : α} (h : entries.lookup k = some value) :
    (k, value) ∈ entries := by
  obtain ⟨before, after, rfl, -⟩ := List.lookup_eq_some_iff.mp h
  exact List.mem_append_right _ List.mem_cons_self

end Json

/-! ## Dictionaries -/

namespace Dict

/-- What was inserted under a key is found there, and the rest as before. -/
theorem get?_insert (d : Dict α) (key : String) (value : α) (k : String) :
    (d.insert key value).get? k = if k = key then some value else d.get? k :=
  Json.lookup_insertSorted key value d.entries k

/-- A change of all values changes what is found under a key. -/
theorem get?_map (f : α → β) (d : Dict α) (key : String) : (d.map f).get? key = (d.get? key).map f := by
  obtain ⟨entries⟩ := d
  show (entries.map fun entry => (entry.1, f entry.2)).lookup key = (entries.lookup key).map f
  induction entries with
  | nil => rfl
  | cons entry rest ih =>
    obtain ⟨first, v⟩ := entry
    rw [List.map_cons, Json.lookup_cons_eq_ite, Json.lookup_cons_eq_ite, ih]
    split <;> rfl

theorem mem_keys_iff {d : Dict α} {key : String} : key ∈ d.keys ↔ ∃ value, d.get? key = some value :=
  Json.mem_keys_iff

/-- An insertion adds its key to the keys. -/
theorem mem_keys_insert {d : Dict α} {key : String} {value : α} {k : String} :
    k ∈ (d.insert key value).keys ↔ k = key ∨ k ∈ d.keys := by
  rw [mem_keys_iff, mem_keys_iff, get?_insert]
  by_cases hk : k = key <;> simp [hk]

end Dict

/-! ## Snapshots -/

namespace Snapshot

/-- The ids of the known devices. -/
def ids (s : Snapshot) : List String :=
  s.devices.keys

/-- Every device is kept under its own id. -/
def Keyed (s : Snapshot) : Prop :=
  ∀ entry ∈ s.devices.entries, entry.2.id = entry.1

theorem mem_ids_iff {s : Snapshot} {id : String} : id ∈ s.ids ↔ ∃ device, s.get? id = some device :=
  Dict.mem_keys_iff

/-- A device that was inserted is found under its id, and the others as before. -/
theorem get?_insert (s : Snapshot) (device : Device) (id : String) :
    (s.insert device).get? id = if id = device.id then some device else s.get? id :=
  Dict.get?_insert s.devices device.id device id

theorem keyed_empty : Keyed empty :=
  fun _ h => nomatch h

namespace Keyed

variable {s : Snapshot}

theorem id_eq (h : s.Keyed) {id : String} {device : Device} (hdevice : s.get? id = some device) : device.id = id :=
  h (id, device) (Json.mem_of_lookup hdevice)

/-- Devices are still found under their ids when one is inserted. -/
theorem insert (h : s.Keyed) (device : Device) : (s.insert device).Keyed := by
  intro entry hentry
  rcases Json.mem_insertSorted hentry with rfl | hold
  · rfl
  · exact h entry hold

end Keyed

end Snapshot

end Signalbox
