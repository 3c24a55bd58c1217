import Mathlib.Data.List.Basic
import Signalbox.Condition.Check
import Signalbox.Device.Status
import Signalbox.Proofs.Device.Snapshot

/-!
# The two forms of a status

A status is a list of maps that say themselves which device they are about, or a map whose keys say so. Either way it comes
down to a list of devices that are inserted one after the other, and all that the two forms can differ in is this list. So
there is one lemma for each form that says which devices it inserts, and what a snapshot knows in the end is said of lists
of devices.

Main results:

* `Snapshot.addItems_of_forall` and `Snapshot.addEntries_of_forall`: which devices the two forms insert.
* `Snapshot.get?_insertAll_of_mem`: what is known of devices with distinct ids.
* `Snapshot.exists_readStatus_eq`: a map that is read has distinct keys.
* `Snapshot.forms_agree`: a list and a map of the same devices mean the same to every condition.
-/

namespace Signalbox

namespace Json

/-- The entries of a map. -/
def entries : Json → List (String × Json)
  | .map entries => entries
  | _ => []

/-- A map with one of its members set. -/
def withMember (item : Json) (key : String) (value : Json) : Json :=
  match item with
  | .map entries => .map (insertSorted key value entries)
  | other => other

/-- A map is about the device with an id: its name is this text or, when it has no name, its id is. -/
def Identifies (item : Json) (id : String) : Prop :=
  item.get? "name" = some (.str id) ∨ item.get? "name" = none ∧ item.get? "id" = some (.str id)

/-- The device that an item of a status list is about. -/
def device? : Json → Option Device
  | .map properties => (Snapshot.idOf? properties).map fun id => ⟨id, ⟨properties⟩⟩
  | _ => none

/-- An id is found exactly if the properties identify it. -/
theorem idOf?_eq_some_iff {properties : List (String × Json)} {id : String} :
    Snapshot.idOf? properties = some id ↔ (Json.map properties).Identifies id := by
  rw [Snapshot.idOf?, Identifies, get?, get?]
  cases hname : properties.lookup "name" with
  | none =>
    cases hid : properties.lookup "id" with
    | none => simp
    | some value => cases value <;> simp
  | some value => cases value <;> simp

/-- An item is a device exactly if it is a map that identifies the device. -/
theorem device?_eq_some_iff {item : Json} {device : Device} :
    item.device? = some device ↔ item = .map device.properties.entries ∧ item.Identifies device.id := by
  cases item with
  | map properties =>
    rw [device?, Option.map_eq_some_iff]
    constructor
    · rintro ⟨id, hid, rfl⟩
      exact ⟨rfl, idOf?_eq_some_iff.mp hid⟩
    · rintro ⟨hsame, hid⟩
      obtain rfl := Json.map.inj hsame
      exact ⟨device.id, idOf?_eq_some_iff.mpr hid, rfl⟩
  | _ => simp [device?]

/-- An item that identifies an id is a device with this id. -/
theorem identifies_iff {item : Json} {id : String} :
    item.Identifies id ↔ ∃ device, item.device? = some device ∧ device.id = id := by
  constructor
  · intro h
    cases item with
    | map properties => exact ⟨⟨id, ⟨properties⟩⟩, device?_eq_some_iff.mpr ⟨rfl, h⟩, rfl⟩
    | _ => simp [Identifies, get?] at h
  · rintro ⟨device, hdevice, rfl⟩
    exact (device?_eq_some_iff.mp hdevice).2

end Json

namespace Snapshot

/-- The snapshot with devices, of which a later one takes the place of an earlier one with its id. -/
def insertAll (s : Snapshot) (devices : List Device) : Snapshot :=
  devices.foldl insert s

variable {s t : Snapshot} {devices : List Device} {device : Device} {id : String}

/-! ## Lists of devices -/

theorem mem_ids_insert : id ∈ (s.insert device).ids ↔ id = device.id ∨ id ∈ s.ids :=
  Dict.mem_keys_insert

/-- Devices that are inserted add their ids. -/
theorem mem_ids_insertAll : id ∈ (s.insertAll devices).ids ↔ (∃ d ∈ devices, d.id = id) ∨ id ∈ s.ids := by
  induction devices generalizing s with
  | nil => simp [insertAll]
  | cons device rest ih =>
    show id ∈ ((s.insert device).insertAll rest).ids ↔ _
    rw [ih, mem_ids_insert, List.exists_mem_cons_iff, ← or_assoc, eq_comm (a := id), or_comm (a := device.id = id)]

/-- Devices are still found under their ids when others are inserted. -/
theorem Keyed.insertAll (h : s.Keyed) (devices : List Device) : (s.insertAll devices).Keyed := by
  induction devices generalizing s with
  | nil => exact h
  | cons device rest ih => exact ih (h.insert device)

/-- What is found under an id that none of the devices has stays. -/
theorem get?_insertAll_of_forall_ne (h : ∀ d ∈ devices, d.id ≠ id) : (s.insertAll devices).get? id = s.get? id := by
  induction devices generalizing s with
  | nil => rfl
  | cons device rest ih =>
    obtain ⟨hfirst, hrest⟩ := List.forall_mem_cons.mp h
    show ((s.insert device).insertAll rest).get? id = _
    rw [ih hrest, get?_insert, if_neg (Ne.symm hfirst)]

/-- The last device with an id is the one that is known. -/
theorem get?_insertAll_of_last {before after : List Device} (h : ∀ d ∈ after, d.id ≠ device.id) :
    (s.insertAll (before ++ device :: after)).get? device.id = some device := by
  have hsplit : s.insertAll (before ++ device :: after) = ((s.insertAll before).insert device).insertAll after := by
    rw [insertAll, List.foldl_append]
    rfl
  rw [hsplit, get?_insertAll_of_forall_ne h, get?_insert, if_pos rfl]

/-- Devices with distinct ids are all known, in whatever order they come. -/
theorem get?_insertAll_of_mem (hdistinct : (devices.map Device.id).Nodup) (h : device ∈ devices) :
    (s.insertAll devices).get? device.id = some device := by
  obtain ⟨before, after, rfl⟩ := List.append_of_mem h
  refine get?_insertAll_of_last fun d hd hsame => ?_
  rw [List.map_append, List.map_cons] at hdistinct
  obtain ⟨-, hdistinct, -⟩ := List.nodup_append.mp hdistinct
  exact (List.nodup_cons.mp hdistinct).1 (hsame ▸ List.mem_map_of_mem hd)

/-! ## The two forms -/

variable {items : List Json} {entries : List (String × Json)} {n : Nat}

/-- An item that is a device is inserted, and the next one is looked at. -/
theorem addItems_cons_of_some {item : Json} (h : item.device? = some device) (s : Snapshot) (n : Nat)
    (rest : List Json) : addItems s n (item :: rest) = addItems (s.insert device) (n + 1) rest := by
  obtain ⟨properties, hitem⟩ : ∃ properties, item = .map properties := ⟨_, (Json.device?_eq_some_iff.mp h).1⟩
  subst hitem
  obtain ⟨id, hid, rfl⟩ := Option.map_eq_some_iff.mp h
  rw [addItems, hid]

/-- An item that is no device makes the whole list fail. -/
theorem addItems_cons_of_none {item : Json} (h : item.device? = none) (s : Snapshot) (n : Nat) (rest : List Json) :
    ∃ e, addItems s n (item :: rest) = .error e := by
  cases item with
  | map properties =>
    have hid : idOf? properties = none := Option.map_eq_none_iff.mp h
    rw [addItems, hid]
    exact ⟨_, rfl⟩
  | _ => exact ⟨_, rfl⟩

/-- A list of maps each of which is about a device inserts these devices. -/
theorem addItems_of_forall (h : ∀ item ∈ items, ∃ id, item.Identifies id) (s : Snapshot) (n : Nat) :
    addItems s n items = .ok (s.insertAll (items.filterMap Json.device?)) := by
  induction items generalizing s n with
  | nil => rfl
  | cons item rest ih =>
    obtain ⟨⟨id, hid⟩, hrest⟩ := List.forall_mem_cons.mp h
    obtain ⟨device, hdevice, -⟩ := Json.identifies_iff.mp hid
    rw [addItems_cons_of_some hdevice, ih hrest, List.filterMap_cons_some hdevice]
    rfl

/-- An item that is about no device makes a list fail, unless one before it does. -/
theorem addItems_of_mem {item : Json} (hitem : item ∈ items) (hnone : ∀ id, ¬ item.Identifies id) (s : Snapshot)
    (n : Nat) : ∃ e, addItems s n items = .error e := by
  induction items generalizing s n with
  | nil => exact absurd hitem List.not_mem_nil
  | cons first rest ih =>
    cases hfirst : first.device? with
    | none => exact addItems_cons_of_none hfirst s n rest
    | some device =>
      -- this item is read, and the one that is not comes later
      rw [addItems_cons_of_some hfirst]
      rcases List.mem_cons.mp hitem with rfl | hrest
      · exact absurd (Json.identifies_iff.mpr ⟨device, hfirst, rfl⟩) (hnone device.id)
      · exact ih hrest _ _

/-- A map of maps inserts the devices with its keys for ids. -/
theorem addEntries_of_forall (h : ∀ entry ∈ entries, ∃ properties, entry.2 = .map properties) (s : Snapshot) :
    addEntries s entries = .ok (s.insertAll (entries.map fun entry => ⟨entry.1, ⟨entry.2.entries⟩⟩)) := by
  induction entries generalizing s with
  | nil => rfl
  | cons entry rest ih =>
    obtain ⟨⟨properties, hproperties⟩, hrest⟩ := List.forall_mem_cons.mp h
    obtain ⟨id, value⟩ := entry
    obtain rfl : value = .map properties := hproperties
    rw [addEntries, ih hrest]
    rfl

/-- A list fails exactly if one of its items identifies nothing. -/
theorem addItems_eq_error_iff :
    (∃ e, addItems s n items = .error e) ↔ ∃ item ∈ items, ∀ id, ¬ item.Identifies id := by
  constructor
  · rintro ⟨e, he⟩
    by_contra hall
    push Not at hall
    rw [addItems_of_forall hall] at he
    cases he
  · rintro ⟨item, hitem, hnone⟩
    exact addItems_of_mem hitem hnone s n

/-- A list that goes through inserts its devices in their order. -/
theorem addItems_eq_ok (h : addItems s n items = .ok t) : t = s.insertAll (items.filterMap Json.device?) := by
  have hall : ∀ item ∈ items, ∃ id, item.Identifies id := by
    by_contra hnot
    push Not at hnot
    obtain ⟨e, he⟩ := addItems_eq_error_iff.mpr hnot
    rw [h] at he
    cases he
  rw [addItems_of_forall hall] at h
  exact (Except.ok.inj h).symm

/-- A list makes the devices known that its items are about. -/
theorem mem_ids_insertAll_items :
    id ∈ (empty.insertAll (items.filterMap Json.device?)).ids ↔ ∃ item ∈ items, item.Identifies id := by
  rw [mem_ids_insertAll]
  simp only [List.mem_filterMap, Json.identifies_iff]
  constructor
  · rintro (⟨device, ⟨item, hitem, hdevice⟩, hid⟩ | hnone)
    · exact ⟨item, hitem, device, hdevice, hid⟩
    · -- the snapshot without devices knows none
      exact absurd hnone List.not_mem_nil
  · rintro ⟨item, hitem, device, hdevice, hid⟩
    exact .inl ⟨device, ⟨item, hitem, hdevice⟩, hid⟩

/-- The last item about a device is the one that counts. -/
theorem get?_insertAll_items {before after : List Json} {properties : List (String × Json)}
    (hid : (Json.map properties).Identifies id) (hlast : ∀ other ∈ after, ¬ other.Identifies id) :
    (s.insertAll ((before ++ .map properties :: after).filterMap Json.device?)).get? id =
      some ⟨id, ⟨properties⟩⟩ := by
  have hdevice : (Json.map properties).device? = some ⟨id, ⟨properties⟩⟩ :=
    Json.device?_eq_some_iff.mpr ⟨rfl, hid⟩
  have hothers : ∀ d ∈ after.filterMap Json.device?, d.id ≠ (⟨id, ⟨properties⟩⟩ : Device).id := by
    intro d hd hsame
    obtain ⟨other, hother, hd⟩ := List.mem_filterMap.mp hd
    exact hlast other hother (Json.identifies_iff.mpr ⟨d, hd, hsame⟩)
  rw [List.filterMap_append, List.filterMap_cons_some hdevice]
  exact get?_insertAll_of_last hothers

/-- So does a map. -/
theorem exists_insertAll_of_addEntries (h : addEntries s entries = .ok t) : ∃ devices, t = s.insertAll devices := by
  induction entries generalizing s with
  | nil =>
    obtain rfl := Except.ok.inj h
    exact ⟨[], rfl⟩
  | cons entry rest ih =>
    obtain ⟨id, value⟩ := entry
    cases value with
    | map properties =>
      obtain ⟨devices, rfl⟩ := ih h
      exact ⟨_ :: devices, rfl⟩
    | _ => cases h

/-- Every device of a snapshot that was read is kept under its own id. -/
theorem keyed_of_ofStatus {status : Json} (h : ofStatus status = .ok s) : s.Keyed := by
  cases status with
  | list items =>
    obtain rfl := addItems_eq_ok h
    exact keyed_empty.insertAll _
  | map entries =>
    obtain ⟨devices, rfl⟩ := exists_insertAll_of_addEntries h
    exact keyed_empty.insertAll devices
  | _ => cases h

/-! ## Entries and items -/

/-- The device of an entry of a status map. -/
def mapped (entry : String × Json) : Device :=
  ⟨entry.1, ⟨entry.2.entries⟩⟩

/-- The entry of a status map as an item of a status list. -/
def named (entry : String × Json) : Json :=
  entry.2.withMember "name" (.str entry.1)

/-- The device of an entry as an item. -/
def listed (entry : String × Json) : Device :=
  ⟨entry.1, ⟨Json.insertSorted "name" (.str entry.1) entry.2.entries⟩⟩

/-- An entry of a map is the device that its key names. -/
theorem device?_named {entry : String × Json} (h : ∃ properties, entry.2 = .map properties) :
    (named entry).device? = some (listed entry) := by
  obtain ⟨id, value⟩ := entry
  obtain ⟨properties, hproperties⟩ := h
  obtain rfl : value = .map properties := hproperties
  have hname : (Json.insertSorted "name" (.str id) properties).lookup "name" = some (.str id) := by
    rw [Json.lookup_insertSorted, if_pos rfl]
  exact Json.device?_eq_some_iff.mpr ⟨rfl, .inl hname⟩

/-- The two devices of an entry differ in their name at most. -/
theorem get?_listed {property : String} (h : property ≠ "name") (entry : String × Json) :
    (listed entry).get? property = (mapped entry).get? property :=
  (Json.lookup_insertSorted "name" _ entry.2.entries property).trans (if_neg h)

/-- The devices of a map are those that its keys name. -/
theorem filterMap_named (h : ∀ entry ∈ entries, ∃ properties, entry.2 = .map properties) :
    (entries.map named).filterMap Json.device? = entries.map listed := by
  induction entries with
  | nil => rfl
  | cons entry rest ih =>
    obtain ⟨hfirst, hrest⟩ := List.forall_mem_cons.mp h
    rw [List.map_cons, List.filterMap_cons_some (device?_named hfirst), ih hrest, List.map_cons]

/-- A condition sees no more of a device than the property that it is about. -/
theorem evaluate_congr {c : Condition} {d d' : Device} (hs : s.get? c.device = some d) (ht : t.get? c.device = some d')
    (h : d.get? c.property = d'.get? c.property) : c.evaluate s = c.evaluate t := by
  rw [Condition.evaluate_of_known hs, Condition.evaluate_of_known ht, Device.numeric, Device.numeric, h]

/-- The devices of a map and those of a list of its entries, in any order, are the same to every condition that does not
ask for a name. -/
theorem evaluate_insertAll_eq (hdistinct : (entries.map Prod.fst).Nodup) (hperm : devices.Perm (entries.map listed))
    {c : Condition} (hproperty : c.property ≠ "name") :
    c.evaluate (empty.insertAll (entries.map mapped)) = c.evaluate (empty.insertAll devices) := by
  have hmapped : ((entries.map mapped).map Device.id).Nodup := by rwa [List.map_map]
  have hlisted : (devices.map Device.id).Nodup := by
    rw [(hperm.map Device.id).nodup_iff, List.map_map]
    exact hdistinct
  by_cases hknown : ∃ entry ∈ entries, entry.1 = c.device
  · -- both know the device, and differ in its name only
    obtain ⟨entry, hentry, hid⟩ := hknown
    have hs : (empty.insertAll (entries.map mapped)).get? entry.1 = some (mapped entry) :=
      get?_insertAll_of_mem hmapped (List.mem_map_of_mem hentry)
    have ht : (empty.insertAll devices).get? entry.1 = some (listed entry) :=
      get?_insertAll_of_mem hlisted (hperm.mem_iff.mpr (List.mem_map_of_mem hentry))
    rw [hid] at hs ht
    exact evaluate_congr hs ht (get?_listed hproperty entry).symm
  · -- neither of the two knows the device
    have hs : (empty.insertAll (entries.map mapped)).get? c.device = none :=
      get?_insertAll_of_forall_ne fun d hd hid => by
        obtain ⟨entry, hentry, rfl⟩ := List.mem_map.mp hd
        exact hknown ⟨entry, hentry, hid⟩
    have ht : (empty.insertAll devices).get? c.device = none :=
      get?_insertAll_of_forall_ne fun d hd hid => by
        obtain ⟨entry, hentry, rfl⟩ := List.mem_map.mp (hperm.mem_iff.mp hd)
        exact hknown ⟨entry, hentry, hid⟩
    rw [Condition.evaluate_of_unknown hs, Condition.evaluate_of_unknown ht]

/-! ## What the forms mean -/

/-- The entries of a map that is read from a text have distinct keys, also when the text repeats one. -/
theorem exists_readStatus_eq {text : String} {written : List (String × Json)} (h : Json.read text = .ok (.map written)) :
    ∃ entries, readStatus text = ofStatus (.map entries) ∧ (entries.map Prod.fst).Nodup := by
  refine ⟨Json.sortEntries (Json.canonicalEntries written), ?_, (Json.sortedKeys_sortEntries _).nodup⟩
  rw [readStatus, h, ← Json.canonical]

/-- A map from ids to maps, and a list that has each of these maps with its id for a name, in any order, are both read.
They give the same known devices, and the same outcome to every condition that does not ask for a name. A list is refused
when an item of it is no map, or has neither a text for a name nor, without a name, a text for an id. Otherwise a device is
known when an item is about it, with the properties of the last such item. -/
theorem forms_agree :
    (∀ entries : List (String × Json), (entries.map Prod.fst).Nodup →
      (∀ entry ∈ entries, ∃ properties, entry.2 = .map properties) →
      ∀ items : List Json, items.Perm (entries.map fun entry => entry.2.withMember "name" (.str entry.1)) →
        ∃ s t, ofStatus (.map entries) = .ok s ∧ ofStatus (.list items) = .ok t ∧
          (∀ id, id ∈ s.ids ↔ id ∈ t.ids) ∧
          ∀ c : Condition, c.property ≠ "name" → c.evaluate s = c.evaluate t) ∧
    ∀ items : List Json,
      ((∃ e, ofStatus (.list items) = .error e) ↔ ∃ item ∈ items, ∀ id, ¬ item.Identifies id) ∧
      ∀ t, ofStatus (.list items) = .ok t →
        (∀ id, id ∈ t.ids ↔ ∃ item ∈ items, item.Identifies id) ∧
        ∀ before properties after id, items = before ++ .map properties :: after →
          (Json.map properties).Identifies id → (∀ other ∈ after, ¬ other.Identifies id) →
          t.get? id = some ⟨id, ⟨properties⟩⟩ := by
  refine ⟨fun entries hdistinct hmaps items hperm => ?_, fun items => ⟨addItems_eq_error_iff, fun t ht => ?_⟩⟩
  · -- an entry that got its key as a name identifies that device
    have hidentified : ∀ item ∈ items, ∃ id, item.Identifies id := by
      intro item hitem
      obtain ⟨entry, hentry, rfl⟩ := List.mem_map.mp (hperm.mem_iff.mp hitem)
      exact ⟨_, Json.identifies_iff.mpr ⟨_, device?_named (hmaps entry hentry), rfl⟩⟩
    have hdevices : (items.filterMap Json.device?).Perm (entries.map listed) :=
      filterMap_named hmaps ▸ hperm.filterMap Json.device?
    refine ⟨_, _, addEntries_of_forall hmaps empty, addItems_of_forall hidentified empty 0, fun id => ?_,
      fun c hproperty => evaluate_insertAll_eq hdistinct hdevices hproperty⟩
    rw [mem_ids_insertAll, mem_ids_insertAll]
    simp [hdevices.mem_iff, listed]
  · obtain rfl := addItems_eq_ok ht
    refine ⟨fun id => mem_ids_insertAll_items, fun before properties after id hitems hid hlast => ?_⟩
    subst hitems
    exact get?_insertAll_items hid hlast

/-- Two devices whose entries say other names. -/
def renamed : List (String × Json) :=
  [("AB12", .map [("id", .str "X1"), ("name", .str "X2"), ("speed", .str "600")]), ("CD34", .map [("speed", .bool true)])]

/-- Two devices under keys of their own, and the same two as a list, in which the second names itself twice. -/
theorem forms_agree_renamed :
    (∃ s t, ofStatus (.map renamed) = .ok s ∧
      ofStatus (.list [.map [("name", .str "CD34"), ("speed", .bool true)],
        .map [("id", .str "X1"), ("name", .str "AB12"), ("speed", .str "600")]]) = .ok t ∧
      ("AB12" ∈ s.ids ↔ "AB12" ∈ t.ids) ∧ ("X2" ∈ s.ids ↔ "X2" ∈ t.ids) ∧
      (⟨"AB12", "speed", .ge, 500⟩ : Condition).evaluate s = (⟨"AB12", "speed", .ge, 500⟩ : Condition).evaluate t) ∧
    ∃ t, ofStatus (.list [.map [("name", .str "AB12"), ("speed", .str "1")],
        .map [("id", .str "AB12"), ("speed", .str "2")]]) = .ok t ∧
      t.get? "AB12" = some ⟨"AB12", ⟨[("id", .str "AB12"), ("speed", .str "2")]⟩⟩ := by
  constructor
  · -- an entry says other names than its key, and the list is in another order
    have hdistinct : (renamed.map Prod.fst).Nodup := by decide
    have hmaps : ∀ entry ∈ renamed, ∃ properties, entry.2 = .map properties := by simp [renamed]
    obtain ⟨s, t, hs, ht, hids, houtcome⟩ := forms_agree.1 renamed hdistinct hmaps
      [.map [("name", .str "CD34"), ("speed", .bool true)],
        .map [("id", .str "X1"), ("name", .str "AB12"), ("speed", .str "600")]] (List.Perm.swap _ _ _)
    exact ⟨s, t, hs, ht, hids "AB12", hids "X2", houtcome _ (by decide)⟩
  · -- two items that identify the same device, of which the second one stays
    refine ⟨_, rfl, ?_⟩
    refine ((forms_agree.2 _).2 _ rfl).2 [.map [("name", .str "AB12"), ("speed", .str "1")]] _ [] "AB12" rfl ?_ ?_
    · exact .inr ⟨rfl, rfl⟩
    · exact fun other h => absurd h List.not_mem_nil

end Snapshot

end Signalbox
