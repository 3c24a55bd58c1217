import Mathlib.Data.List.Induction
import Signalbox.Proofs.Device.Status

/-!
# Sequences of commands

A command to one device makes the device known, and one to `all` reaches the devices that are known when it comes. So it
hangs on the commands before it whom a command reaches, and this is said here without carrying any of them out:
`Snapshot.Reaches` looks at the first snapshot and at the targets of the commands before. What a snapshot holds in the
end is then what the last command wrote that reached a device.

Main results:

* `Snapshot.value?_apply_of_reaches` and `Snapshot.value?_apply_of_not_reaches`: what one command does to a property.
* `Snapshot.value?_foldl_apply`: what a sequence does to one.
* `Snapshot.last_write_wins`: what a sequence of commands makes of a snapshot.
-/

namespace Signalbox

namespace Device

theorem get?_set (d : Device) (prop : String) (value : Scalar) (property : String) :
    (d.set prop value).get? property = if property = prop then some value.toJson else d.get? property :=
  Dict.get?_insert d.properties prop value.toJson property

end Device

namespace Snapshot

/-- The value of a device's property. -/
def value? (s : Snapshot) (id property : String) : Option Json :=
  (s.get? id).bind (·.get? property)

/-- A device is known after some commands: it was at first, or one of them was for it. -/
def Known (s : Snapshot) (earlier : List DeviceCommand) (id : String) : Prop :=
  id ∈ s.ids ∨ ∃ c ∈ earlier, c.device = id ∧ c.device ≠ DeviceCommand.all

/-- A command that comes after others reaches a device: it is for this device, or for all and the device is known. -/
def Reaches (s : Snapshot) (earlier : List DeviceCommand) (c : DeviceCommand) (id : String) : Prop :=
  (c.device = id ∧ c.device ≠ DeviceCommand.all) ∨ (c.device = DeviceCommand.all ∧ s.Known earlier id)

/-- The command at an index writes a property of a device. -/
structure WritesAt (s : Snapshot) (cs : List DeviceCommand) (id property : String) (n : Nat) (c : DeviceCommand) :
    Prop where
  get_eq : cs[n]? = some c
  prop_eq : c.prop = property
  reaches : s.Reaches (cs.take n) c id

variable {s : Snapshot} {c : DeviceCommand} {id property : String}

/-! ## One command -/

/-- A command to all devices sets the property of each device that is known. -/
theorem get?_apply_of_all (h : c.device = DeviceCommand.all) (s : Snapshot) (id : String) :
    (s.apply c).get? id = (s.get? id).map (·.set c.prop c.value) := by
  rw [apply, if_pos h]
  exact Dict.get?_map _ s.devices id

/-- A command to one device sets its property, and the device is known afterwards. -/
theorem get?_apply_of_ne_all (h : c.device ≠ DeviceCommand.all) (s : Snapshot) (id : String) :
    (s.apply c).get? id =
      if id = c.device then some (((s.get? id).getD ⟨id, .empty⟩).set c.prop c.value) else s.get? id := by
  rw [apply, if_neg h]
  refine (Dict.get?_insert s.devices c.device _ id).trans ?_
  by_cases hid : id = c.device
  · subst hid
    rfl
  · rw [if_neg hid, if_neg hid]
    rfl

/-- A command makes its target known, and nothing else. -/
theorem mem_ids_apply : id ∈ (s.apply c).ids ↔ id ∈ s.ids ∨ (c.device = id ∧ c.device ≠ DeviceCommand.all) := by
  rw [mem_ids_iff, mem_ids_iff]
  by_cases hall : c.device = DeviceCommand.all
  · rw [get?_apply_of_all hall]
    cases s.get? id <;> simp [hall]
  · rw [get?_apply_of_ne_all hall]
    by_cases hid : id = c.device
    · simp [hid, hall]
    · rw [if_neg hid]
      simp [Ne.symm hid]

theorem known_nil : s.Known [] id ↔ id ∈ s.ids := by
  rw [Known]
  simp

/-- A command that reaches a device leaves its value there. -/
theorem value?_apply_of_reaches (h : s.Reaches [] c id) : (s.apply c).value? id c.prop = some c.value.toJson := by
  rw [value?]
  rcases h with ⟨rfl, hall⟩ | ⟨hall, hknown⟩
  · rw [get?_apply_of_ne_all hall, if_pos rfl, Option.bind_some, Device.get?_set, if_pos rfl]
  · obtain ⟨device, hdevice⟩ := mem_ids_iff.mp (known_nil.mp hknown)
    rw [get?_apply_of_all hall, hdevice, Option.map_some, Option.bind_some, Device.get?_set, if_pos rfl]

/-- Another property is not changed by a command, and another device is not. -/
theorem value?_apply_of_not_reaches (h : ¬ (c.prop = property ∧ s.Reaches [] c id)) :
    (s.apply c).value? id property = s.value? id property := by
  rw [value?, value?]
  by_cases hall : c.device = DeviceCommand.all
  · rw [get?_apply_of_all hall]
    cases hdevice : s.get? id with
    | none => rfl
    | some device =>
      have hprop : property ≠ c.prop := by
        rintro rfl
        exact h ⟨rfl, .inr ⟨hall, known_nil.mpr (mem_ids_iff.mpr ⟨device, hdevice⟩)⟩⟩
      rw [Option.map_some, Option.bind_some, Option.bind_some, Device.get?_set, if_neg hprop]
  · rw [get?_apply_of_ne_all hall]
    by_cases hid : id = c.device
    · have hprop : property ≠ c.prop := by
        rintro rfl
        exact h ⟨rfl, .inl ⟨hid.symm, hall⟩⟩
      rw [if_pos hid, Option.bind_some, Device.get?_set, if_neg hprop]
      -- a device that becomes known has no properties before
      cases s.get? id <;> rfl
    · rw [if_neg hid]

/-- Devices are found under their ids after a command. -/
theorem Keyed.apply (h : s.Keyed) (c : DeviceCommand) : (s.apply c).Keyed := by
  rw [Snapshot.apply]
  split
  next =>
    intro entry hentry
    obtain ⟨old, hold, rfl⟩ := List.mem_map.mp hentry
    exact h old hold
  next =>
    intro entry hentry
    rcases Json.mem_insertSorted hentry with rfl | hold
    · -- a device that is known has its own id, and one that becomes known gets the target's
      cases hdevice : s.get? c.device with
      | none => rfl
      | some device =>
        have hid : device.id = c.device := h.id_eq hdevice
        exact hid
    · exact h entry hold

/-! ## Sequences -/

variable {cs : List DeviceCommand} {n : Nat}

/-- What is known in the end can be told from the commands. -/
theorem mem_ids_foldl_apply : id ∈ (cs.foldl apply s).ids ↔ s.Known cs id := by
  induction cs using List.reverseRecOn with
  | nil => exact known_nil.symm
  | append_singleton cs c ih =>
    rw [List.foldl_concat, mem_ids_apply, ih, Known, Known, or_assoc]
    simp only [List.mem_append, List.mem_singleton, or_and_right, exists_or, exists_eq_left]

/-- Whom a command reaches can be told from the commands before it. -/
theorem reaches_foldl_apply : (cs.foldl apply s).Reaches [] c id ↔ s.Reaches cs c id := by
  rw [Reaches, Reaches, known_nil, mem_ids_foldl_apply]

/-- Devices that are found under their ids still are after any commands. -/
theorem Keyed.foldl_apply (h : s.Keyed) (cs : List DeviceCommand) : (cs.foldl Snapshot.apply s).Keyed := by
  induction cs generalizing s with
  | nil => exact h
  | cons c cs ih => exact ih (h.apply c)

/-- A write is one of the commands. -/
theorem WritesAt.lt_length (h : s.WritesAt cs id property n c) : n < cs.length :=
  (List.getElem?_eq_some_iff.mp h.get_eq).1

/-- The command at the end of a sequence. -/
theorem writesAt_length {last : DeviceCommand} (hprop : last.prop = property) (h : s.Reaches cs last id) :
    s.WritesAt (cs ++ [last]) id property cs.length last where
  get_eq := List.getElem?_concat_length
  prop_eq := hprop
  reaches := by rwa [List.take_left]

/-- Another command at the end makes no difference to the commands before it. -/
theorem writesAt_concat {last : DeviceCommand} (hn : n < cs.length) :
    s.WritesAt (cs ++ [last]) id property n c ↔ s.WritesAt cs id property n c := by
  constructor
  · rintro ⟨hget, hprop, hreaches⟩
    rw [List.getElem?_append_left hn] at hget
    rw [List.take_append_of_le_length (Nat.le_of_lt hn)] at hreaches
    exact ⟨hget, hprop, hreaches⟩
  · rintro ⟨hget, hprop, hreaches⟩
    refine ⟨?_, hprop, ?_⟩
    · rwa [List.getElem?_append_left hn]
    · rwa [List.take_append_of_le_length (Nat.le_of_lt hn)]

/-- A command that is at the end is the last one. -/
theorem WritesAt.of_concat {last : DeviceCommand} (h : s.WritesAt (cs ++ [last]) id property n c)
    (hn : ¬ n < cs.length) : n = cs.length ∧ c = last ∧ last.prop = property ∧ s.Reaches cs last id := by
  have hlength := h.lt_length
  rw [List.length_append, List.length_singleton] at hlength
  obtain rfl : n = cs.length := by omega
  obtain ⟨hget, hprop, hreaches⟩ := h
  rw [List.getElem?_concat_length] at hget
  obtain rfl := Option.some.inj hget
  rw [List.take_left] at hreaches
  exact ⟨rfl, rfl, hprop, hreaches⟩

/-- A property has the value that was written last, and its first one if it was not written. -/
theorem value?_foldl_apply (s : Snapshot) (cs : List DeviceCommand) (id property : String) :
    (∀ n c, s.WritesAt cs id property n c → (∀ m c', s.WritesAt cs id property m c' → m ≤ n) →
      (cs.foldl apply s).value? id property = some c.value.toJson) ∧
    ((∀ n c, ¬ s.WritesAt cs id property n c) → (cs.foldl apply s).value? id property = s.value? id property) := by
  -- from the end, so that the other commands keep their indices and what comes before them
  induction cs using List.reverseRecOn with
  | nil => exact ⟨fun n c h => absurd h.lt_length (Nat.not_lt_zero n), fun _ => rfl⟩
  | append_singleton cs last ih =>
    obtain ⟨hwritten, hkept⟩ := ih
    rw [List.foldl_concat]
    by_cases hlast : last.prop = property ∧ s.Reaches cs last id
    · -- the command at the end writes, and no command is behind it
      obtain ⟨rfl, hreaches⟩ := hlast
      have hvalue := value?_apply_of_reaches (reaches_foldl_apply.mpr hreaches)
      have hwrites := writesAt_length rfl hreaches
      refine ⟨fun n c h hgreatest => ?_, fun hnone => absurd hwrites (hnone _ _)⟩
      have hn : ¬ n < cs.length := Nat.not_lt.mpr (hgreatest _ _ hwrites)
      obtain ⟨-, rfl, -, -⟩ := h.of_concat hn
      exact hvalue
    · -- the command at the end does nothing to the property, and is not among those that write it
      have hsame : ∀ n c, s.WritesAt (cs ++ [last]) id property n c ↔ s.WritesAt cs id property n c := by
        intro n c
        by_cases hn : n < cs.length
        · exact writesAt_concat hn
        · exact iff_of_false (fun h => hlast (h.of_concat hn).2.2) fun h => hn h.lt_length
      rw [value?_apply_of_not_reaches fun h => hlast (h.imp_right reaches_foldl_apply.mp)]
      simp only [hsame]
      exact ⟨hwritten, hkept⟩

/-- A sequence of commands makes its targets known besides the devices that were, and keeps every device under its own id,
as it is in every snapshot that is read from a status or built by insertions. A known device has for each property the
value that the last command for this property wrote which reached the device when it came; a property that no such
command wrote is as it was. -/
theorem last_write_wins (s : Snapshot) (cs : List DeviceCommand) :
    (∀ id, id ∈ (cs.foldl apply s).ids ↔
      id ∈ s.ids ∨ ∃ c ∈ cs, c.device = id ∧ c.device ≠ DeviceCommand.all) ∧
    (s.Keyed → (cs.foldl apply s).Keyed) ∧
    (∀ status read, ofStatus status = .ok read → read.Keyed) ∧
    Keyed empty ∧ (∀ device, s.Keyed → (s.insert device).Keyed) ∧
    ∀ id ∈ (cs.foldl apply s).ids, ∃ device, (cs.foldl apply s).get? id = some device ∧ ∀ property,
      (∀ n c, s.WritesAt cs id property n c → (∀ m c', s.WritesAt cs id property m c' → m ≤ n) →
        device.get? property = some c.value.toJson) ∧
      ((∀ n c, ¬ s.WritesAt cs id property n c) →
        device.get? property = (s.get? id).bind (·.get? property)) := by
  refine ⟨fun id => mem_ids_foldl_apply, fun h => h.foldl_apply cs, fun status read h => keyed_of_ofStatus h,
    keyed_empty, fun device h => h.insert device, fun id hid => ?_⟩
  obtain ⟨device, hdevice⟩ := mem_ids_iff.mp hid
  refine ⟨device, hdevice, fun property => ?_⟩
  -- a property is looked up in the device that is found
  have hvalue : (cs.foldl apply s).value? id property = device.get? property := by
    rw [value?, hdevice, Option.bind_some]
  rw [← hvalue]
  exact value?_foldl_apply s cs id property

/-- A light for all devices, a speed for a device that is not known, and another speed for all. -/
def lateDevice : List DeviceCommand :=
  [⟨"all", "light", .text "0"⟩, ⟨"C3", "speed", .text "5"⟩, ⟨"all", "speed", .text "9"⟩]

/-- A device that becomes known in between gets the later speed and has no light. -/
theorem last_write_wins_lateDevice :
    ∃ device, (lateDevice.foldl apply empty).get? "C3" = some device ∧ device.get? "speed" = some (.str "9") ∧
      device.get? "light" = none := by
  obtain ⟨hids, -, -, -, -, hvalues⟩ := last_write_wins empty lateDevice
  have hknown : "C3" ∈ (lateDevice.foldl apply empty).ids :=
    (hids "C3").mpr (.inr ⟨_, List.mem_cons_of_mem _ List.mem_cons_self, rfl, by decide⟩)
  obtain ⟨device, hdevice, hvalue⟩ := hvalues "C3" hknown
  refine ⟨device, hdevice, ?_, ?_⟩
  · have hwrites : empty.WritesAt lateDevice "C3" "speed" 2 ⟨"all", "speed", .text "9"⟩ := by
      refine ⟨rfl, rfl, .inr ⟨rfl, .inr ⟨⟨"C3", "speed", .text "5"⟩, ?_, rfl, by decide⟩⟩⟩
      exact List.mem_cons_of_mem _ List.mem_cons_self
    exact (hvalue "speed").1 2 _ hwrites fun m c' h => Nat.le_of_lt_succ h.lt_length
  · refine (hvalue "light").2 fun n c h => ?_
    obtain ⟨hget, hprop, hreaches⟩ := h
    match n with
    | 0 =>
      -- the light comes when no device is known
      obtain rfl := Option.some.inj hget
      rcases hreaches with ⟨hid, -⟩ | ⟨-, hknown⟩
      · exact absurd hid (by decide)
      · exact absurd (known_nil.mp hknown) List.not_mem_nil
    | 1 =>
      obtain rfl := Option.some.inj hget
      exact absurd hprop (by decide)
    | 2 =>
      obtain rfl := Option.some.inj hget
      exact absurd hprop (by decide)
    | n + 3 => cases hget

end Snapshot

end Signalbox
