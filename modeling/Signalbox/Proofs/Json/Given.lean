import Mathlib.Data.List.Forall2
import Signalbox.Proofs.Json.Height

/-!
# Fields that may be given once

A reader goes through the entries of a map and stores the value of each field that it knows, and a field that is given
twice is an error. Whatever the order of the entries is, the field has in the end what its only value says, or what it
had before: `Given` says so of the values of one field, and does not speak of their order.

Main results:

* `Json.given_cons_iff`: one more value.
* `Json.Given.perm`: values in another order.
* `Json.given_taken_iff`: values that are taken in before they are read.
-/

namespace Signalbox.Json

variable {α β : Type}

/-- Entries whose keys can be read. -/
def fit (entries : List (String × α)) : List (Except Fault String × α) :=
  entries.map fun entry => (.ok entry.1, entry.2)

/-- A map whose end is there and whose keys can be read. -/
def Draft.object (entries : List (String × Draft)) : Draft :=
  .map (fit entries) none

/-- The values of the entries with a key of a sort, in order. -/
def valuesOf (p : String → Bool) (entries : List (String × α)) : List α :=
  entries.filterMap fun entry => if p entry.1 then some entry.2 else none

/-- The values of the entries with a key, in order. -/
def valuesAt (key : String) (entries : List (String × α)) : List α :=
  valuesOf (· == key) entries

/-- What a field has in the end: what it had before, if no value is given, and what the only value says, if it had none
before. -/
inductive Given (read : α → Except Error β) : Option β → List α → Option β → Prop where
  | absent (stored : Option β) : Given read stored [] stored
  | once {a : α} {b : β} (h : read a = .ok b) : Given read none [a] (some b)

/-! ## Maps whose keys can be read -/

namespace Draft

/-- The draft of a map is the map of the drafts of its values. -/
theorem object_map_ofJson (entries : List (String × Json)) :
    object (entries.map fun entry => (entry.1, ofJson entry.2)) = ofJson (.map entries) := by
  rw [ofJson, ofEntries_eq_map, object, fit, List.map_map]
  rfl

/-- Entries can be taken out when each of their values can be. -/
theorem exists_bufferEntries_eq_ok {depth : Nat} {entries : List (String × Draft)} :
    (∃ js, bufferEntries depth (fit entries) = .ok js) ↔ ∀ entry ∈ entries, entry.2.Fits depth := by
  induction entries with
  | nil => exact ⟨fun _ => nofun, fun _ => ⟨[], rfl⟩⟩
  | cons entry rest ih =>
    rw [List.forall_mem_cons, ← ih]
    constructor
    · rintro ⟨js, h⟩
      obtain ⟨key, -, h⟩ := bind_eq_ok.mp h
      obtain ⟨j, hj, h⟩ := bind_eq_ok.mp h
      obtain ⟨js, hjs, -⟩ := bind_eq_ok.mp h
      exact ⟨⟨j, hj⟩, js, hjs⟩
    · rintro ⟨⟨j, hj⟩, js, hjs⟩
      exact ⟨(entry.1, j) :: js,
        bind_eq_ok.mpr ⟨entry.1, rfl, bind_eq_ok.mpr ⟨j, hj, bind_eq_ok.mpr ⟨js, hjs, rfl⟩⟩⟩⟩

/-- A map can be taken out when there is room for one more level and each value can be taken out there. -/
theorem fits_object_iff {depth : Nat} {entries : List (String × Draft)} :
    (object entries).Fits depth ↔ ∃ inner, enter? depth = some inner ∧ ∀ entry ∈ entries, entry.2.Fits inner := by
  unfold Fits object
  rw [buffer.eq_def]
  dsimp only
  -- without room for another level nothing can be taken out
  cases enter? depth with
  | none => exact ⟨fun ⟨_, h⟩ => (nomatch h), nofun⟩
  | some inner =>
    constructor
    · rintro ⟨j, h⟩
      obtain ⟨js, hjs, -⟩ := bind_eq_ok.mp h
      exact ⟨inner, rfl, exists_bufferEntries_eq_ok.mp ⟨js, hjs⟩⟩
    · rintro ⟨inner', hinner, h⟩
      obtain rfl := Option.some.inj hinner
      obtain ⟨js, hjs⟩ := exists_bufferEntries_eq_ok.mpr h
      exact ⟨.map js, bind_eq_ok.mpr ⟨js, hjs, rfl⟩⟩

end Draft

/-! ## Values of a sort of keys -/

section

variable {p : String → Bool} {key : String} {value : α} {entries rest : List (String × α)}

/-- An entry in front whose key is of the sort gives the first value. -/
theorem valuesOf_cons_of_pos (h : p key = true) : valuesOf p ((key, value) :: rest) = value :: valuesOf p rest :=
  List.filterMap_cons_some (if_pos h)

/-- An entry in front whose key is of another sort gives no value. -/
theorem valuesOf_cons_of_neg (h : p key = false) : valuesOf p ((key, value) :: rest) = valuesOf p rest :=
  List.filterMap_cons_none (if_neg (by rw [h]; exact Bool.false_ne_true))

/-- An entry in front with the key gives the first value. -/
theorem valuesAt_cons_self (key : String) (value : α) (rest : List (String × α)) :
    valuesAt key ((key, value) :: rest) = value :: valuesAt key rest :=
  valuesOf_cons_of_pos (beq_self_eq_true key)

/-- An entry in front with another key gives no value. -/
theorem valuesAt_cons_of_ne {key' : String} (h : key ≠ key') :
    valuesAt key' ((key, value) :: rest) = valuesAt key' rest :=
  valuesOf_cons_of_neg (p := (· == key')) (beq_eq_false_iff_ne.mpr h)

/-- The values of two lists of entries come one after the other. -/
theorem valuesOf_append (p : String → Bool) (front back : List (String × α)) :
    valuesOf p (front ++ back) = valuesOf p front ++ valuesOf p back :=
  List.filterMap_append

/-- An entry whose key is of the sort gives its value, in its place. -/
theorem valuesOf_mid_of_pos {front back : List (String × α)} (h : p key = true) :
    valuesOf p (front ++ (key, value) :: back) = valuesOf p front ++ value :: valuesOf p back := by
  rw [valuesOf_append, valuesOf_cons_of_pos h]

/-- An entry whose key is of another sort may be left out. -/
theorem valuesOf_mid_of_neg {front back : List (String × α)} (h : p key = false) :
    valuesOf p (front ++ (key, value) :: back) = valuesOf p (front ++ back) := by
  rw [valuesOf_append, valuesOf_cons_of_neg h, ← valuesOf_append]

/-- A key may give way to another one of the same sort. -/
theorem valuesOf_mid_congr {front back : List (String × α)} {key' : String} (h : p key = p key') :
    valuesOf p (front ++ (key, value) :: back) = valuesOf p (front ++ (key', value) :: back) := by
  cases hkey : p key with
  | true => rw [valuesOf_mid_of_pos hkey, valuesOf_mid_of_pos (h ▸ hkey)]
  | false => rw [valuesOf_mid_of_neg hkey, valuesOf_mid_of_neg (h ▸ hkey)]

/-- An entry with another key may be left out. -/
theorem valuesAt_mid_of_ne {front back : List (String × α)} {key' : String} (h : key ≠ key') :
    valuesAt key' (front ++ (key, value) :: back) = valuesAt key' (front ++ back) :=
  valuesOf_mid_of_neg (p := (· == key')) (beq_eq_false_iff_ne.mpr h)

/-- What is filtered out is of no account, as long as all keys of the sort are kept. -/
theorem valuesOf_filter {q : String → Bool} (h : ∀ key, p key = true → q key = true) (entries : List (String × α)) :
    valuesOf p (entries.filter (q ·.1)) = valuesOf p entries := by
  induction entries with
  | nil => rfl
  | cons entry rest ih =>
    obtain ⟨key, value⟩ := entry
    -- an entry is kept or not, and where it is kept its key is of the sort or not
    cases hq : q key with
    | true =>
      rw [List.filter_cons_of_pos (by exact hq)]
      cases hp : p key with
      | true => rw [valuesOf_cons_of_pos hp, valuesOf_cons_of_pos hp, ih]
      | false => rw [valuesOf_cons_of_neg hp, valuesOf_cons_of_neg hp, ih]
    | false =>
      -- what is left out has no key of the sort
      have hp : p key = false := Bool.eq_false_iff.mpr fun hp => by simp [h key hp] at hq
      rw [List.filter_cons_of_neg (by rw [hq]; exact Bool.false_ne_true), valuesOf_cons_of_neg hp, ih]

/-- Values that are changed all alike are the changed values. -/
theorem valuesOf_map {β : Type} (p : String → Bool) (f : α → β) (entries : List (String × α)) :
    valuesOf p (entries.map fun entry => (entry.1, f entry.2)) = (valuesOf p entries).map f := by
  induction entries with
  | nil => rfl
  | cons entry rest ih =>
    obtain ⟨key, value⟩ := entry
    rw [List.map_cons]
    cases hkey : p key with
    | true => rw [valuesOf_cons_of_pos hkey, valuesOf_cons_of_pos hkey, List.map_cons, ih]
    | false => rw [valuesOf_cons_of_neg hkey, valuesOf_cons_of_neg hkey, ih]

/-- An entry whose key is of the sort gives one of the values. -/
theorem mem_valuesOf (h : (key, value) ∈ entries) (hkey : p key = true) : value ∈ valuesOf p entries :=
  List.mem_filterMap.mpr ⟨(key, value), h, if_pos hkey⟩

/-- Each of the values stands in an entry whose key is of the sort. -/
theorem exists_mem_of_mem_valuesOf (h : value ∈ valuesOf p entries) : ∃ key, (key, value) ∈ entries ∧ p key = true := by
  obtain ⟨⟨key, value'⟩, hmem, hvalue⟩ := List.mem_filterMap.mp h
  split_ifs at hvalue with hkey
  obtain rfl := Option.some.inj hvalue
  exact ⟨key, hmem, hkey⟩

end

/-! ## One field -/

section

variable {read read' : α → Except Error β} {stored found : Option β} {values values' : List α} {a : α}

/-- Without a value the field has what it had before. -/
theorem given_nil_iff : Given read stored [] found ↔ found = stored := by
  constructor
  · rintro ⟨⟩
    rfl
  · rintro rfl
    exact .absent _

/-- One more value is stored if there was none, and the other values are then none. -/
theorem given_cons_iff (field : String) :
    (∃ next, once field stored (read a) = .ok next ∧ Given read next values found) ↔
      Given read stored (a :: values) found := by
  constructor
  · rintro ⟨next, honce, hgiven⟩
    obtain ⟨rfl, b, hb, rfl⟩ := once_eq_ok.mp honce
    cases hgiven with
    | absent => exact .once hb
  · intro hgiven
    cases hgiven with
    | once hb => exact ⟨_, once_eq_ok.mpr ⟨rfl, _, hb, rfl⟩, .absent _⟩

namespace Given

/-- The order of the values does not matter. -/
theorem perm (h : Given read stored values found) (hperm : values.Perm values') : Given read stored values' found := by
  cases h with
  | absent =>
    rw [List.nil_perm.mp hperm]
    exact .absent _
  | once hb =>
    rw [← List.singleton_perm.mp hperm]
    exact .once hb

/-- A reader that says the same of each value gives the field the same. -/
theorem congr (h : Given read stored values found)
    (hread : ∀ a ∈ values, ∀ b, read a = .ok b → read' a = .ok b) : Given read' stored values found := by
  cases h with
  | absent => exact .absent _
  | once hb => exact .once (hread _ List.mem_cons_self _ hb)

/-- Every value of a field can be read, and it is what the field has in the end. -/
theorem exists_eq_ok (h : Given read none values found) : ∀ a ∈ values, ∃ b, read a = .ok b ∧ found = some b := by
  cases h with
  | absent => exact nofun
  | once hb => exact List.forall_mem_singleton.mpr ⟨_, hb, rfl⟩

/-- What a field has in the end was read from one of its values. -/
theorem exists_mem_of_some {b : β} (h : Given read none values (some b)) : ∃ a ∈ values, read a = .ok b := by
  cases h with
  | once hb => exact ⟨_, List.mem_cons_self, hb⟩

/-- A value that is in a field without another one is its only value. -/
theorem eq_nil_of_mid {front back : List α} (h : Given read none (front ++ a :: back) found) :
    front = [] ∧ back = [] ∧ ∃ b, read a = .ok b ∧ found = some b := by
  obtain ⟨b, hb, hfound⟩ := h.exists_eq_ok a (List.mem_append_right _ List.mem_cons_self)
  -- the values are kept apart from their spelling, so that the cases of the field can be looked at
  generalize hvalues : front ++ a :: back = values at h
  cases h with
  | absent => exact absurd hvalues (by simp)
  | once =>
    -- a field that is given holds one value, which leaves no room beside this one
    have hlength := congrArg List.length hvalues
    simp only [List.length_append, List.length_cons, List.length_nil] at hlength
    exact ⟨List.eq_nil_of_length_eq_zero (by omega), List.eq_nil_of_length_eq_zero (by omega), b, hb, hfound⟩

/-- The value gives way to another one that says the same. -/
theorem replace {front back : List α} {a' : α} (h : Given read none (front ++ a :: back) found)
    (ha : ∀ b, read a = .ok b → read a' = .ok b) : Given read none (front ++ a' :: back) found := by
  obtain ⟨rfl, rfl, b, hb, rfl⟩ := h.eq_nil_of_mid
  exact .once (ha b hb)

/-- Without its value the field is not given. -/
theorem remove {front back : List α} (h : Given read none (front ++ a :: back) found) :
    Given read none (front ++ back) none := by
  obtain ⟨rfl, rfl, -⟩ := h.eq_nil_of_mid
  exact .absent none

end Given

/-- An entry gives way to another one with the same key that says the same. -/
theorem Given.replace_mid {p : String → Bool} {key : String} {front back : List (String × α)} {a' : α}
    (h : Given read none (valuesOf p (front ++ (key, a) :: back)) found)
    (ha : p key = true → ∀ b, read a = .ok b → read a' = .ok b) :
    Given read none (valuesOf p (front ++ (key, a') :: back)) found := by
  cases hkey : p key with
  | true =>
    rw [valuesOf_mid_of_pos hkey] at h ⊢
    exact h.replace (ha hkey)
  | false =>
    rw [valuesOf_mid_of_neg hkey] at h ⊢
    exact h

/-- Values that are changed before they are read are read by a reader that changes them first. -/
theorem given_map_iff {γ : Type} {f : γ → α} {values : List γ} :
    Given read stored (values.map f) found ↔ Given (fun c => read (f c)) stored values found := by
  constructor
  · intro h
    rcases values with _ | ⟨c, _ | ⟨d, rest⟩⟩ <;> cases h
    · exact .absent _
    · exact .once ‹_›
  · intro h
    cases h with
    | absent => exact .absent _
    | once hb => exact .once hb

/-- Values that are taken in first say what the reader reads from what was taken in. -/
theorem given_taken_iff {γ : Type} {take : γ → Except Error α} {values : List γ} {taken : List α}
    (h : List.Forall₂ (fun c a => take c = .ok a) values taken) :
    Given read stored taken found ↔ Given (fun c => take c >>= read) stored values found := by
  -- either way there is no value, or there is one, which is taken in and read
  constructor
  · intro hgiven
    cases hgiven with
    | absent =>
      cases h
      exact .absent _
    | once hb =>
      obtain ⟨c, rest, hc, hrest, rfl⟩ := List.forall₂_cons_right_iff.mp h
      cases hrest
      exact .once (bind_eq_ok.mpr ⟨_, hc, hb⟩)
  · intro hgiven
    cases hgiven with
    | absent =>
      cases h
      exact .absent _
    | once hb =>
      obtain ⟨a, rest, ha, hrest, rfl⟩ := List.forall₂_cons_left_iff.mp h
      cases hrest
      obtain ⟨a', ha', hb⟩ := bind_eq_ok.mp hb
      rw [ha] at ha'
      obtain rfl := Except.ok.inj ha'
      exact .once hb

end

/-! ## Entries that are taken in -/

section

variable {take : α → Except Error β} {entries : List (String × α)} {taken : List (String × β)}

/-- The entries with their values taken in. -/
def Taken (take : α → Except Error β) : List (String × α) → List (String × β) → Prop :=
  List.Forall₂ fun entry entry' => entry.1 = entry'.1 ∧ take entry.2 = .ok entry'.2

/-- When each value can be taken in, all of them can. -/
theorem exists_taken (h : ∀ entry ∈ entries, ∃ b, take entry.2 = .ok b) : ∃ taken, Taken take entries taken := by
  induction entries with
  | nil => exact ⟨[], .nil⟩
  | cons entry rest ih =>
    obtain ⟨hentry, hrest⟩ := List.forall_mem_cons.mp h
    obtain ⟨b, hb⟩ := hentry
    obtain ⟨taken, htaken⟩ := ih hrest
    exact ⟨(entry.1, b) :: taken, .cons ⟨rfl, hb⟩ htaken⟩

/-- Of entries that were taken in, each value could be. -/
theorem Taken.exists_eq_ok (h : Taken take entries taken) : ∀ entry ∈ entries, ∃ b, take entry.2 = .ok b := by
  induction h with
  | nil => exact nofun
  | cons hentry _ ih => exact List.forall_mem_cons.mpr ⟨⟨_, hentry.2⟩, ih⟩

/-- Values that are taken in as they are stay what they are. -/
theorem Taken.eq_of_ok {entries taken : List (String × α)} (h : Taken .ok entries taken) : taken = entries := by
  induction h with
  | nil => rfl
  | @cons entry entry' rest rest' hentry _ ih =>
    rw [ih, show entry' = entry from Prod.ext hentry.1.symm (Except.ok.inj hentry.2).symm]

/-- The values of a sort of keys are taken in with the others. -/
theorem Taken.valuesOf (h : Taken take entries taken) (p : String → Bool) :
    List.Forall₂ (fun a b => take a = .ok b) (valuesOf p entries) (valuesOf p taken) := by
  induction h with
  | nil => exact .nil
  | @cons entry entry' rest rest' hentry _ ih =>
    obtain ⟨key, a⟩ := entry
    obtain ⟨key', b⟩ := entry'
    obtain ⟨rfl, hb⟩ := hentry
    cases hkey : p key with
    | true =>
      rw [valuesOf_cons_of_pos hkey, valuesOf_cons_of_pos hkey]
      exact .cons hb ih
    | false =>
      rw [valuesOf_cons_of_neg hkey, valuesOf_cons_of_neg hkey]
      exact ih

end

end Signalbox.Json
