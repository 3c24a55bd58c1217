import Mathlib.Tactic.SplitIfs
import Signalbox.Proofs.Block.Document
import Signalbox.Proofs.Json.Given

/-!
# What the entries of a block say

The reader of a block goes through its entries in their order, and stores the id, the position, the type and the fields
of the type where it finds them. What it has in the end is said here without that order, field by field: each is given
at most once, and what is no field of the block is not looked at.

Main results:

* `Block.readKind_eq_ok`: the kind that entries speak of.
* `Block.ofJson_eq_ok` and `Block.ofDraft_eq_ok`: a block that was taken in and one that is read where it stands.
* `Block.ofDraft_of_buffer`: it is the same block.
-/

namespace Signalbox

open Json (Error Fault Draft Given fit valuesOf valuesAt Taken)

namespace Block

/-! ## Fields -/

/-- The fields of all kinds, by name. -/
inductive Field where
  | children
  | count
  | condition
  | value
  | device
  | prop
  deriving DecidableEq

namespace Field

/-- The name of a field in documents. -/
def name : Field → String
  | .children => "children"
  | .count => "count"
  | .condition => "condition"
  | .value => "value"
  | .device => "device"
  | .prop => "prop"

/-- What a field holds. -/
def Content : Field → Type
  | .children => List Block
  | .count => UInt32
  | .condition | .device | .prop => String
  | .value => Scalar

/-- Reads what a value says as a field. -/
def read : (field : Field) → Json → Except Error field.Content
  | .children => listOfJson
  | .count => Json.count32
  | .condition | .device | .prop => Json.text
  | .value => Scalar.ofJson

/-- The keys that a field may have, its name and its second name. -/
def isKey (field : Field) (key : String) : Bool :=
  fieldOfKey key == field.name

theorem name_inj {field field' : Field} : field.name = field'.name ↔ field = field' := by
  refine ⟨fun h => ?_, fun h => h ▸ rfl⟩
  cases field <;> cases field' <;> first | rfl | exact absurd h (by decide)

theorem isKey_iff {field : Field} {key : String} : field.isKey key = true ↔ fieldOfKey key = field.name :=
  beq_iff_eq

end Field

/-- Each of the names that a type knows is that of a field. -/
theorem exists_field_of_mem {type : BlockType} {name : String} (h : name ∈ fieldNames type) :
    ∃ field : Field, field.name = name := by
  -- type by type, since each has its own fields
  cases type <;> simp only [fieldNames, List.mem_cons, List.not_mem_nil, or_false] at h
  case once | forever | dummy => exact ⟨.children, h.symm⟩
  case loop =>
    rcases h with rfl | rfl
    · exact ⟨.count, rfl⟩
    · exact ⟨.children, rfl⟩
  case branch =>
    rcases h with rfl | rfl
    · exact ⟨.condition, rfl⟩
    · exact ⟨.children, rfl⟩
  case wait => exact ⟨.condition, h.symm⟩
  case sleep | log | alert => exact ⟨.value, h.symm⟩
  case deviceSet =>
    rcases h with rfl | rfl | rfl
    · exact ⟨.device, rfl⟩
    · exact ⟨.prop, rfl⟩
    · exact ⟨.value, rfl⟩

namespace Fields

/-- What is stored of a field. -/
def get (fields : Fields) : (field : Field) → Option field.Content
  | .children => fields.children
  | .count => fields.count
  | .condition => fields.condition
  | .value => fields.value
  | .device => fields.device
  | .prop => fields.prop

/-- The fields with another content of one of them. -/
def set (fields : Fields) : (field : Field) → Option field.Content → Fields
  | .children, content => { fields with children := content }
  | .count, content => { fields with count := content }
  | .condition, content => { fields with condition := content }
  | .value, content => { fields with value := content }
  | .device, content => { fields with device := content }
  | .prop, content => { fields with prop := content }

@[simp] theorem get_set_self (fields : Fields) (field : Field) (content : Option field.Content) :
    (fields.set field content).get field = content := by
  cases field <;> rfl

theorem get_empty (field : Field) : ({} : Fields).get field = none := by
  cases field <;> rfl

theorem get_set_of_ne (fields : Fields) {field field' : Field} (h : field' ≠ field) (content : Option field.Content) :
    (fields.set field content).get field' = fields.get field' := by
  cases field <;> cases field' <;> first | rfl | exact absurd rfl h

/-- Fields are the same when each of them is. -/
theorem eq_of_get {fields fields' : Fields} (h : ∀ field, fields.get field = fields'.get field) : fields = fields' := by
  obtain ⟨children, count, condition, value, device, prop⟩ := fields
  obtain rfl : children = fields'.children := h .children
  obtain rfl : count = fields'.count := h .count
  obtain rfl : condition = fields'.condition := h .condition
  obtain rfl : value = fields'.value := h .value
  obtain rfl : device = fields'.device := h .device
  obtain rfl : prop = fields'.prop := h .prop
  rfl

end Fields

/-! ## Kinds -/

section

variable {type : BlockType} {fields result : Fields} {key : String} {value : Json} {rest entries : List (String × Json)}

/-- An entry whose key is that of a field is taken in by this field. -/
theorem readFields_cons_of_isKey {field : Field} (hkey : fieldOfKey key = field.name)
    (hfield : field.name ∈ fieldNames type) :
    readFields type fields (entriesOf ((key, value) :: rest)) =
      (Json.once field.name (fields.get field) (field.read value) >>= fun content =>
        readFields type (fields.set field content) (entriesOf rest)) := by
  rw [entriesOf, readFields]
  dsimp only
  rw [hkey, if_pos hfield]
  cases field <;> rfl

/-- An entry whose key the type does not know is left out. -/
theorem readFields_cons_of_not_mem (hkey : fieldOfKey key ∉ fieldNames type) :
    readFields type fields (entriesOf ((key, value) :: rest)) = readFields type fields (entriesOf rest) := by
  rw [entriesOf, readFields]
  exact if_neg hkey

/-- What entries say of the fields of a type, given what is stored before. -/
def SaysFields (type : BlockType) (entries : List (String × Json)) (fields result : Fields) : Prop :=
  ∀ field : Field, if field.name ∈ fieldNames type
    then Given field.read (fields.get field) (valuesOf field.isKey entries) (result.get field)
    else result.get field = fields.get field

/-- What the reader makes of the entries is what they say of each field. -/
theorem readFields_eq_ok :
    readFields type fields (entriesOf entries) = .ok result ↔ SaysFields type entries fields result := by
  induction entries generalizing fields with
  | nil =>
    rw [entriesOf, readFields]
    constructor
    · intro h field
      obtain rfl := Except.ok.inj h
      split_ifs
      · exact .absent _
      · rfl
    · intro h
      refine congrArg _ (Fields.eq_of_get fun field => ?_)
      have hfield := h field
      split_ifs at hfield
      · exact (Json.given_nil_iff.mp hfield).symm
      · exact hfield.symm
  | cons entry rest ih =>
    obtain ⟨key, value⟩ := entry
    by_cases hmem : fieldOfKey key ∈ fieldNames type
    · -- one field has one value more, and nothing is new about the others
      obtain ⟨field, hname⟩ := exists_field_of_mem hmem
      rw [← hname] at hmem
      have hself : field.isKey key = true := Field.isKey_iff.mpr hname.symm
      have hother {field' : Field} (h : field' ≠ field) : field'.isKey key = false :=
        Bool.eq_false_iff.mpr fun hkey => h (Field.name_inj.mp ((Field.isKey_iff.mp hkey).symm.trans hname.symm))
      rw [readFields_cons_of_isKey hname.symm hmem, bind_eq_ok]
      constructor
      · -- the field of this entry was empty before; the others are read from the rest
        rintro ⟨content, honce, hrest⟩ field'
        have hfield' := ih.mp hrest field'
        by_cases h : field' = field
        · subst h
          rw [if_pos hmem, Fields.get_set_self] at hfield'
          rw [if_pos hmem, Json.valuesOf_cons_of_pos hself]
          exact (Json.given_cons_iff field'.name).mp ⟨content, honce, hfield'⟩
        · rw [Fields.get_set_of_ne _ h] at hfield'
          rw [Json.valuesOf_cons_of_neg (hother h)]
          exact hfield'
      · intro h
        have hfield := h field
        rw [if_pos hmem, Json.valuesOf_cons_of_pos hself] at hfield
        obtain ⟨content, honce, hgiven⟩ := (Json.given_cons_iff field.name).mpr hfield
        refine ⟨content, honce, ih.mpr fun field' => ?_⟩
        by_cases hne : field' = field
        · subst hne
          rw [if_pos hmem, Fields.get_set_self]
          exact hgiven
        · have hfield' := h field'
          rw [Json.valuesOf_cons_of_neg (hother hne)] at hfield'
          rw [Fields.get_set_of_ne _ hne]
          exact hfield'
    · -- an entry that does not count
      have hnone {field : Field} (hfield : field.name ∈ fieldNames type) : field.isKey key = false :=
        Bool.eq_false_iff.mpr fun hkey => hmem (Field.isKey_iff.mp hkey ▸ hfield)
      rw [readFields_cons_of_not_mem hmem, ih]
      refine forall_congr' fun field => ?_
      split_ifs with hfield
      · rw [Json.valuesOf_cons_of_neg (hnone hfield)]
      · rfl

/-- The type that is found is what the entries for it say. -/
theorem findType_eq_ok {numbered : Bool} {found result : Option BlockType} :
    findType numbered found (entriesOf entries) = .ok result ↔
      Given (readType numbered) found (valuesAt "type" entries) result := by
  induction entries generalizing found with
  | nil =>
    rw [entriesOf, findType]
    exact ⟨fun h => Except.ok.inj h ▸ .absent _, fun h => congrArg _ (Json.given_nil_iff.mp h).symm⟩
  | cons entry rest ih =>
    obtain ⟨key, value⟩ := entry
    rw [entriesOf, findType]
    by_cases hkey : key = "type"
    · subst hkey
      rw [if_pos rfl, Json.valuesAt_cons_self, ← Json.given_cons_iff "type", bind_eq_ok]
      exact exists_congr fun next => and_congr Iff.rfl ih
    · rw [if_neg hkey, Json.valuesAt_cons_of_ne hkey]
      exact ih

/-- Entries may be left out before or after the blocks in them are read. -/
theorem entriesOf_filter (p : String → Bool) (entries : List (String × Json)) :
    (entriesOf entries).filter (p ·.key) = entriesOf (entries.filter (p ·.1)) := by
  rw [entriesOf_eq_map, entriesOf_eq_map, List.filter_map]
  rfl

/-- The kind that entries speak of: one of them names the type, and each field of the type is given at most once. -/
theorem readKind_eq_ok {numbered : Bool} {kind : Kind} :
    readKind numbered (entriesOf entries) = .ok kind ↔
      ∃ type fields, Given (readType numbered) none (valuesAt "type" entries) (some type) ∧
        SaysFields type entries {} fields ∧ kind = fields.toKind type := by
  have hfilter : (entriesOf entries).filter (·.key ≠ "type") = entriesOf (entries.filter (·.1 ≠ "type")) :=
    entriesOf_filter (fun key => decide (key ≠ "type")) entries
  -- no field has the key of the type
  have hfields (type : BlockType) (fields : Fields) :
      SaysFields type (entries.filter (·.1 ≠ "type")) {} fields ↔ SaysFields type entries {} fields := by
    refine forall_congr' fun field => ?_
    have hvalues : valuesOf field.isKey (entries.filter (·.1 ≠ "type")) = valuesOf field.isKey entries := by
      refine Json.valuesOf_filter (q := (decide <| · ≠ "type")) (fun key hkey => decide_eq_true ?_) entries
      rintro rfl
      cases field <;> exact absurd hkey (by decide)
    rw [hvalues]
  unfold readKind
  rw [hfilter, bind_eq_ok]
  constructor
  · rintro ⟨found, hfound, h⟩
    obtain ⟨type, htype, h⟩ := bind_eq_ok.mp h
    obtain ⟨fields, hread, hkind⟩ := bind_eq_ok.mp h
    rw [Json.required_eq_ok.mp htype] at hfound
    exact ⟨type, fields, findType_eq_ok.mp hfound, (hfields type fields).mp (readFields_eq_ok.mp hread),
      (Except.ok.inj hkind).symm⟩
  · rintro ⟨type, fields, htype, hread, rfl⟩
    refine ⟨some type, findType_eq_ok.mpr htype, bind_eq_ok.mpr ⟨type, rfl, bind_eq_ok.mpr ⟨fields, ?_, rfl⟩⟩⟩
    exact readFields_eq_ok.mpr ((hfields type fields).mpr hread)

end

/-! ## Heads -/

section

variable {α : Type} {text : α → Except Error String} {position : α → Except Error (Option Position)}
  {take : α → Except Error Json} {head head' : Head} {entries : List (String × α)}

/-- The keys of a block's entries can be read. -/
theorem exists_fit_of_readHead {entries : List (Except Fault String × α)}
    (h : readHead text position take head entries = .ok head') : ∃ written, entries = fit written := by
  induction entries generalizing head with
  | nil => exact ⟨[], rfl⟩
  | cons entry rest ih =>
    obtain ⟨key, value⟩ := entry
    obtain ⟨name, hname, htail⟩ := bind_eq_ok.mp h
    -- whatever the key is, the reader goes on with the rest
    have hrest : ∃ written, rest = fit written := by
      split at htail
      · obtain ⟨_, _, htail⟩ := bind_eq_ok.mp htail
        exact ih htail
      · obtain ⟨_, _, htail⟩ := bind_eq_ok.mp htail
        exact ih htail
      · obtain ⟨_, _, htail⟩ := bind_eq_ok.mp htail
        exact ih htail
    obtain ⟨written, rfl⟩ := hrest
    rw [Json.orFault_eq_ok.mp hname]
    exact ⟨(name, value) :: written, rfl⟩

/-- The head of entries: the id and the position are given at most once, and the other entries are taken in. -/
theorem readHead_eq_ok :
    readHead text position take head (fit entries) = .ok head' ↔
      Given text head.id (valuesAt "id" entries) head'.id ∧
        Given position head.position (valuesAt "position" entries) head'.position ∧
        ∃ taken, Taken take (entries.filter (·.1 ∉ headKeys)) taken ∧ head'.others = taken.reverse ++ head.others := by
  -- what is stored before is arbitrary, since every entry adds to it
  induction entries generalizing head with
  | nil =>
    constructor
    · intro h
      obtain rfl := Except.ok.inj h
      exact ⟨.absent _, .absent _, [], .nil, rfl⟩
    · rintro ⟨hid, hposition, taken, htaken, hothers⟩
      cases htaken
      have hidEq := Json.given_nil_iff.mp hid
      have hpositionEq := Json.given_nil_iff.mp hposition
      obtain ⟨id, place, others⟩ := head
      obtain ⟨id', place', others'⟩ := head'
      dsimp only at hidEq hpositionEq hothers
      rw [hidEq, hpositionEq, hothers]
      rfl
  | cons entry rest ih =>
    obtain ⟨key, value⟩ := entry
    change readHead text position take head ((.ok key, value) :: fit rest) = .ok head' ↔ _
    by_cases hid : key = "id"
    · subst hid
      have hstep : readHead text position take head ((.ok "id", value) :: fit rest) =
          (Json.once "id" head.id (text value) >>= fun id =>
            readHead text position take { head with id } (fit rest)) := rfl
      rw [hstep, bind_eq_ok, Json.valuesAt_cons_self, Json.valuesAt_cons_of_ne (by decide),
        List.filter_cons_of_neg (by simp [headKeys]), ← Json.given_cons_iff "id"]
      constructor
      · rintro ⟨next, honce, hrest⟩
        obtain ⟨hnext, hplace, hothers⟩ := ih.mp hrest
        exact ⟨⟨next, honce, hnext⟩, hplace, hothers⟩
      · rintro ⟨⟨next, honce, hnext⟩, hplace, hothers⟩
        exact ⟨next, honce, ih.mpr ⟨hnext, hplace, hothers⟩⟩
    · by_cases hposition : key = "position"
      · subst hposition
        have hstep : readHead text position take head ((.ok "position", value) :: fit rest) =
            (Json.once "position" head.position (position value) >>= fun place =>
              readHead text position take { head with position := place } (fit rest)) := rfl
        rw [hstep, bind_eq_ok, Json.valuesAt_cons_self, Json.valuesAt_cons_of_ne (by decide),
          List.filter_cons_of_neg (by simp [headKeys]), ← Json.given_cons_iff "position"]
        constructor
        · rintro ⟨next, honce, hrest⟩
          obtain ⟨hgiven, hnext, hothers⟩ := ih.mp hrest
          exact ⟨hgiven, ⟨next, honce, hnext⟩, hothers⟩
        · rintro ⟨hgiven, ⟨next, honce, hnext⟩, hothers⟩
          exact ⟨next, honce, ih.mpr ⟨hgiven, hnext, hothers⟩⟩
      · have hother : key ∉ headKeys := by simp [headKeys, hid, hposition]
        rw [readHead_cons_other hid hposition, bind_eq_ok, Json.valuesAt_cons_of_ne hid,
          Json.valuesAt_cons_of_ne hposition, List.filter_cons_of_pos (by simpa using hother)]
        constructor
        · rintro ⟨j, hj, hrest⟩
          obtain ⟨hgiven, hplace, taken, htaken, hothers⟩ := ih.mp hrest
          -- the others are stored from the last to the first
          refine ⟨hgiven, hplace, (key, j) :: taken, .cons ⟨rfl, hj⟩ htaken, ?_⟩
          rw [hothers, List.reverse_cons, List.append_assoc]
          rfl
        · rintro ⟨hgiven, hplace, taken, htaken, hothers⟩
          obtain ⟨⟨key', j⟩, others, ⟨hkey, hj⟩, hothersTaken, rfl⟩ := List.forall₂_cons_left_iff.mp htaken
          obtain rfl : key = key' := hkey
          refine ⟨j, hj, ih.mpr ⟨hgiven, hplace, others, hothersTaken, ?_⟩⟩
          rw [hothers, List.reverse_cons, List.append_assoc]
          rfl

/-- What the entries of a block say: its id, its position and its type, and each field of the type as far as it is
given. -/
structure Says (text : α → Except Error String) (position : α → Except Error (Option Position))
    (take : α → Except Error Json) (entries : List (String × α)) (id : String) (place : Option (Option Position))
    (type : BlockType) (fields : Fields) : Prop where
  given_id : Given text none (valuesAt "id" entries) (some id)
  given_position : Given position none (valuesAt "position" entries) place
  taken_others : ∀ entry ∈ entries, entry.1 ∉ headKeys → ∃ j, take entry.2 = .ok j
  given_type : Given (fun value => take value >>= readType true) none (valuesAt "type" entries) (some type)
  given_fields : ∀ field : Field, if field.name ∈ fieldNames type
    then Given (fun value => take value >>= field.read) none (valuesOf field.isKey entries) (fields.get field)
    else fields.get field = none

/-- The entries of a kind, all of them taken in, say what the values say that were not taken in. -/
theorem valuesOf_taken {taken : List (String × Json)} {p : String → Bool} (hp : ∀ key, p key = true → key ∉ headKeys)
    (htaken : Taken take (entries.filter (·.1 ∉ headKeys)) taken) :
    List.Forall₂ (fun value j => take value = .ok j) (valuesOf p entries) (valuesOf p taken) := by
  have hfilter : valuesOf p (entries.filter (·.1 ∉ headKeys)) = valuesOf p entries :=
    Json.valuesOf_filter (q := fun key => decide (key ∉ headKeys)) (fun key hkey => decide_eq_true (hp key hkey))
      entries
  rw [← hfilter]
  exact htaken.valuesOf p

/-- The key of a field is none of the head. -/
theorem not_mem_headKeys_of_isKey {field : Field} {key : String} (h : field.isKey key = true) : key ∉ headKeys := by
  have hkey := Field.isKey_iff.mp h
  intro hmem
  simp only [headKeys, List.mem_cons, List.not_mem_nil, or_false] at hmem
  rcases hmem with rfl | rfl <;> cases field <;> exact absurd hkey (by decide)

/-- A block is what its entries say. -/
theorem readHead_ofHead_eq_ok {block : Block} :
    (∃ head, readHead text position take {} (fit entries) = .ok head ∧
        ofHead head (entriesOf head.others.reverse) = .ok block) ↔
      ∃ id place type fields, Says text position take entries id place type fields ∧
        block = (fields.toKind type).toBlock id (place.getD none) := by
  -- the type stands among the entries that the head leaves
  have htypeKey (key : String) (h : (key == "type") = true) : key ∉ headKeys := by
    rw [beq_iff_eq.mp h]
    decide
  constructor
  · rintro ⟨head, hhead, hblock⟩
    obtain ⟨hid, hplace, taken, htaken, hothers⟩ := readHead_eq_ok.mp hhead
    obtain ⟨id, hrequired, hblock⟩ := bind_eq_ok.mp hblock
    obtain ⟨kind, hkind, hblock⟩ := bind_eq_ok.mp hblock
    rw [hothers, List.append_nil, List.reverse_reverse] at hkind
    obtain ⟨type, fields, htype, hfields, rfl⟩ := readKind_eq_ok.mp hkind
    rw [Json.required_eq_ok.mp hrequired] at hid
    refine ⟨id, head.position, type, fields, ⟨hid, hplace, fun entry hentry hkey => ?_, ?_, fun field => ?_⟩,
      (Except.ok.inj hblock).symm⟩
    · exact htaken.exists_eq_ok entry (List.mem_filter.mpr ⟨hentry, decide_eq_true hkey⟩)
    · exact (Json.given_taken_iff (valuesOf_taken htypeKey htaken)).mp htype
    · have hfield := hfields field
      rw [Fields.get_empty] at hfield
      split_ifs at hfield ⊢
      · exact (Json.given_taken_iff (valuesOf_taken (fun _ => not_mem_headKeys_of_isKey) htaken)).mp hfield
      · exact hfield
  · rintro ⟨id, place, type, fields, hsaid, rfl⟩
    -- all other entries can be taken in, so there is a head to read
    obtain ⟨taken, htaken⟩ : ∃ taken, Taken take (entries.filter (·.1 ∉ headKeys)) taken :=
      Json.exists_taken fun entry hentry =>
        hsaid.taken_others entry (List.mem_filter.mp hentry).1 (of_decide_eq_true (List.mem_filter.mp hentry).2)
    refine ⟨⟨some id, place, taken.reverse⟩,
      readHead_eq_ok.mpr ⟨hsaid.given_id, hsaid.given_position, taken, htaken, ?_⟩, ?_⟩
    · rw [List.append_nil]
    · have hkind : readKind true (entriesOf taken) = .ok (fields.toKind type) := by
        refine readKind_eq_ok.mpr ⟨type, fields, ?_, fun field => ?_, rfl⟩
        · exact (Json.given_taken_iff (valuesOf_taken htypeKey htaken)).mpr hsaid.given_type
        · have hfield := hsaid.given_fields field
          rw [Fields.get_empty]
          split_ifs at hfield ⊢
          · exact (Json.given_taken_iff (valuesOf_taken (fun _ => not_mem_headKeys_of_isKey) htaken)).mpr hfield
          · exact hfield
      rw [List.reverse_reverse]
      exact bind_eq_ok.mpr ⟨id, rfl, bind_eq_ok.mpr ⟨_, hkind, rfl⟩⟩

/-- Readers that read the same from the values of a block read the same block. -/
theorem Says.congr {text' : α → Except Error String} {position' : α → Except Error (Option Position)}
    {take' : α → Except Error Json} {id : String} {place : Option (Option Position)} {type : BlockType}
    {fields : Fields} (h : Says text position take entries id place type fields)
    (htext : ∀ entry ∈ entries, ∀ s, text entry.2 = .ok s → text' entry.2 = .ok s)
    (hposition : ∀ entry ∈ entries, ∀ p, position entry.2 = .ok p → position' entry.2 = .ok p)
    (htake : ∀ entry ∈ entries, ∀ j, take entry.2 = .ok j → take' entry.2 = .ok j) :
    Says text' position' take' entries id place type fields := by
  -- what holds of all entries holds of the values of a field
  have hvalues {p : String → Bool} {P : α → Prop} (hentries : ∀ entry ∈ entries, P entry.2) :
      ∀ value ∈ valuesOf p entries, P value := by
    intro value hvalue
    obtain ⟨key, hmem, -⟩ := Json.exists_mem_of_mem_valuesOf hvalue
    exact hentries _ hmem
  have htaking {β : Type} {read : Json → Except Error β} :
      ∀ entry ∈ entries, ∀ b, (take entry.2 >>= read) = .ok b → (take' entry.2 >>= read) = .ok b := by
    intro entry hentry b hb
    obtain ⟨j, hj, hb⟩ := bind_eq_ok.mp hb
    exact bind_eq_ok.mpr ⟨j, htake entry hentry j hj, hb⟩
  refine ⟨h.given_id.congr (hvalues htext), h.given_position.congr (hvalues hposition), fun entry hentry hkey => ?_,
    h.given_type.congr (hvalues htaking), fun field => ?_⟩
  · obtain ⟨j, hj⟩ := h.taken_others entry hentry hkey
    exact ⟨j, htake entry hentry j hj⟩
  · have hfield := h.given_fields field
    split_ifs at hfield ⊢
    · exact hfield.congr (hvalues htaking)
    · exact hfield

end

/-! ## Blocks -/

/-- A block that was taken in is what its entries say. -/
theorem ofJson_eq_ok {entries : List (String × Json)} {block : Block} :
    ofJson (.map entries) = .ok block ↔
      ∃ id place type fields, Says Json.text positionOfJson .ok entries id place type fields ∧
        block = (fields.toKind type).toBlock id (place.getD none) := by
  rw [← readHead_ofHead_eq_ok, ofJson]
  refine bind_eq_ok.trans (exists_congr fun head => and_congr_right fun hhead => ?_)
  -- the others are the entries that are not of the head
  obtain ⟨-, -, taken, htaken, hothers⟩ := readHead_eq_ok.mp hhead
  have htakenEq := htaken.eq_of_ok
  have hfilter : (entriesOf entries).filter (·.key ∉ headKeys) = entriesOf head.others.reverse := by
    rw [hothers, List.append_nil, List.reverse_reverse, htakenEq]
    exact entriesOf_filter (fun key => decide (key ∉ headKeys)) entries
  rw [hfilter]

/-- Takes a value in. -/
def takeIn (depth : Nat) (draft : Draft) : Except Error Json :=
  Json.orFault (draft.buffer depth)

/-- A block is read from a map whose keys could be read. -/
theorem exists_object_of_ofDraft {depth : Nat} {draft : Draft} {block : Block} (h : ofDraft depth draft = .ok block) :
    ∃ entries, draft = .object entries := by
  unfold ofDraft at h
  split at h
  next entries stop =>
    split at h
    · cases h
    · obtain ⟨head, hhead, h⟩ := bind_eq_ok.mp h
      obtain ⟨_, hstop, -⟩ := bind_eq_ok.mp h
      obtain ⟨written, rfl⟩ := exists_fit_of_readHead hhead
      cases stop with
      | some stop => cases hstop
      | none => exact ⟨written, rfl⟩
  · cases h

/-- A block that is read where it stands is what its entries say. -/
theorem ofDraft_eq_ok {depth : Nat} {entries : List (String × Draft)} {block : Block} :
    ofDraft depth (.object entries) = .ok block ↔
      ∃ inner, Json.enter? depth = some inner ∧
        ∃ id place type fields,
          Says Draft.text (positionOfDraft inner) (takeIn inner) entries id place type fields ∧
          block = (fields.toKind type).toBlock id (place.getD none) := by
  unfold Draft.object ofDraft
  dsimp only
  -- a map takes a level, and without one no block is read
  cases henter : Json.enter? depth with
  | none => exact ⟨nofun, nofun⟩
  | some inner =>
    constructor
    · intro h
      refine ⟨inner, rfl, readHead_ofHead_eq_ok.mp ?_⟩
      obtain ⟨head, hhead, h⟩ := bind_eq_ok.mp h
      obtain ⟨-, -, hblock⟩ := bind_eq_ok.mp h
      exact ⟨head, hhead, hblock⟩
    · rintro ⟨inner', hinner, h⟩
      obtain rfl := Option.some.inj hinner
      obtain ⟨head, hhead, hblock⟩ := readHead_ofHead_eq_ok.mpr h
      exact bind_eq_ok.mpr ⟨head, hhead, bind_eq_ok.mpr ⟨(), rfl, hblock⟩⟩

/-! ## Where it stands and taken in -/

/-- Entries whose values are changed say what the readers of the changed values read. -/
theorem says_map_iff {α γ : Type} {text : α → Except Error String} {position : α → Except Error (Option Position)}
    {take : α → Except Error Json} {f : γ → α} {entries : List (String × γ)} {id : String}
    {place : Option (Option Position)} {type : BlockType} {fields : Fields} :
    Says text position take (entries.map fun entry => (entry.1, f entry.2)) id place type fields ↔
      Says (fun value => text (f value)) (fun value => position (f value)) (fun value => take (f value)) entries
        id place type fields := by
  -- a field is given alike, whichever its keys are
  have hgiven {β : Type} {read : α → Except Error β} {found : Option β} (p : String → Bool) :
      Given read none (valuesOf p (entries.map fun entry => (entry.1, f entry.2))) found ↔
        Given (fun value => read (f value)) none (valuesOf p entries) found := by
    rw [Json.valuesOf_map, Json.given_map_iff]
  constructor
  · intro h
    refine ⟨(hgiven _).mp h.given_id, (hgiven _).mp h.given_position, fun entry hentry hkey => ?_,
      (hgiven _).mp h.given_type, fun field => ?_⟩
    · exact h.taken_others (entry.1, f entry.2) (List.mem_map_of_mem hentry) hkey
    · have hfield := h.given_fields field
      rw [hgiven] at hfield
      exact hfield
  · intro h
    refine ⟨(hgiven _).mpr h.given_id, (hgiven _).mpr h.given_position, fun entry hentry hkey => ?_,
      (hgiven _).mpr h.given_type, fun field => ?_⟩
    · obtain ⟨written, hwritten, rfl⟩ := List.mem_map.mp hentry
      exact h.taken_others written hwritten hkey
    · rw [hgiven]
      exact h.given_fields field

/-- A position is read from a draft as from the document, where it is low enough. -/
theorem positionOfDraft_ofJson_eq_ok {depth : Nat} {j : Json} {place : Option Position}
    (hheight : j.height ≤ depth - 1) :
    positionOfDraft depth (Draft.ofJson j) = .ok place ↔ positionOfJson j = .ok place := by
  have hsome : (Position.ofDraft depth (Draft.ofJson j)).map some = .ok place ↔
      (Position.ofJson j).map some = .ok place :=
    map_eq_ok.trans ((exists_congr fun p => and_congr (Position.ofDraft_ofJson_eq_ok hheight) Iff.rfl).trans
      map_eq_ok.symm)
  cases j with
  | null => exact Iff.rfl
  | _ => exact hsome

/-- A block is the same whether it was taken in or is read where it stands, as long as it is low enough. -/
theorem ofDraft_ofJson_eq_ok {depth : Nat} {j : Json} {block : Block} (hheight : j.height ≤ depth - 1) :
    ofDraft depth (Draft.ofJson j) = .ok block ↔ ofJson j = .ok block := by
  cases j with
  | map entries =>
    obtain ⟨inner, henter, hinner⟩ := Json.enter?_of_le hheight
    have hlow := Json.heightOfEntries_le_iff.mp hinner
    -- read from the document or from its draft, a text is the same text
    have htext (j : Json) (s : String) : (Draft.ofJson j).text = .ok s ↔ j.text = .ok s := by
      cases j with
      | str => exact Iff.rfl
      | _ => constructor <;> intro h <;> cases h
    have htake (j k : Json) (h : j.height ≤ inner - 1) :
        takeIn inner (Draft.ofJson j) = .ok k ↔ (Except.ok j : Except Error Json) = .ok k := by
      rw [takeIn, Draft.buffer_ofJson j h]
      rfl
    rw [← Draft.object_map_ofJson, ofDraft_eq_ok, ofJson_eq_ok]
    constructor
    · rintro ⟨inner', hinner', id, place, type, fields, hsaid, rfl⟩
      obtain rfl := Option.some.inj (henter.symm.trans hinner')
      exact ⟨id, place, type, fields, (says_map_iff.mp hsaid).congr (fun entry _ s => (htext entry.2 s).mp)
        (fun entry hentry p => (positionOfDraft_ofJson_eq_ok (hlow entry hentry)).mp)
        fun entry hentry k => (htake entry.2 k (hlow entry hentry)).mp, rfl⟩
    · rintro ⟨id, place, type, fields, hsaid, rfl⟩
      exact ⟨inner, henter, id, place, type, fields, says_map_iff.mpr (hsaid.congr
        (fun entry _ s => (htext entry.2 s).mpr)
        (fun entry hentry p => (positionOfDraft_ofJson_eq_ok (hlow entry hentry)).mpr)
        fun entry hentry k => (htake entry.2 k (hlow entry hentry)).mpr), rfl⟩
  | null | bool | num | str | list => constructor <;> intro h <;> cases h

/-- A draft that is taken in and read as a block is one that can be taken in and is read as the block where it
stands. -/
theorem exists_buffer_ofJson {depth : Nat} {draft : Draft} {block : Block} :
    (∃ j, draft.buffer depth = .ok j ∧ ofJson j = .ok block) ↔
      draft.Fits depth ∧ ofDraft depth draft = .ok block := by
  constructor
  · rintro ⟨j, hj, hblock⟩
    obtain ⟨rfl, hheight⟩ := Draft.buffer_eq_ok_iff.mp hj
    exact ⟨⟨j, hj⟩, (ofDraft_ofJson_eq_ok hheight).mpr hblock⟩
  · rintro ⟨⟨j, hj⟩, hblock⟩
    obtain ⟨rfl, hheight⟩ := Draft.buffer_eq_ok_iff.mp hj
    exact ⟨j, hj, (ofDraft_ofJson_eq_ok hheight).mp hblock⟩

/-- Blocks are read from drafts that are taken out first, or one by one. -/
theorem exists_bufferItems_ofItems {depth : Nat} {items : List Draft} {blocks : List Block} :
    (∃ js, Draft.bufferItems depth items = .ok js ∧ ofItems js = .ok blocks) ↔
      List.Forall₂ (fun draft block => draft.Fits depth ∧ ofDraft depth draft = .ok block) items blocks := by
  induction items generalizing blocks with
  | nil =>
    constructor
    · rintro ⟨js, hjs, h⟩
      obtain rfl := Except.ok.inj hjs
      obtain rfl := Except.ok.inj h
      exact .nil
    · intro h
      cases h
      exact ⟨[], rfl, rfl⟩
  | cons item rest ih =>
    rw [List.forall₂_cons_left_iff]
    constructor
    · -- the first item is taken in and read, then the others
      rintro ⟨js, hjs, h⟩
      obtain ⟨j, hj, hjs⟩ := bind_eq_ok.mp hjs
      obtain ⟨others, hothers, hjs⟩ := bind_eq_ok.mp hjs
      obtain rfl := Except.ok.inj hjs
      obtain ⟨block, hblock, h⟩ := bind_eq_ok.mp h
      obtain ⟨blocks, hblocks, h⟩ := bind_eq_ok.mp h
      obtain rfl := Except.ok.inj h
      exact ⟨block, blocks, exists_buffer_ofJson.mp ⟨j, hj, hblock⟩, ih.mp ⟨others, hothers, hblocks⟩, rfl⟩
    · rintro ⟨block, blocks, hblock, hblocks, rfl⟩
      obtain ⟨j, hj, hblock⟩ := exists_buffer_ofJson.mpr hblock
      obtain ⟨others, hothers, hblocks⟩ := ih.mpr hblocks
      exact ⟨j :: others, bind_eq_ok.mpr ⟨j, hj, bind_eq_ok.mpr ⟨others, hothers, rfl⟩⟩,
        bind_eq_ok.mpr ⟨block, hblock, bind_eq_ok.mpr ⟨blocks, hblocks, rfl⟩⟩⟩

/-- The children that a list of drafts says: each draft can be taken in, and is read as a block where it stands. -/
theorem takeIn_list_eq_ok {depth : Nat} {items : List Draft} {blocks : List Block} :
    (takeIn depth (.list items none) >>= listOfJson) = .ok blocks ↔
      ∃ inner, Json.enter? depth = some inner ∧
        List.Forall₂ (fun draft block => draft.Fits inner ∧ ofDraft inner draft = .ok block) items blocks := by
  rw [bind_eq_ok]
  unfold takeIn
  rw [Draft.buffer.eq_def]
  dsimp only
  -- a list takes a level, and without one nothing is taken in
  cases Json.enter? depth with
  | none => exact ⟨fun ⟨_, h, _⟩ => (nomatch h), nofun⟩
  | some inner =>
    constructor
    · rintro ⟨j, hj, hblocks⟩
      obtain ⟨js, hjs, hj⟩ := bind_eq_ok.mp (Json.orFault_eq_ok.mp hj)
      obtain rfl := Except.ok.inj hj
      exact ⟨inner, rfl, exists_bufferItems_ofItems.mp ⟨js, hjs, hblocks⟩⟩
    · rintro ⟨inner', hinner, h⟩
      obtain rfl := Option.some.inj hinner
      obtain ⟨js, hjs, hblocks⟩ := exists_bufferItems_ofItems.mpr h
      exact ⟨.list js, Json.orFault_eq_ok.mpr (bind_eq_ok.mpr ⟨js, hjs, rfl⟩), hblocks⟩

end Block

end Signalbox
