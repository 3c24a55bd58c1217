import Mathlib.Tactic.SplitIfs
import Signalbox.Block.Document
import Signalbox.Proofs.Json.Outcome

/-!
# The fields of a kind, written and read

The entries that are written for a kind are read back as the kind (`Block.readKind_entriesOf`). In the other
direction a kind has nothing that was not read: its children and its scalar come from one of the entries, or
are the defaults of its type (`Block.holds_of_readKind`).
-/

namespace Signalbox

open Json (Error)

/-- The scalar that a statement carries. -/
def StatementKind.scalar? : StatementKind → Option Scalar
  | .wait _ => none
  | .sleep value | .log value | .alert value | .deviceSet _ _ value => some value

namespace Kind

/-- The entries that are written for the fields of a kind. -/
def fieldEntries : Kind → List (String × Json)
  | .container own children => Block.containerFields own ++ [("children", .list (Block.toItems children))]
  | .statement own => Block.statementFields own

/-- The entries that are written for a kind. -/
def entries (kind : Kind) : List (String × Json) :=
  ("type", .str kind.type.name) :: kind.fieldEntries

/-- The fields that a kind gives. -/
def fields : Kind → Block.Fields
  | .container (.loop count) children => { children := some children, count := some count }
  | .container (.branch condition) children => { children := some children, condition := some condition }
  | .container .once children | .container .forever children | .container .dummy children =>
    { children := some children }
  | .statement (.wait condition) => { condition := some condition }
  | .statement (.sleep value) | .statement (.log value) | .statement (.alert value) => { value := some value }
  | .statement (.deviceSet device prop value) =>
    { device := some device, prop := some prop, value := some value }

theorem toKind_fields (kind : Kind) : kind.fields.toKind kind.type = kind := by
  rcases kind with ⟨own, children⟩ | own <;> cases own <;> rfl

end Kind

namespace Block

/-- The entries that are written for a block. -/
def entries (block : Block) : List (String × Json) :=
  headFields block.id block.position ++ block.kind.entries

/-- A block is written as the map of its entries. -/
theorem toJson_eq_entries (block : Block) : block.toJson = .map block.entries := by
  cases block with
  | container id position own children =>
    rw [toJson, List.append_assoc]
    rfl
  | statement id position own =>
    rw [toJson]
    rfl

/-- The entries with the blocks that each of them may hold, one by one. -/
theorem entriesOf_eq_map (entries : List (String × Json)) :
    entriesOf entries = entries.map fun entry => ⟨entry.1, entry.2, listOfJson entry.2⟩ := by
  induction entries with
  | nil => rw [entriesOf, List.map_nil]
  | cons entry rest ih => rw [entriesOf, ih, List.map_cons]

theorem entriesOf_append (front back : List (String × Json)) :
    entriesOf (front ++ back) = entriesOf front ++ entriesOf back := by
  rw [entriesOf_eq_map, List.map_append, ← entriesOf_eq_map, ← entriesOf_eq_map]

/-! ## Reading what was written -/

theorem typeOfName_name (type : BlockType) : typeOfName type.name = .ok type := by
  cases type <;> rfl

/-- A scalar is read from what is written for it. -/
theorem scalar_ofJson_toJson (value : Scalar) : Scalar.ofJson value.toJson = .ok value := by
  cases value <;> rfl

/-- A count is read from what is written for it. -/
theorem count32_ofNat (count : UInt32) : (Json.ofNat count.toNat).count32 = .ok count := by
  have hcount : (count.toNat : Int) < UInt32.size := by exact_mod_cast count.toNat_lt
  rw [Json.ofNat, Json.count32, if_pos ⟨Int.natCast_nonneg _, hcount⟩, Int.toNat_natCast]
  exact congrArg _ UInt32.ofNat_toNat

/-- Without an entry for it, the type is what was found before. -/
theorem findType_of_forall_ne {numbered : Bool} {found : Option BlockType} {entries : List Entry}
    (h : ∀ entry ∈ entries, entry.key ≠ "type") : findType numbered found entries = .ok found := by
  induction entries with
  | nil => rfl
  | cons entry rest ih =>
    rw [findType, if_neg (h entry List.mem_cons_self)]
    exact ih fun entry hentry => h entry (List.mem_cons_of_mem _ hentry)

theorem readKind_cons (numbered : Bool) (type : BlockType) {children : Except Error (List Block)}
    {entries : List Entry} {fields : Fields} (htype : ∀ entry ∈ entries, entry.key ≠ "type")
    (hfields : readFields type {} entries = .ok fields) :
    readKind numbered (⟨"type", .str type.name, children⟩ :: entries) = .ok (fields.toKind type) := by
  -- the entry of the type is the only one that is left out
  have hfilter : (Entry.mk "type" (.str type.name) children :: entries).filter (·.key ≠ "type") = entries := by
    rw [List.filter_cons_of_neg (by simp)]
    exact List.filter_eq_self.mpr fun entry hentry => decide_eq_true (htype entry hentry)
  have hfind : findType numbered none (⟨"type", .str type.name, children⟩ :: entries) = .ok (some type) := by
    rw [findType, if_pos rfl, readType, typeOfName_name]
    exact findType_of_forall_ne htype
  rw [readKind, hfind, hfilter]
  change (readFields type {} entries >>= fun fields => _) = _
  rw [hfields]
  rfl

/-- The fields of a kind are read from what is written for them. -/
theorem readFields_fieldEntries (kind : Kind)
    (hchildren : ∀ own children, kind = .container own children → ofItems (toItems children) = .ok children) :
    readFields kind.type {} (entriesOf kind.fieldEntries) = .ok kind.fields := by
  rw [entriesOf_eq_map]
  cases kind with
  | container own children =>
    have hlist : listOfJson (.list (toItems children)) = .ok children := hchildren own children rfl
    cases own <;>
      simp [Kind.fieldEntries, Kind.type, ContainerKind.type, Kind.fields, containerFields, readFields,
        fieldOfKey, fieldNames, Json.once, hlist, count32_ofNat]
    all_goals rfl
  | statement own =>
    cases own <;>
      simp [Kind.fieldEntries, Kind.type, StatementKind.type, Kind.fields, statementFields, readFields,
        fieldOfKey, fieldNames, Json.once, scalar_ofJson_toJson]
    all_goals rfl

/-- No field is written under the key of the type. -/
theorem key_ne_type_of_mem_fieldEntries (kind : Kind) :
    ∀ entry ∈ entriesOf kind.fieldEntries, entry.key ≠ "type" := by
  rw [entriesOf_eq_map]
  rcases kind with ⟨own, children⟩ | own <;> cases own <;>
    simp [Kind.fieldEntries, containerFields, statementFields]

/-- The entries of a kind are read back as the kind, when the children are. -/
theorem readKind_entriesOf (kind : Kind) (numbered : Bool)
    (hchildren : ∀ own children, kind = .container own children → ofItems (toItems children) = .ok children) :
    readKind numbered (entriesOf kind.entries) = .ok kind := by
  rw [Kind.entries, entriesOf, readKind_cons numbered kind.type (key_ne_type_of_mem_fieldEntries kind)
    (readFields_fieldEntries kind hchildren), Kind.toKind_fields]

end Block

/-! ## What was read -/

section

variable {C : List Block → Prop} {V : Scalar → Prop}

/-- The children and the scalar of a kind, where it has them, have these properties. -/
def Kind.Holds (C : List Block → Prop) (V : Scalar → Prop) : Kind → Prop
  | .container _ children => C children
  | .statement own => ∀ value, own.scalar? = some value → V value

/-- The children and the value, where they are given, have these properties. -/
def Block.Fields.Holds (C : List Block → Prop) (V : Scalar → Prop) (fields : Fields) : Prop :=
  (∀ children, fields.children = some children → C children) ∧ ∀ value, fields.value = some value → V value

/-- What an entry says as children or as a scalar has these properties. -/
def Block.Entry.Holds (C : List Block → Prop) (V : Scalar → Prop) (entry : Entry) : Prop :=
  (∀ children, entry.children = .ok children → C children) ∧
    ∀ value, Scalar.ofJson entry.value = .ok value → V value

namespace Block

/-- What holds of the fields, and of what stands for a missing one, holds of the kind. -/
theorem Fields.holds_toKind {fields : Fields} (h : fields.Holds C V) (hchildren : C [])
    (hsleep : V BlockType.defaultSleep) (hvalue : V BlockType.defaultValue) (type : BlockType) :
    (fields.toKind type).Holds C V := by
  obtain ⟨hfieldChildren, hfieldValue⟩ := h
  -- given or default
  have hgetChildren : C (fields.children.getD []) := by
    cases hgiven : fields.children with
    | none => exact hchildren
    | some children => exact hfieldChildren children hgiven
  have hgetValue : ∀ default, V default → V (fields.value.getD default) := by
    intro default hdefault
    cases hgiven : fields.value with
    | none => exact hdefault
    | some value => exact hfieldValue value hgiven
  cases type with
  | once | forever | loop | branch | dummy => exact hgetChildren
  | wait => exact nofun
  | sleep =>
    intro value hscalar
    obtain rfl := Option.some.inj hscalar
    exact hgetValue _ hsleep
  | log | alert | deviceSet =>
    intro value hscalar
    obtain rfl := Option.some.inj hscalar
    exact hgetValue _ hvalue

/-- What holds of the entries, and of the fields before them, holds of the fields that are read. -/
theorem holds_of_readFields {type : BlockType} {fields result : Fields} {entries : List Entry}
    (h : readFields type fields entries = .ok result) (hfields : fields.Holds C V)
    (hentries : ∀ entry ∈ entries, entry.Holds C V) : result.Holds C V := by
  induction entries generalizing fields with
  | nil =>
    obtain rfl := Except.ok.inj h
    exact hfields
  | cons entry rest ih =>
    obtain ⟨hchildren, hvalue⟩ := hentries entry List.mem_cons_self
    have hrest : ∀ entry ∈ rest, entry.Holds C V :=
      fun entry hentry => hentries entry (List.mem_cons_of_mem _ hentry)
    rw [readFields] at h
    split_ifs at h
    · -- a field that is read is the field of one entry; all other fields stay as they are
      split at h
      · -- the children
        obtain ⟨children, honce, h⟩ := bind_eq_ok.mp h
        obtain ⟨-, cs, hcs, rfl⟩ := Json.once_eq_ok.mp honce
        refine ih h ⟨fun given hgiven => ?_, hfields.2⟩ hrest
        obtain rfl := Option.some.inj hgiven
        exact hchildren cs hcs
      · obtain ⟨count, -, h⟩ := bind_eq_ok.mp h
        exact ih h ⟨hfields.1, hfields.2⟩ hrest
      · obtain ⟨condition, -, h⟩ := bind_eq_ok.mp h
        exact ih h ⟨hfields.1, hfields.2⟩ hrest
      · -- the value
        obtain ⟨value, honce, h⟩ := bind_eq_ok.mp h
        obtain ⟨-, scalar, hscalar, rfl⟩ := Json.once_eq_ok.mp honce
        refine ih h ⟨hfields.1, fun given hgiven => ?_⟩ hrest
        obtain rfl := Option.some.inj hgiven
        exact hvalue scalar hscalar
      · obtain ⟨device, -, h⟩ := bind_eq_ok.mp h
        exact ih h ⟨hfields.1, hfields.2⟩ hrest
      · obtain ⟨prop, -, h⟩ := bind_eq_ok.mp h
        exact ih h ⟨hfields.1, hfields.2⟩ hrest
    · exact ih h hfields hrest

/-- A kind that was read has the children and the scalar of one of the entries, or the default ones. -/
theorem holds_of_readKind {numbered : Bool} {entries : List Entry} {kind : Kind}
    (h : readKind numbered entries = .ok kind) (hchildren : C []) (hsleep : V BlockType.defaultSleep)
    (hvalue : V BlockType.defaultValue) (hentries : ∀ entry ∈ entries, entry.Holds C V) :
    kind.Holds C V := by
  obtain ⟨found, -, h⟩ := bind_eq_ok.mp h
  obtain ⟨type, -, h⟩ := bind_eq_ok.mp h
  obtain ⟨fields, hfields, h⟩ := bind_eq_ok.mp h
  obtain rfl := Except.ok.inj h
  have hholds : fields.Holds C V := holds_of_readFields hfields ⟨nofun, nofun⟩ fun entry hentry =>
    hentries entry (List.mem_filter.mp hentry).1
  exact Fields.holds_toKind hholds hchildren hsleep hvalue type

end Block

end

end Signalbox
