import Signalbox.Proofs.Block.Said
import Signalbox.Proofs.Json.Spelled

/-!
# Blocks in another spelling

One block has many maps that say it: with its entries in another order, with entries that mean nothing to it, with the
second name of its type or of a field, and without the fields that have their defaults. `Block.Respelled` lists these
steps from one map to another, for a block and for the blocks inside it, and every step says the same block again.

Main results:

* `Block.Respelled.fits`: a block in another spelling can be taken in.
* `Block.Respelled.ofDraft_eq_ok`: it is read as the same block.
* `Block.Respelled.exists_spells`: there is a text of it.
-/

namespace Signalbox

open Json (Error Fault Draft Given Spells fit valuesOf valuesAt)

namespace Block

/-- The names of the type that has two of them. -/
def deviceSetNames : List String :=
  [BlockType.deviceSet.name, BlockType.deviceSetAlias]

/-- The keys of the field that has two of them. -/
def propKeys : List String :=
  ["prop", "property"]

/-- The keys that mean something to a block of a type. -/
def keysOf (type : BlockType) : List String :=
  ["id", "position", "type"] ++ fieldNames type ++ if type = .deviceSet then ["property"] else []

/-- What stands for a field of a type that could be left out as well. -/
def Field.default (type : BlockType) : Field → Json
  | .children => .list []
  | .count => .ofNat 1
  | .value => if type = .sleep then .ofNat 1000 else .str ""
  | .condition | .device | .prop => .str ""

/-- What a field of a type is when it is left out. -/
def Field.leftOut (type : BlockType) : (field : Field) → field.Content
  | .children => []
  | .count => BlockType.defaultLoopCount
  | .value => if type = .sleep then BlockType.defaultSleep else BlockType.defaultValue
  | .condition | .device | .prop => ""

/-- One of the entries gives the type of the block. -/
def HasType (entries : List (String × Draft)) (type : BlockType) : Prop :=
  ∃ j, ("type", Draft.ofJson j) ∈ entries ∧ readType true j = .ok type

/-- The second draft says the block of the first one in another spelling. Both stand at a depth. -/
inductive Respelled : (depth : Nat) → Draft → Draft → Prop where
  /-- The entries in another order. -/
  | entries {depth : Nat} {entries entries' : List (String × Draft)} (h : entries.Perm entries') :
    Respelled depth (.object entries) (.object entries')
  /-- The entries of the position in another order. -/
  | places {depth : Nat} {front back : List (String × Draft)} {places places' : List (String × Draft)}
    (h : places.Perm places') :
    Respelled depth (.object (front ++ ("position", .object places) :: back))
      (.object (front ++ ("position", .object places') :: back))
  /-- One more entry, with a key that means nothing to the block and a value that has a text and can be taken in. -/
  | extra {depth inner : Nat} {front back : List (String × Draft)} {type : BlockType} {key : String} {value : Draft}
    (htype : HasType (front ++ back) type) (hkey : key ∉ keysOf type) (henter : Json.enter? depth = some inner)
    (hfits : value.Fits inner) (htext : ∃ text, Spells text value) :
    Respelled depth (.object (front ++ back)) (.object (front ++ (key, value) :: back))
  /-- Another name of the same type. -/
  | type {depth : Nat} {front back : List (String × Draft)} {name name' : String} (h : name ∈ deviceSetNames)
    (h' : name' ∈ deviceSetNames) :
    Respelled depth (.object (front ++ ("type", .str name) :: back)) (.object (front ++ ("type", .str name') :: back))
  /-- Another key of the same field. -/
  | prop {depth : Nat} {front back : List (String × Draft)} {key key' : String} {value : Draft} (h : key ∈ propKeys)
    (h' : key' ∈ propKeys) :
    Respelled depth (.object (front ++ (key, value) :: back)) (.object (front ++ (key', value) :: back))
  /-- A field that has its default is left out. -/
  | default {depth : Nat} {front back : List (String × Draft)} {type : BlockType} {field : Field} {key : String}
    (htype : HasType (front ++ back) type) (hfield : field.name ∈ fieldNames type) (hkey : field.isKey key = true) :
    Respelled depth (.object (front ++ (key, Draft.ofJson (field.default type)) :: back)) (.object (front ++ back))
  /-- A position that is null is left out. -/
  | place {depth : Nat} {front back : List (String × Draft)} :
    Respelled depth (.object (front ++ ("position", .null) :: back)) (.object (front ++ back))
  /-- A block inside the block in another spelling. -/
  | child {depth inner below : Nat} {front back : List (String × Draft)} {before after : List Draft}
    {draft draft' : Draft} (henter : Json.enter? depth = some inner) (hbelow : Json.enter? inner = some below)
    (h : Respelled below draft draft') :
    Respelled depth (.object (front ++ ("children", .list (before ++ draft :: after) none) :: back))
      (.object (front ++ ("children", .list (before ++ draft' :: after) none) :: back))

/-! ## Taken in -/

/-- A block in another spelling can be taken in where the block can. -/
theorem Respelled.fits {depth : Nat} {draft draft' : Draft} (h : Respelled depth draft draft')
    (hfits : draft.Fits depth) : draft'.Fits depth := by
  -- a map fits when each of its values does one level below, so that only the changed values are looked at
  induction h with
  | entries hperm =>
    obtain ⟨inner, henter, hentries⟩ := Draft.fits_object_iff.mp hfits
    exact Draft.fits_object_iff.mpr ⟨inner, henter, fun entry hentry => hentries entry (hperm.mem_iff.mpr hentry)⟩
  | places hperm =>
    obtain ⟨inner, henter, hentries⟩ := Draft.fits_object_iff.mp hfits
    simp only [List.forall_mem_append, List.forall_mem_cons] at hentries
    obtain ⟨hfront, hplaces, hback⟩ := hentries
    obtain ⟨below, hbelow, hplaces⟩ := Draft.fits_object_iff.mp hplaces
    refine Draft.fits_object_iff.mpr ⟨inner, henter, ?_⟩
    simp only [List.forall_mem_append, List.forall_mem_cons]
    exact ⟨hfront, Draft.fits_object_iff.mpr ⟨below, hbelow, fun place hplace =>
      hplaces place (hperm.mem_iff.mpr hplace)⟩, hback⟩
  | extra htype hkey henter hvalue htext =>
    obtain ⟨inner, henter', hentries⟩ := Draft.fits_object_iff.mp hfits
    obtain rfl := Option.some.inj (henter.symm.trans henter')
    refine Draft.fits_object_iff.mpr ⟨_, henter, ?_⟩
    simp only [List.forall_mem_append, List.forall_mem_cons] at hentries ⊢
    exact ⟨hentries.1, hvalue, hentries.2⟩
  | type h h' =>
    obtain ⟨inner, henter, hentries⟩ := Draft.fits_object_iff.mp hfits
    refine Draft.fits_object_iff.mpr ⟨inner, henter, ?_⟩
    simp only [List.forall_mem_append, List.forall_mem_cons] at hentries ⊢
    exact ⟨hentries.1, ⟨.str _, rfl⟩, hentries.2.2⟩
  | prop h h' =>
    obtain ⟨inner, henter, hentries⟩ := Draft.fits_object_iff.mp hfits
    refine Draft.fits_object_iff.mpr ⟨inner, henter, ?_⟩
    simp only [List.forall_mem_append, List.forall_mem_cons] at hentries ⊢
    exact hentries
  | default | place =>
    obtain ⟨inner, henter, hentries⟩ := Draft.fits_object_iff.mp hfits
    refine Draft.fits_object_iff.mpr ⟨inner, henter, ?_⟩
    simp only [List.forall_mem_append, List.forall_mem_cons] at hentries ⊢
    exact ⟨hentries.1, hentries.2.2⟩
  | child henter hbelow _ ih =>
    obtain ⟨inner, henter', hentries⟩ := Draft.fits_object_iff.mp hfits
    obtain rfl := Option.some.inj (henter.symm.trans henter')
    refine Draft.fits_object_iff.mpr ⟨_, henter, ?_⟩
    simp only [List.forall_mem_append, List.forall_mem_cons, Draft.fits_list_iff] at hentries ⊢
    obtain ⟨hfront, ⟨below, hbelow', hbefore, hdraft, hafter⟩, hback⟩ := hentries
    obtain rfl := Option.some.inj (hbelow.symm.trans hbelow')
    exact ⟨hfront, ⟨_, hbelow, hbefore, ih hdraft, hafter⟩, hback⟩

/-! ## What the entries say -/

namespace Says

variable {α : Type} {text : α → Except Error String} {position : α → Except Error (Option Position)}
  {take : α → Except Error Json} {entries entries' front back : List (String × α)} {key key' : String}
  {value value' : α} {id : String} {place : Option (Option Position)} {type : BlockType} {fields : Fields}

/-- The order of the entries does not matter. -/
theorem perm (h : Says text position take entries id place type fields) (hperm : entries.Perm entries') :
    Says text position take entries' id place type fields := by
  have hvalues (p : String → Bool) : (valuesOf p entries).Perm (valuesOf p entries') := hperm.filterMap _
  refine ⟨h.given_id.perm (hvalues _), h.given_position.perm (hvalues _),
    fun entry hentry => h.taken_others entry (hperm.mem_iff.mpr hentry), h.given_type.perm (hvalues _), fun field => ?_⟩
  have hfield := h.given_fields field
  split_ifs at hfield ⊢
  · exact hfield.perm (hvalues _)
  · exact hfield

/-- A value gives way to another one that says the same as whatever its key makes of it. -/
theorem replace (h : Says text position take (front ++ (key, value) :: back) id place type fields)
    (hid : key = "id" → ∀ s, text value = .ok s → text value' = .ok s)
    (hposition : key = "position" → ∀ p, position value = .ok p → position value' = .ok p)
    (htake : key ∉ headKeys → (∃ j, take value = .ok j) → ∃ j, take value' = .ok j)
    (htype : key = "type" → ∀ t, (take value >>= readType true) = .ok t → (take value' >>= readType true) = .ok t)
    (hfields : ∀ field : Field, field.isKey key = true →
      ∀ c, (take value >>= field.read) = .ok c → (take value' >>= field.read) = .ok c) :
    Says text position take (front ++ (key, value') :: back) id place type fields := by
  -- the entry says the same as before to every reader that looks at its key
  refine ⟨h.given_id.replace_mid fun hkey => hid (beq_iff_eq.mp hkey),
    h.given_position.replace_mid fun hkey => hposition (beq_iff_eq.mp hkey), ?_,
    h.given_type.replace_mid fun hkey => htype (beq_iff_eq.mp hkey), fun field => ?_⟩
  · have hothers := h.taken_others
    simp only [List.forall_mem_append, List.forall_mem_cons] at hothers ⊢
    exact ⟨hothers.1, fun hkey => htake hkey (hothers.2.1 hkey), hothers.2.2⟩
  · have hfield := h.given_fields field
    split_ifs at hfield ⊢
    · exact hfield.replace_mid (hfields field)
    · exact hfield

/-- An entry that means nothing to the block may stand anywhere. -/
theorem insert (h : Says text position take (front ++ back) id place type fields) (hkey : key ∉ keysOf type)
    (htake : ∃ j, take value = .ok j) :
    Says text position take (front ++ (key, value) :: back) id place type fields := by
  simp only [keysOf, List.mem_append, List.mem_cons, List.not_mem_nil, or_false, not_or] at hkey
  obtain ⟨⟨⟨hid, hposition, htype⟩, hname⟩, hsecond⟩ := hkey
  -- the new key is none of those that a block of the type reads
  have hfields (field : Field) (hfield : field.name ∈ fieldNames type) : field.isKey key = false := by
    refine Bool.eq_false_iff.mpr fun hisKey => ?_
    rw [← Field.isKey_iff.mp hisKey] at hfield
    unfold fieldOfKey at hfield
    split_ifs at hfield with hproperty
    · -- only one type has the field with the second name
      have hdeviceSet : type = .deviceSet := by
        cases type <;> first | rfl | exact absurd hfield (by decide)
      rw [if_pos hdeviceSet] at hsecond
      exact hsecond (by rw [hproperty]; exact List.mem_cons_self)
    · exact hname hfield
  refine ⟨?_, ?_, ?_, ?_, fun field => ?_⟩
  · rw [Json.valuesAt_mid_of_ne hid]
    exact h.given_id
  · rw [Json.valuesAt_mid_of_ne hposition]
    exact h.given_position
  · have hothers := h.taken_others
    simp only [List.forall_mem_append, List.forall_mem_cons] at hothers ⊢
    exact ⟨hothers.1, fun _ => htake, hothers.2⟩
  · rw [Json.valuesAt_mid_of_ne htype]
    exact h.given_type
  · have hfield := h.given_fields field
    split_ifs at hfield ⊢ with hmem
    · rw [Json.valuesOf_mid_of_neg (hfields field hmem)]
      exact hfield
    · exact hfield

/-- An entry of the field that has two keys may have the other one. -/
theorem rekey (h : Says text position take (front ++ (key, value) :: back) id place type fields) (hkey : key ∈ propKeys)
    (hkey' : key' ∈ propKeys) : Says text position take (front ++ (key', value) :: back) id place type fields := by
  -- nothing that is asked of a key tells the two apart
  have hhead : ∀ key ∈ propKeys, key ∉ headKeys ∧ (key == "id") = false ∧ (key == "position") = false ∧
      (key == "type") = false ∧ fieldOfKey key = "prop" := by decide
  obtain ⟨hother, hid, hposition, htype, hfield⟩ := hhead key hkey
  obtain ⟨-, hid', hposition', htype', hfield'⟩ := hhead key' hkey'
  have hvalues {p : String → Bool} (hp : p key = p key') :
      valuesOf p (front ++ (key, value) :: back) = valuesOf p (front ++ (key', value) :: back) :=
    Json.valuesOf_mid_congr hp
  refine ⟨?_, ?_, ?_, ?_, fun field => ?_⟩
  · rw [valuesAt, ← hvalues (p := (· == "id")) (hid.trans hid'.symm)]
    exact h.given_id
  · rw [valuesAt, ← hvalues (p := (· == "position")) (hposition.trans hposition'.symm)]
    exact h.given_position
  · have hothers := h.taken_others
    simp only [List.forall_mem_append, List.forall_mem_cons] at hothers ⊢
    exact ⟨hothers.1, fun _ => hothers.2.1 hother, hothers.2.2⟩
  · rw [valuesAt, ← hvalues (p := (· == "type")) (htype.trans htype'.symm)]
    exact h.given_type
  · rw [← hvalues (show field.isKey key = field.isKey key' by rw [Field.isKey, Field.isKey, hfield, hfield'])]
    exact h.given_fields field

theorem ne_of_isKey {field : Field} (hkey : field.isKey key = true) : key ≠ "id" ∧ key ≠ "position" ∧ key ≠ "type" := by
  have hname := Field.isKey_iff.mp hkey
  refine ⟨?_, ?_, ?_⟩ <;> rintro rfl <;> cases field <;> exact absurd hname (by decide)

/-- Without one of its entries a field of the type is not given, and all else is said as before. -/
theorem leaveField {field : Field} (h : Says text position take (front ++ (key, value) :: back) id place type fields)
    (hfield : field.name ∈ fieldNames type) (hkey : field.isKey key = true) :
    Says text position take (front ++ back) id place type (fields.set field none) := by
  obtain ⟨hid, hposition, htype⟩ := ne_of_isKey hkey
  have hother {field' : Field} (hne : field' ≠ field) : field'.isKey key = false :=
    Bool.eq_false_iff.mpr fun hkey' =>
      hne (Field.name_inj.mp ((Field.isKey_iff.mp hkey').symm.trans (Field.isKey_iff.mp hkey)))
  refine ⟨?_, ?_, ?_, ?_, fun field' => ?_⟩
  · rw [← Json.valuesAt_mid_of_ne hid]
    exact h.given_id
  · rw [← Json.valuesAt_mid_of_ne hposition]
    exact h.given_position
  · have hothers := h.taken_others
    simp only [List.forall_mem_append, List.forall_mem_cons] at hothers ⊢
    exact ⟨hothers.1, hothers.2.2⟩
  · rw [← Json.valuesAt_mid_of_ne htype]
    exact h.given_type
  · have hgiven := h.given_fields field'
    -- the field loses its value; the others have theirs as before
    by_cases hne : field' = field
    · subst hne
      rw [if_pos hfield, Json.valuesOf_mid_of_pos hkey] at hgiven
      rw [if_pos hfield, Fields.get_set_self, Json.valuesOf_append]
      exact hgiven.remove
    · rw [Json.valuesOf_mid_of_neg (hother hne)] at hgiven
      rw [Fields.get_set_of_ne _ hne]
      exact hgiven

/-- Without the entry of its position a block has none, and all else is said as before. -/
theorem leavePosition (h : Says text position take (front ++ ("position", value) :: back) id place type fields) :
    Says text position take (front ++ back) id none type fields := by
  refine ⟨?_, ?_, ?_, ?_, fun field => ?_⟩
  · rw [← Json.valuesAt_mid_of_ne (show "position" ≠ "id" by decide)]
    exact h.given_id
  · have hgiven := h.given_position
    -- the entry gave the position its only value
    rw [valuesAt, Json.valuesOf_mid_of_pos (p := (· == "position")) rfl] at hgiven
    rw [valuesAt, Json.valuesOf_append]
    exact hgiven.remove
  · have hothers := h.taken_others
    simp only [List.forall_mem_append, List.forall_mem_cons] at hothers ⊢
    exact ⟨hothers.1, hothers.2.2⟩
  · rw [← Json.valuesAt_mid_of_ne (show "position" ≠ "type" by decide)]
    exact h.given_type
  · have hnone : field.isKey "position" = false := by
      cases field <;> rfl
    rw [← Json.valuesOf_mid_of_neg hnone]
    exact h.given_fields field

end Says

/-! ## The same block -/

/-- One more entry leaves the type a type. -/
theorem HasType.insert {front back : List (String × Draft)} {entry : String × Draft} {type : BlockType}
    (h : HasType (front ++ back) type) : HasType (front ++ entry :: back) type := by
  obtain ⟨j, hmem, htype⟩ := h
  exact ⟨j, List.mem_append.mpr ((List.mem_append.mp hmem).imp_right (List.mem_cons_of_mem _)), htype⟩

/-- One of the entries of a block gives its type, and none gives another one. -/
theorem Says.hasType_iff {depth : Nat} {entries : List (String × Draft)} {id : String}
    {place : Option (Option Position)} {type type' : BlockType} {fields : Fields}
    (h : Says Draft.text (positionOfDraft depth) (takeIn depth) entries id place type fields) :
    HasType entries type' ↔ type' = type := by
  constructor
  · rintro ⟨j, hmem, htype⟩
    obtain ⟨given, hgiven, hsome⟩ :=
      h.given_type.exists_eq_ok _ (Json.mem_valuesOf (p := (· == "type")) hmem (beq_self_eq_true _))
    -- what names a type is a text or a number, which can be taken in anywhere
    have htaken : takeIn depth (Draft.ofJson j) = .ok j := by
      cases j with
      | num | str => rfl
      | null | bool | list | map => cases htype
    rw [htaken, ok_bind, htype] at hgiven
    exact (Except.ok.inj hgiven).trans (Option.some.inj hsome).symm
  · rintro rfl
    obtain ⟨value, hvalue, hread⟩ := h.given_type.exists_mem_of_some
    obtain ⟨j, hj, htype⟩ := bind_eq_ok.mp hread
    obtain ⟨key, hmem, hkey⟩ := Json.exists_mem_of_mem_valuesOf hvalue
    obtain rfl := beq_iff_eq.mp hkey
    obtain rfl := Draft.eq_ofJson_of_buffer (Json.orFault_eq_ok.mp hj)
    exact ⟨j, hmem, htype⟩

/-- What stands for a default is read as the default. -/
theorem eq_leftOut_of_default {depth : Nat} {type : BlockType} {field : Field} {content : field.Content}
    (h : (takeIn depth (Draft.ofJson (field.default type)) >>= field.read) = .ok content) :
    content = field.leftOut type := by
  cases field with
  | children =>
    obtain ⟨inner, -, hblocks⟩ := takeIn_list_eq_ok.mp h
    cases hblocks
    rfl
  | value => cases type <;> exact (Except.ok.inj h).symm
  | count | condition | device | prop => exact (Except.ok.inj h).symm

/-- A field of a type that has its default may as well be left out. -/
theorem toKind_set_none {type : BlockType} {fields : Fields} {field : Field} (hfield : field.name ∈ fieldNames type)
    (hget : fields.get field = some (field.leftOut type)) :
    (fields.set field none).toKind type = fields.toKind type := by
  cases field <;> cases type <;> first
    | exact absurd hfield (by decide)
    | simp only [Fields.get] at hget
      simp only [Fields.toKind, Fields.set, hget]
      rfl

/-- Each of the names of a device-set block is read as its type. -/
theorem readType_of_mem {name : String} (h : name ∈ deviceSetNames) : readType true (.str name) = .ok .deviceSet := by
  rcases List.mem_cons.mp h with rfl | h
  · rfl
  · rw [List.mem_singleton.mp h]
    rfl

/-- One of two related lists may be changed in a place where the relation is kept. -/
theorem forall₂_replace {α β : Type} {R : α → β → Prop} {before after : List α} {a a' : α} {bs : List β}
    (ha : ∀ b, R a b → R a' b) (h : List.Forall₂ R (before ++ a :: after) bs) :
    List.Forall₂ R (before ++ a' :: after) bs := by
  induction before generalizing bs with
  | nil =>
    obtain ⟨b, rest, hb, hrest, rfl⟩ := List.forall₂_cons_left_iff.mp h
    exact .cons (ha b hb) hrest
  | cons c before ih =>
    obtain ⟨b, rest, hb, hrest, rfl⟩ := List.forall₂_cons_left_iff.mp h
    exact .cons hb (ih hrest)

/-- A block in another spelling is read as the same block. -/
theorem Respelled.ofDraft_eq_ok {depth : Nat} {draft draft' : Draft} (h : Respelled depth draft draft') {block : Block}
    (hblock : ofDraft depth draft = .ok block) : ofDraft depth draft' = .ok block := by
  -- what the entries say is what counts, and each step keeps it; the block inside a block is any block
  induction h generalizing block with
  | entries hperm =>
    obtain ⟨inner, henter, id, place, type, fields, hsaid, rfl⟩ := Block.ofDraft_eq_ok.mp hblock
    exact Block.ofDraft_eq_ok.mpr ⟨inner, henter, id, place, type, fields, hsaid.perm hperm, rfl⟩
  | places hperm =>
    obtain ⟨inner, henter, id, place, type, fields, hsaid, rfl⟩ := Block.ofDraft_eq_ok.mp hblock
    refine Block.ofDraft_eq_ok.mpr ⟨inner, henter, id, place, type, fields, hsaid.replace ?_ ?_ ?_ ?_ ?_, rfl⟩
    · exact fun h => absurd h (by decide)
    · intro _ p hp
      obtain ⟨q, hq, hp⟩ := map_eq_ok.mp hp
      exact map_eq_ok.mpr ⟨q, Position.ofDraft_of_perm hperm hq, hp⟩
    · exact fun h => absurd (by decide) h
    · exact fun h => absurd h (by decide)
    · intro field h
      cases field <;> exact absurd h (by decide)
  | extra htype hkey henter hfits _ =>
    obtain ⟨inner, henter', id, place, type, fields, hsaid, rfl⟩ := Block.ofDraft_eq_ok.mp hblock
    obtain rfl := Option.some.inj (henter.symm.trans henter')
    obtain rfl := hsaid.hasType_iff.mp htype
    -- nothing asks for the new entry, but it is taken in all the same
    obtain ⟨j, hj⟩ := hfits
    exact Block.ofDraft_eq_ok.mpr
      ⟨_, henter, id, place, _, fields, hsaid.insert hkey ⟨j, Json.orFault_eq_ok.mpr hj⟩, rfl⟩
  | type h h' =>
    obtain ⟨inner, henter, id, place, type, fields, hsaid, rfl⟩ := Block.ofDraft_eq_ok.mp hblock
    refine Block.ofDraft_eq_ok.mpr ⟨inner, henter, id, place, type, fields, hsaid.replace ?_ ?_ ?_ ?_ ?_, rfl⟩
    · exact fun h => absurd h (by decide)
    · exact fun h => absurd h (by decide)
    · exact fun _ _ => ⟨.str _, rfl⟩
    · -- both are names of one type
      intro _ t ht
      exact (readType_of_mem h').trans ((readType_of_mem h).symm.trans ht)
    · intro field h
      cases field <;> exact absurd h (by decide)
  | prop h h' =>
    obtain ⟨inner, henter, id, place, type, fields, hsaid, rfl⟩ := Block.ofDraft_eq_ok.mp hblock
    exact Block.ofDraft_eq_ok.mpr ⟨inner, henter, id, place, type, fields, hsaid.rekey h h', rfl⟩
  | @default _ _ _ _ field _ htype hfield hkey =>
    obtain ⟨inner, henter, id, place, type, fields, hsaid, rfl⟩ := Block.ofDraft_eq_ok.mp hblock
    obtain rfl := hsaid.hasType_iff.mp htype.insert
    -- the entry is the only one of its field, and says what the field is without it
    have hgiven := hsaid.given_fields field
    rw [if_pos hfield] at hgiven
    obtain ⟨content, hcontent, hget⟩ :=
      hgiven.exists_eq_ok _ (Json.mem_valuesOf (List.mem_append_right _ List.mem_cons_self) hkey)
    refine Block.ofDraft_eq_ok.mpr ⟨inner, henter, id, place, _, _, hsaid.leaveField hfield hkey, ?_⟩
    rw [toKind_set_none hfield (hget.trans (congrArg some (eq_leftOut_of_default hcontent)))]
  | place =>
    obtain ⟨inner, henter, id, place, type, fields, hsaid, rfl⟩ := Block.ofDraft_eq_ok.mp hblock
    -- null says that there is none
    obtain ⟨b, hb, rfl⟩ := hsaid.given_position.exists_eq_ok .null
      (Json.mem_valuesOf (p := (· == "position")) (List.mem_append_right _ List.mem_cons_self) rfl)
    obtain rfl : none = b := Except.ok.inj hb
    exact Block.ofDraft_eq_ok.mpr ⟨inner, henter, id, none, type, fields, hsaid.leavePosition, rfl⟩
  | child henter hbelow h ih =>
    obtain ⟨inner, henter', id, place, type, fields, hsaid, rfl⟩ := Block.ofDraft_eq_ok.mp hblock
    obtain rfl := Option.some.inj (henter.symm.trans henter')
    refine Block.ofDraft_eq_ok.mpr ⟨_, henter, id, place, type, fields, hsaid.replace ?_ ?_ ?_ ?_ ?_, rfl⟩
    · exact fun h => absurd h (by decide)
    · exact fun h => absurd h (by decide)
    · rintro _ ⟨j, hj⟩
      -- the children are taken in before they are read
      obtain ⟨below, hbelow', hitems⟩ := Draft.fits_list_iff.mp ⟨j, Json.orFault_eq_ok.mp hj⟩
      obtain rfl := Option.some.inj (hbelow.symm.trans hbelow')
      simp only [List.forall_mem_append, List.forall_mem_cons] at hitems
      obtain ⟨j', hj'⟩ := Draft.fits_list_iff.mpr ⟨_, hbelow, List.forall_mem_append.mpr
        ⟨hitems.1, List.forall_mem_cons.mpr ⟨h.fits hitems.2.1, hitems.2.2⟩⟩⟩
      exact ⟨j', Json.orFault_eq_ok.mpr hj'⟩
    · exact fun h => absurd h (by decide)
    · intro field hfield
      cases field with
      | children =>
        intro blocks hblocks
        obtain ⟨below, hbelow', hall⟩ := takeIn_list_eq_ok.mp hblocks
        obtain rfl := Option.some.inj (hbelow.symm.trans hbelow')
        exact takeIn_list_eq_ok.mpr
          ⟨_, hbelow, forall₂_replace (fun block hblock => ⟨h.fits hblock.1, ih hblock.2⟩) hall⟩
      | count | condition | value | device | prop => exact absurd hfield (by decide)

/-! ## Texts -/

/-- There is a text of a block in another spelling when there is one of the block. -/
theorem Respelled.exists_spells {depth : Nat} {draft draft' : Draft} (h : Respelled depth draft draft')
    (htext : ∃ text, Spells text draft) : ∃ text, Spells text draft' := by
  -- each rewriting keeps a text for every part; a new entry brings its own
  induction h with
  | entries hperm =>
    rw [Json.exists_spells_object_iff] at htext ⊢
    exact fun entry hentry => htext entry (hperm.mem_iff.mpr hentry)
  | places hperm =>
    simp only [Json.exists_spells_object_iff, List.forall_mem_append, List.forall_mem_cons] at htext ⊢
    exact ⟨htext.1, fun place hplace => htext.2.1 place (hperm.mem_iff.mpr hplace), htext.2.2⟩
  | extra _ _ _ _ hvalue =>
    simp only [Json.exists_spells_object_iff, List.forall_mem_append, List.forall_mem_cons] at htext ⊢
    exact ⟨htext.1, hvalue, htext.2⟩
  | type =>
    simp only [Json.exists_spells_object_iff, List.forall_mem_append, List.forall_mem_cons] at htext ⊢
    exact ⟨htext.1, ⟨_, Json.spells_encodeText _⟩, htext.2.2⟩
  | prop =>
    simp only [Json.exists_spells_object_iff, List.forall_mem_append, List.forall_mem_cons] at htext ⊢
    exact htext
  | default | place =>
    simp only [Json.exists_spells_object_iff, List.forall_mem_append, List.forall_mem_cons] at htext ⊢
    exact ⟨htext.1, htext.2.2⟩
  | child _ _ _ ih =>
    simp only [Json.exists_spells_object_iff, Json.exists_spells_list_iff, List.forall_mem_append,
      List.forall_mem_cons] at htext ⊢
    obtain ⟨hfront, ⟨hbefore, hdraft, hafter⟩, hback⟩ := htext
    exact ⟨hfront, ⟨hbefore, ih hdraft, hafter⟩, hback⟩

/-- A block that was read is whole. -/
theorem skip_eq_ok_of_ofDraft {depth : Nat} {draft : Draft} {block : Block} (h : ofDraft depth draft = .ok block) :
    draft.skip = .ok () := by
  obtain ⟨entries, rfl⟩ := exists_object_of_ofDraft h
  obtain ⟨inner, -, id, place, type, fields, hsaid, -⟩ := Block.ofDraft_eq_ok.mp h
  -- each value was read by its key: a text, a position, or something that was taken in
  refine Draft.skip_object_eq_ok.mpr fun (key, value) hentry => ?_
  by_cases hid : key = "id"
  · subst hid
    obtain ⟨s, hs, -⟩ := hsaid.given_id.exists_eq_ok value (Json.mem_valuesOf hentry (beq_self_eq_true _))
    cases value with
    | str => rfl
    | _ => cases hs
  · by_cases hposition : key = "position"
    · subst hposition
      obtain ⟨p, hp, -⟩ := hsaid.given_position.exists_eq_ok value (Json.mem_valuesOf hentry (beq_self_eq_true _))
      cases value with
      | null => rfl
      | list | map =>
        obtain ⟨q, hq, -⟩ := map_eq_ok.mp hp
        exact Position.skip_eq_ok_of_ofDraft hq
      | bool | num | str | unfit | broken => cases hp
    · -- the others were taken in
      have hother : key ∉ headKeys := by
        simp only [headKeys, List.mem_cons, List.not_mem_nil, or_false, not_or]
        exact ⟨hid, hposition⟩
      obtain ⟨j, hj⟩ := hsaid.taken_others _ hentry hother
      exact Draft.Fits.skip_eq_ok ⟨j, Json.orFault_eq_ok.mp hj⟩

end Block

end Signalbox
