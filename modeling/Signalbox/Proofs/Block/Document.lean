import Signalbox.Proofs.Block.Storable

/-!
# Blocks, written and read

Storable blocks are read back as they were, both where they stand and when they were taken in. Where they stand
what is written for them must be lower than the depth. In the other direction blocks that were read from numbers
in range are storable, and twice the number of blocks inside each other is at most one more than the height that
was read: so whatever was read at an odd depth is written low enough for it.

Main results:

* `Block.ofItems_toItems` / `Block.ofDrafts_toItems`: blocks that are read back.
* `Block.sound_of_ofJson` / `Block.sound_of_ofDrafts`: blocks that were read.
-/

namespace Signalbox

open Json (Error Fault Draft)

namespace Block

/-! ## Heads -/

section

variable {α : Type} {text : α → Except Error String} {position : α → Except Error (Option Position)}
  {take : α → Except Error Json}

/-- An entry with any other key is taken in and kept for the kind. -/
theorem readHead_cons_other {key : String} (hid : key ≠ "id") (hposition : key ≠ "position") (head : Head)
    (value : α) (rest : List (Except Fault String × α)) :
    readHead text position take head ((.ok key, value) :: rest) =
      (take value >>= fun value =>
        readHead text position take { head with others := (key, value) :: head.others } rest) := by
  rw [readHead]
  change (Except.ok key >>= fun key => _) = _
  rw [ok_bind]
  split
  · exact absurd rfl hid
  · exact absurd rfl hposition
  · rfl

/-- Entries that are not of the head are gathered. -/
theorem readHead_others {embed : Json → α} {entries : List (String × Json)} (head : Head)
    (hkeys : ∀ entry ∈ entries, entry.1 ∉ headKeys)
    (htake : ∀ entry ∈ entries, take (embed entry.2) = .ok entry.2) :
    readHead text position take head (entries.map fun entry => (.ok entry.1, embed entry.2)) =
      .ok { head with others := entries.reverse ++ head.others } := by
  induction entries generalizing head with
  | nil => rfl
  | cons entry rest ih =>
    have hkey : entry.1 ≠ "id" ∧ entry.1 ≠ "position" := by
      simpa [headKeys] using hkeys entry List.mem_cons_self
    rw [List.map_cons, readHead_cons_other hkey.1 hkey.2, htake entry List.mem_cons_self]
    refine (ih _ (fun entry hentry => hkeys entry (List.mem_cons_of_mem _ hentry))
      fun entry hentry => htake entry (List.mem_cons_of_mem _ hentry)).trans ?_
    rw [List.reverse_cons, List.append_assoc]
    rfl

/-- The head of the entries that are written for a block. -/
theorem readHead_written (embed : Json → α) {id : String} {place : Option Position}
    {entries : List (String × Json)} (hid : text (embed (.str id)) = .ok id)
    (hposition : ∀ p, place = some p → position (embed p.toJson) = .ok (some p))
    (hkeys : ∀ entry ∈ entries, entry.1 ∉ headKeys)
    (htake : ∀ entry ∈ entries, take (embed entry.2) = .ok entry.2) :
    readHead text position take {}
      ((headFields id place ++ entries).map fun entry => (.ok entry.1, embed entry.2)) =
        .ok ⟨some id, place.map some, entries.reverse⟩ := by
  cases place with
  | none =>
    change ((Json.once "id" none (text (embed (.str id)))) >>= fun id => _) = _
    rw [hid]
    refine (readHead_others _ hkeys htake).trans ?_
    rw [List.append_nil]
    rfl
  | some p =>
    change ((Json.once "id" none (text (embed (.str id)))) >>= fun id => _) = _
    rw [hid]
    change ((Json.once "position" none (position (embed p.toJson))) >>= fun place => _) = _
    rw [hposition p rfl]
    refine (readHead_others _ hkeys htake).trans ?_
    rw [List.append_nil]
    rfl

end

/-! ## Reading what was written -/

theorem key_not_mem_headKeys (kind : Kind) : ∀ entry ∈ kind.entries, entry.1 ∉ headKeys := by
  rcases kind with ⟨own, children⟩ | own <;> cases own <;>
    simp [Kind.entries, Kind.fieldEntries, containerFields, statementFields, headKeys]

theorem key_mem_headKeys (id : String) (place : Option Position) :
    ∀ entry ∈ headFields id place, entry.1 ∈ headKeys := by
  cases place <;> simp [headFields, headKeys]

/-- A block is read from its id, its position and the entries that are written for its kind. -/
theorem ofHead_written (block : Block) (others : List (String × Json))
    (hchildren : ofItems (toItems block.children) = .ok block.children) :
    ofHead ⟨some block.id, block.position.map some, others⟩ (entriesOf block.kind.entries) = .ok block := by
  -- the kind is read from its entries, the children among them
  have hkind : readKind true (entriesOf block.kind.entries) = .ok block.kind := by
    refine readKind_entriesOf block.kind true fun own children hown => ?_
    cases block with
    | container id position own' children' =>
      obtain ⟨-, rfl⟩ := Kind.container.inj hown
      exact hchildren
    | statement id position own' => exact nomatch hown
  have hblock : block.kind.toBlock block.id block.position = block := by
    cases block <;> rfl
  have hposition : (block.position.map some).getD none = block.position := by
    cases block.position <;> rfl
  unfold ofHead
  rw [hkind]
  change Except.ok (block.kind.toBlock block.id ((block.position.map some).getD none)) = _
  rw [hposition, hblock]

/-- A finite position is read from what is written for it. -/
theorem positionOfJson_toJson {p : Position} (h : p.IsFinite) : positionOfJson p.toJson = .ok (some p) := by
  have hread : (Position.ofJson p.toJson).map some = .ok (some p) := by
    rw [Position.ofJson_toJson h]
    rfl
  rw [Position.toJson] at hread ⊢
  exact hread

/-- So it is from the draft of that, where two levels are left. -/
theorem positionOfDraft_toJson {p : Position} (h : p.IsFinite) {depth : Nat} (hdepth : 2 ≤ depth) :
    positionOfDraft depth (Draft.ofJson p.toJson) = .ok (some p) := by
  have hread : (Position.ofDraft depth (Draft.ofJson p.toJson)).map some = .ok (some p) := by
    rw [Position.ofDraft_toJson h hdepth]
    rfl
  rw [Position.toJson] at hread ⊢
  exact hread

/-- Without the keys of the head, what is written for a block is what is written for its kind. -/
theorem filter_entriesOf_entries (block : Block) :
    (entriesOf block.entries).filter (·.key ∉ headKeys) = entriesOf block.kind.entries := by
  have hhead : ((entriesOf (headFields block.id block.position)).filter (·.key ∉ headKeys)) = [] := by
    refine List.filter_eq_nil_iff.mpr fun entry hentry => ?_
    rw [entriesOf_eq_map] at hentry
    obtain ⟨written, hwritten, rfl⟩ := List.mem_map.mp hentry
    simpa using key_mem_headKeys block.id block.position written hwritten
  have hkind : ((entriesOf block.kind.entries).filter (·.key ∉ headKeys)) = entriesOf block.kind.entries := by
    refine List.filter_eq_self.mpr fun entry hentry => ?_
    rw [entriesOf_eq_map] at hentry
    obtain ⟨written, hwritten, rfl⟩ := List.mem_map.mp hentry
    exact decide_eq_true (key_not_mem_headKeys block.kind written hwritten)
  rw [entries, entriesOf_append, List.filter_append, hhead, hkind, List.nil_append]

/-- A block that was taken in is read back, when its children are. -/
theorem ofJson_toJson {block : Block} (hnode : (block.node true).Storable)
    (hchildren : ofItems (toItems block.children) = .ok block.children) : ofJson block.toJson = .ok block := by
  have hhead : readHead Json.text positionOfJson .ok {}
      (block.entries.map fun entry => (.ok entry.1, entry.2)) =
        .ok ⟨some block.id, block.position.map some, block.kind.entries.reverse⟩ :=
    readHead_written (fun value => value) rfl (fun p hp => positionOfJson_toJson (hnode.1 p hp))
      (key_not_mem_headKeys block.kind) fun _ _ => rfl
  have hentries : (entriesOf block.entries).filter (·.key ∉ headKeys) = entriesOf block.kind.entries :=
    filter_entriesOf_entries block
  rw [toJson_eq_entries, ofJson]
  change (readHead Json.text positionOfJson .ok {} (block.entries.map fun entry => (.ok entry.1, entry.2)) >>=
    fun head => ofHead head ((entriesOf block.entries).filter (·.key ∉ headKeys))) = _
  rw [hhead, hentries]
  exact ofHead_written block _ hchildren

/-- Storable blocks that were taken in are read back. -/
theorem ofItems_toItems {blocks : List Block} (h : StorableIn blocks) : ofItems (toItems blocks) = .ok blocks := by
  induction blocks using children_induction with
  | nil => rfl
  | cons block rest ihChildren ihRest =>
    obtain ⟨hnode, hchildren, hrest⟩ := storableIn_cons.mp h
    rw [toItems, ofItems, ofJson_toJson hnode (ihChildren hchildren), ihRest hrest]
    rfl

/-- A storable block that is read where it stands is read back, when it is low enough. -/
theorem ofDraft_toJson {depth : Nat} {block : Block} (hnode : (block.node true).Storable)
    (hchildren : StorableIn block.children) (hheight : block.toJson.height ≤ depth - 1) :
    ofDraft depth (Draft.ofJson block.toJson) = .ok block := by
  rw [toJson_eq_entries] at hheight ⊢
  obtain ⟨inner, henter, hinner⟩ := Json.enter?_of_le hheight
  -- every entry is low enough for the depth inside
  have hlow := Json.heightOfEntries_le_iff.mp hinner
  have hposition : ∀ p, block.position = some p →
      positionOfDraft inner (Draft.ofJson p.toJson) = .ok (some p) := by
    intro p hp
    have hmem : ("position", p.toJson) ∈ block.entries := by
      simp [entries, headFields, hp]
    have hone := hlow _ hmem
    rw [height_position_toJson] at hone
    exact positionOfDraft_toJson (hnode.1 p hp) (by omega)
  have htake : ∀ entry ∈ block.kind.entries,
      Json.orFault ((Draft.ofJson entry.2).buffer inner) = .ok entry.2 := fun entry hentry =>
    Json.orFault_eq_ok.mpr (Draft.buffer_ofJson entry.2 (hlow entry (List.mem_append_right _ hentry)))
  -- the head is read with the entries that wait for the kind
  have hhead : readHead Draft.text (positionOfDraft inner) (fun value => Json.orFault (value.buffer inner)) {}
      (Draft.ofEntries block.entries) =
        .ok ⟨some block.id, block.position.map some, block.kind.entries.reverse⟩ := by
    rw [Draft.ofEntries_eq_map]
    exact readHead_written Draft.ofJson rfl hposition (key_not_mem_headKeys block.kind) htake
  rw [Draft.ofJson]
  unfold ofDraft
  dsimp only
  rw [henter]
  dsimp only
  rw [hhead]
  change ofHead ⟨some block.id, block.position.map some, block.kind.entries.reverse⟩
    (entriesOf block.kind.entries.reverse.reverse) = _
  rw [List.reverse_reverse]
  exact ofHead_written block _ (ofItems_toItems hchildren)

/-- Storable blocks that are read where they stand are read back, when they are low enough. -/
theorem ofDrafts_toItems {depth : Nat} {blocks : List Block} (h : StorableIn blocks)
    (hlevels : 2 * levelsIn blocks ≤ depth - 1) : ofDrafts depth (Draft.ofItems (toItems blocks)) = .ok blocks := by
  induction blocks with
  | nil => rfl
  | cons block rest ih =>
    obtain ⟨hnode, hchildren, hrest⟩ := storableIn_cons.mp h
    rw [levelsIn] at hlevels
    have hheight := height_toJson_le block
    rw [toItems, Draft.ofItems, ofDrafts, ofDraft_toJson hnode hchildren (by omega), ih hrest (by omega)]
    rfl

/-! ## What was read -/

section

variable {α : Type} {text : α → Except Error String} {position : α → Except Error (Option Position)}
  {take : α → Except Error Json} {P : Position → Prop} {Q : Json → Prop}

/-- The position of a head that was read, and what was gathered with it, come from the entries. -/
theorem holds_of_readHead {head result : Head} {entries : List (Except Fault String × α)}
    (h : readHead text position take head entries = .ok result)
    (hhead : (∀ p, head.position = some (some p) → P p) ∧ ∀ other ∈ head.others, Q other.2)
    (hposition : ∀ entry ∈ entries, ∀ p, position entry.2 = .ok (some p) → P p)
    (htake : ∀ entry ∈ entries, ∀ j, take entry.2 = .ok j → Q j) :
    (∀ p, result.position = some (some p) → P p) ∧ ∀ other ∈ result.others, Q other.2 := by
  induction entries generalizing head with
  | nil =>
    obtain rfl := Except.ok.inj h
    exact hhead
  | cons entry rest ih =>
    obtain ⟨key, value⟩ := entry
    have hrestPosition := fun entry hentry => hposition entry (List.mem_cons_of_mem _ hentry)
    have hrestTake := fun entry hentry => htake entry (List.mem_cons_of_mem _ hentry)
    obtain ⟨name, -, h⟩ := bind_eq_ok.mp h
    -- the id, the position, or an entry that is taken in
    split at h
    · obtain ⟨id, -, h⟩ := bind_eq_ok.mp h
      exact ih h hhead hrestPosition hrestTake
    · obtain ⟨place, honce, h⟩ := bind_eq_ok.mp h
      obtain ⟨-, given, hgiven, rfl⟩ := Json.once_eq_ok.mp honce
      refine ih h ⟨fun p hp => ?_, hhead.2⟩ hrestPosition hrestTake
      obtain rfl := Option.some.inj hp
      exact hposition (key, value) List.mem_cons_self p hgiven
    · obtain ⟨j, hj, h⟩ := bind_eq_ok.mp h
      refine ih h ⟨hhead.1, fun other hother => ?_⟩ hrestPosition hrestTake
      rcases List.mem_cons.mp hother with rfl | hother
      · exact htake (key, value) List.mem_cons_self j hj
      · exact hhead.2 other hother

end

/-- Blocks that are storable and stand inside each other to a number. -/
def Sound (bound : Nat) (blocks : List Block) : Prop :=
  StorableIn blocks ∧ 2 * levelsIn blocks ≤ bound

theorem sound_nil (bound : Nat) : Sound bound [] :=
  ⟨storableIn_nil, Nat.zero_le _⟩

theorem sound_cons {bound : Nat} {block : Block} {rest : List Block} (hblock : Sound bound [block])
    (hrest : Sound bound rest) : Sound bound (block :: rest) := by
  obtain ⟨hnode, hchildren, -⟩ := storableIn_cons.mp hblock.1
  refine ⟨storableIn_cons.mpr ⟨hnode, hchildren, hrest.1⟩, ?_⟩
  have hlevels := hblock.2
  have hrestLevels := hrest.2
  simp only [levelsIn] at hlevels ⊢
  omega

theorem storable_defaultSleep : BlockType.defaultSleep.Storable :=
  ⟨by decide, by decide⟩

/-- A block is sound when its position is finite and what is inside it is sound. -/
theorem sound_of_ofHead {head : Head} {entries : List Entry} {block : Block} {bound : Nat}
    (h : ofHead head entries = .ok block) (hposition : ∀ p, head.position = some (some p) → p.IsFinite)
    (hentries : ∀ entry ∈ entries, entry.Holds (Sound bound) Scalar.Storable) : Sound (bound + 2) [block] := by
  obtain ⟨id, -, h⟩ := bind_eq_ok.mp h
  obtain ⟨kind, hkind, h⟩ := bind_eq_ok.mp h
  obtain rfl := Except.ok.inj h
  -- the position of the block is that of the head
  have hplace : ∀ p, head.position.getD none = some p → p.IsFinite := by
    intro p hp
    cases hgiven : head.position with
    | none =>
      rw [hgiven] at hp
      exact nomatch hp
    | some given =>
      rw [hgiven] at hp
      obtain rfl : given = some p := hp
      exact hposition p hgiven
  -- its kind has what the entries hold
  have hholds : kind.Holds (Sound bound) Scalar.Storable :=
    holds_of_readKind hkind (sound_nil bound) storable_defaultSleep trivial hentries
  cases kind with
  | container own children =>
    obtain ⟨hstorable, hlevels⟩ := (hholds : Sound bound children)
    refine ⟨storableIn_cons.mpr ⟨⟨hplace, nofun⟩, hstorable, storableIn_nil⟩, ?_⟩
    simp only [levelsIn, levels, Kind.toBlock]
    omega
  | statement own =>
    refine ⟨storableIn_cons.mpr ⟨⟨hplace, ?_⟩, storableIn_nil, storableIn_nil⟩, ?_⟩
    · intro own' value hown hscalar
      obtain rfl := OwnFields.statement.inj hown
      exact hholds value hscalar
    · simp only [levelsIn, levels, Kind.toBlock]
      omega

/-- A scalar that was read can be stored. -/
theorem storable_of_scalar_ofJson {j : Json} {value : Scalar} (h : Scalar.ofJson j = .ok value)
    (hnumbers : ∀ n ∈ j.numbers, n.InRange) : value.Storable := by
  cases j with
  | num n =>
    obtain rfl := Except.ok.inj h
    exact hnumbers n (List.mem_singleton.mpr rfl)
  | str s =>
    obtain rfl := Except.ok.inj h
    trivial
  | _ => exact nomatch h

/-- A position that was read is finite. -/
theorem isFinite_of_positionOfJson {j : Json} {p : Position} (h : positionOfJson j = .ok (some p))
    (hnumbers : ∀ n ∈ j.numbers, n.InRange) : p.IsFinite := by
  unfold positionOfJson at h
  split at h
  · exact nomatch h
  · obtain ⟨given, hgiven, hsome⟩ := map_eq_ok.mp h
    obtain rfl := Option.some.inj hsome
    exact Position.isFinite_of_ofJson hgiven hnumbers

mutual

/-- A block that was taken in is storable, and blocks stand inside each other at most half as far as it is
high. -/
theorem sound_of_ofJson : ∀ (j : Json) {block : Block}, ofJson j = .ok block →
    (∀ n ∈ j.numbers, n.InRange) → Sound (j.height + 1) [block]
  | .map entries, block, h, hnumbers => by
    rw [ofJson] at h
    obtain ⟨head, hhead, h⟩ := bind_eq_ok.mp h
    have hfinite := (holds_of_readHead (P := Position.IsFinite) (Q := fun _ => True) hhead
      ⟨nofun, nofun⟩ (fun entry hentry p hp => ?_) fun _ _ _ _ => trivial).1
    · -- the kind is read from the entries that are not of the head
      have hsound := sound_of_entriesOf entries hnumbers
      have hblock := sound_of_ofHead h hfinite fun entry hentry => hsound entry (List.mem_filter.mp hentry).1
      rw [Json.height]
      rw [Nat.add_comm 1, Nat.add_assoc]
      exact hblock
    · obtain ⟨written, hwritten, rfl⟩ := List.mem_map.mp hentry
      exact isFinite_of_positionOfJson hp fun n hn =>
        hnumbers n (Json.mem_numbersOfEntries.mpr ⟨written, hwritten, hn⟩)
  | .null, _, h, _ | .bool _, _, h, _ | .num _, _, h, _ | .str _, _, h, _ | .list _, _, h, _ => nomatch h

/-- Blocks that were read are sound, as far as the document is high. -/
theorem sound_of_listOfJson : ∀ (j : Json) {blocks : List Block}, listOfJson j = .ok blocks →
    (∀ n ∈ j.numbers, n.InRange) → Sound j.height blocks
  | .list items, blocks, h, hnumbers => by
    rw [Json.height, Nat.add_comm]
    exact sound_of_ofItems items h hnumbers
  | .null, _, h, _ | .bool _, _, h, _ | .num _, _, h, _ | .str _, _, h, _ | .map _, _, h, _ => nomatch h

/-- So are the blocks of a list of documents. -/
theorem sound_of_ofItems : ∀ (items : List Json) {blocks : List Block}, ofItems items = .ok blocks →
    (∀ n ∈ Json.numbersOfItems items, n.InRange) → Sound (Json.heightOfItems items + 1) blocks
  | [], _, h, _ => by
    obtain rfl := Except.ok.inj h
    exact sound_nil _
  | item :: items, _, h, hnumbers => by
    obtain ⟨block, hblock, h⟩ := bind_eq_ok.mp h
    obtain ⟨rest, hrest, h⟩ := bind_eq_ok.mp h
    obtain rfl := Except.ok.inj h
    have hfirst := sound_of_ofJson item hblock fun n hn => hnumbers n (List.mem_append_left _ hn)
    have hothers := sound_of_ofItems items hrest fun n hn => hnumbers n (List.mem_append_right _ hn)
    rw [Json.heightOfItems]
    exact sound_cons ⟨hfirst.1, hfirst.2.trans (by omega)⟩ ⟨hothers.1, hothers.2.trans (by omega)⟩

/-- The children and the scalars of entries that were read are sound. -/
theorem sound_of_entriesOf : ∀ (entries : List (String × Json)),
    (∀ n ∈ Json.numbersOfEntries entries, n.InRange) →
    ∀ entry ∈ entriesOf entries, entry.Holds (Sound (Json.heightOfEntries entries)) Scalar.Storable
  | [], _ => nofun
  | (key, value) :: entries, hnumbers => by
    intro entry hentry
    have hvalue : ∀ n ∈ value.numbers, n.InRange := fun n hn => hnumbers n (List.mem_append_left _ hn)
    rw [Json.heightOfEntries]
    rcases List.mem_cons.mp hentry with rfl | hentry
    · refine ⟨fun children hchildren => ?_, fun scalar hscalar => storable_of_scalar_ofJson hscalar hvalue⟩
      have hsound := sound_of_listOfJson value hchildren hvalue
      exact ⟨hsound.1, hsound.2.trans (Nat.le_max_left _ _)⟩
    · have hholds := sound_of_entriesOf entries (fun n hn => hnumbers n (List.mem_append_right _ hn)) entry hentry
      exact ⟨fun children hchildren => ⟨(hholds.1 children hchildren).1,
        (hholds.1 children hchildren).2.trans (Nat.le_max_right _ _)⟩, hholds.2⟩

end

/-- A position that was read from a draft is finite. -/
theorem isFinite_of_positionOfDraft {depth : Nat} {draft : Draft} {p : Position}
    (h : positionOfDraft depth draft = .ok (some p)) (hnumbers : ∀ n ∈ draft.numbers, n.InRange) :
    p.IsFinite := by
  unfold positionOfDraft at h
  split at h
  · exact nomatch h
  · obtain ⟨given, hgiven, hsome⟩ := map_eq_ok.mp h
    obtain rfl := Option.some.inj hsome
    exact Position.isFinite_of_ofDraft hgiven hnumbers

/-- A block that was read where it stands is storable, and blocks stand inside each other at most half as far
as the depth. -/
theorem sound_of_ofDraft {depth : Nat} {draft : Draft} {block : Block} (h : ofDraft depth draft = .ok block)
    (hnumbers : ∀ n ∈ draft.numbers, n.InRange) : Sound depth [block] := by
  unfold ofDraft at h
  split at h
  next entries stop =>
    split at h
    · cases h
    next inner henter =>
      obtain ⟨rfl, hinner⟩ := Json.enter?_eq_some henter
      obtain ⟨head, hhead, h⟩ := bind_eq_ok.mp h
      obtain ⟨-, -, h⟩ := bind_eq_ok.mp h
      have hvalue : ∀ entry ∈ entries, ∀ n ∈ entry.2.numbers, n.InRange := fun entry hentry n hn =>
        hnumbers n (Draft.mem_numbersOfEntries.mpr ⟨entry, hentry, hn⟩)
      -- what the head keeps for the kind is lower than the depth inside
      obtain ⟨hfinite, hothers⟩ := holds_of_readHead (P := Position.IsFinite)
        (Q := fun j => (∀ n ∈ j.numbers, n.InRange) ∧ j.height ≤ inner - 1) hhead ⟨nofun, nofun⟩
        (fun entry hentry p hp => isFinite_of_positionOfDraft hp (hvalue entry hentry))
        fun entry hentry j hj => by
          have hbuffer := Json.orFault_eq_ok.mp hj
          exact ⟨Draft.numbers_of_buffer hbuffer ▸ hvalue entry hentry, Draft.height_of_buffer hbuffer⟩
      have hheight : Json.heightOfEntries head.others.reverse ≤ inner - 1 :=
        Json.heightOfEntries_le_iff.mpr fun other hother => (hothers other (List.mem_reverse.mp hother)).2
      have hrange : ∀ n ∈ Json.numbersOfEntries head.others.reverse, n.InRange := by
        intro n hn
        obtain ⟨other, hother, hn⟩ := Json.mem_numbersOfEntries.mp hn
        exact (hothers other (List.mem_reverse.mp hother)).1 n hn
      have hsound := sound_of_ofHead h hfinite (sound_of_entriesOf head.others.reverse hrange)
      exact ⟨hsound.1, hsound.2.trans (by omega)⟩
  · cases h

/-- Blocks that were read where they stand are storable, and they stand inside each other at most half as far
as the depth. -/
theorem sound_of_ofDrafts {depth : Nat} {drafts : List Draft} {blocks : List Block}
    (h : ofDrafts depth drafts = .ok blocks) (hnumbers : ∀ n ∈ Draft.numbersOfItems drafts, n.InRange) :
    Sound depth blocks := by
  induction drafts generalizing blocks with
  | nil =>
    obtain rfl := Except.ok.inj h
    exact sound_nil depth
  | cons draft drafts ih =>
    obtain ⟨block, hblock, h⟩ := bind_eq_ok.mp h
    obtain ⟨rest, hrest, h⟩ := bind_eq_ok.mp h
    obtain rfl := Except.ok.inj h
    exact sound_cons (sound_of_ofDraft hblock fun n hn => hnumbers n (List.mem_append_left _ hn))
      (ih hrest fun n hn => hnumbers n (List.mem_append_right _ hn))

end Block

end Signalbox
