import Mathlib.Data.List.Perm.Basic
import Signalbox.Proofs.Editor.Place
import Signalbox.Proofs.Program.Breaches

/-!
# Adding a block with others inside it

A kind can come with blocks, which join the program together with the new block and, where that may not stand at the top
level, with a new dummy around it. The new ids are made before anything joins: they are new to the program, and need not
be new to the blocks that come along. The id of the new block is drawn at random. The id of the dummy is the next of a
series, though, and a block that comes along can have this very id.

Main results:

* `Block.checkIds_insert`: an id among others that are distinct breaks a rule when it comes up again behind its place.
* `Program.violations_push_perm`: a block with well-placed blocks inside breaks rules by its ids only.
* `Diagram.violations_addBlock_eq`: an addition breaks no rule but one, which the id of the dummy breaks.
-/

namespace Signalbox

/-- A list of one item at most is in one order only. -/
theorem eq_of_perm_ite {α : Type} {c : Prop} [Decidable c] {list : List α} {x : α}
    (h : list.Perm (if c then [x] else [])) : list = if c then [x] else [] := by
  split_ifs at h ⊢
  · exact List.perm_singleton.mp h
  · exact List.perm_nil.mp h

/-- An item that is put among distinct ones comes up again exactly when it is behind its place, and no other does. -/
theorem count_insert_pred {α : Type} [DecidableEq α] {front rest : List α} {x : α} (hnodup : (front ++ rest).Nodup)
    (hfront : x ∉ front) (y : α) : (front ++ x :: rest).count y - 1 = if y = x ∧ x ∈ rest then 1 else 0 := by
  -- no other element occurs twice
  have hcount : front.count y + rest.count y ≤ 1 := by
    rw [← List.count_append]
    exact List.nodup_iff_count_le_one.mp hnodup y
  rw [List.count_append]
  by_cases hsame : y = x
  · subst hsame
    have hbefore : front.count y = 0 := List.count_eq_zero.mpr hfront
    rw [List.count_cons_self]
    by_cases hrest : y ∈ rest
    · have hbehind : 0 < rest.count y := List.count_pos_iff.mpr hrest
      simp only [hrest, and_self, if_true]
      omega
    · have hbehind : rest.count y = 0 := List.count_eq_zero.mpr hrest
      simp only [hrest, and_false, if_false]
      omega
  · rw [List.count_cons_of_ne (Ne.symm hsame), if_neg fun h => hsame h.1]
    omega

theorem Kind.id_toBlock (kind : Kind) (id : String) (position : Option Position) :
    (kind.toBlock id position).id = id := by
  cases kind <;> rfl

theorem Kind.type_toBlock (kind : Kind) (id : String) (position : Option Position) :
    (kind.toBlock id position).type = kind.type := by
  cases kind <;> rfl

theorem Kind.idsIn_toBlock (kind : Kind) (id : String) (position : Option Position) :
    Block.idsIn [kind.toBlock id position] = id :: Block.idsIn kind.children := by
  rw [Block.idsIn_cons, Block.idsIn, List.append_nil, Kind.id_toBlock, Kind.children_toBlock]

namespace Block

/-- Ids that are distinct and not empty break no rule. -/
theorem checkIds_eq_nil {ids : List String} (hempty : "" ∉ ids) (hnodup : ids.Nodup) : (checkIds [] ids).1 = [] := by
  rw [List.eq_nil_iff_forall_not_mem]
  intro v
  rw [← List.count_eq_zero, count_checkIds]
  cases v with
  | emptyId => exact List.count_eq_zero.mpr hempty
  | duplicateId id =>
    have hcount := List.nodup_iff_count_le_one.mp hnodup id
    simp only
    split_ifs
    · rfl
    · omega
  | _ => rfl

/-- One more id among such ids breaks a rule when it comes up again behind its place. -/
theorem checkIds_insert {front rest : List String} {id : String} (hempty : "" ∉ front ++ rest)
    (hnodup : (front ++ rest).Nodup) (hid : id ≠ "") (hfront : id ∉ front) :
    (checkIds [] (front ++ id :: rest)).1 = if id ∈ rest then [.duplicateId id] else [] := by
  rw [List.mem_append, not_or] at hempty
  have hcount : ∀ v, (checkIds [] (front ++ id :: rest)).1.count v =
      (if id ∈ rest then [Violation.duplicateId id] else []).count v := by
    intro v
    rw [count_checkIds]
    cases v with
    | emptyId =>
      have hnone : (front ++ id :: rest).count "" = 0 := by
        rw [List.count_eq_zero]
        simp [hempty, hid.symm]
      split_ifs <;> simp [hnone]
    | duplicateId other =>
      -- an id is reported once for each time that it comes up again
      have hagain := count_insert_pred hnodup hfront other
      by_cases hsame : other = id
      · subst hsame
        simp only [if_neg hid, hagain]
        split_ifs <;> simp_all
      · rw [if_neg fun h => hsame h.1] at hagain
        simp only [hagain]
        split_ifs <;> simp [Ne.symm hsame]
    | _ => split_ifs <;> simp
  exact eq_of_perm_ite (List.perm_iff_count.mpr hcount)

/-- Blocks inside a block that may stand there break no rule by their places. -/
theorem checkNestings_singleton_eq_nil {block : Block}
    (h : ∀ inner ∈ preorderIn block.children, ¬ (inner.type.isTopLevel ∨ inner.type = .dummy)) :
    checkNestings [block] = [] := by
  rw [checkNestings, List.flatMap_eq_nil_iff]
  rintro ⟨outer, inner⟩ hmem
  obtain ⟨houter, hinner⟩ := mem_nestingsIn.mp hmem
  -- the outer block is the given one or inside it, so the inner one is inside it
  have hinside : inner ∈ preorderIn block.children := by
    rw [preorderIn, preorderIn, List.append_nil, preorder_eq_cons, List.mem_cons] at houter
    rcases houter with rfl | houter
    · exact mem_preorderIn hinner
    · exact mem_preorderIn_of_mem_children houter hinner
  obtain ⟨htop, hdummy⟩ := not_or.mp (h inner hinside)
  rw [checkNested, if_neg hdummy, if_neg htop]

end Block

namespace Program

variable {p : Program}

theorem ids_push (p : Program) (top : Block) : (p.push top).ids = p.ids ++ top.id :: Block.idsIn top.children := by
  rw [ids, push, Block.idsIn_append, Block.idsIn_cons, Block.idsIn, List.append_nil]
  rfl

/-- A block that may stand at the top level, with blocks inside that may stand there, breaks rules by the ids only. -/
theorem violations_push_perm (hvalid : p.violations = []) (top : Block)
    (htop : top.type.isTopLevel ∨ top.type = .dummy)
    (hinside : ∀ inner ∈ Block.preorderIn top.children, ¬ (inner.type.isTopLevel ∨ inner.type = .dummy)) :
    (p.push top).violations.Perm (Block.checkIds [] (p.push top).ids).1 := by
  rw [List.perm_iff_count]
  intro v
  -- the program in front breaks no rule, so its blocks break none by their places
  have hbefore := p.count_violations v
  rw [hvalid, List.count_nil] at hbefore
  have hplaces : (Block.checkPlaces 0 (p.push top).blocks).count v = 0 := by
    rw [push, Block.checkPlaces_append, List.count_append]
    have hlast : Block.checkPlaces (0 + p.blocks.length) [top] = [] := by
      simp [Block.checkPlaces, Block.checkTopLevel, htop]
    rw [hlast, List.count_nil]
    omega
  have hnestings : (Block.checkNestings (p.push top).blocks).count v = 0 := by
    rw [push, Block.checkNestings_append, List.count_append, Block.checkNestings_singleton_eq_nil hinside,
      List.count_nil]
    omega
  have hafter := (p.push top).count_violations v
  omega

/-- A program takes the blocks of a kind: their ids are new to it, distinct and not empty, and all of them may stand
inside others. -/
structure Accepts (p : Program) (kind : Kind) : Prop where
  ne_dummy : kind.type ≠ .dummy
  newIds : Block.NewIds p.ids (Block.idsIn kind.children)
  inside : ∀ inner ∈ Block.preorderIn kind.children, ¬ (inner.type.isTopLevel ∨ inner.type = .dummy)

/-- With an id that was drawn for the new block, the ids of the blocks that come along stay distinct and not empty. -/
theorem Accepts.ids_append {kind : Kind} {drawn : Nat} (h : p.Accepts kind) (hvalid : p.Valid)
    (hdrawn : p.newId drawn ∉ Block.idsIn kind.children) :
    "" ∉ p.ids ++ p.newId drawn :: Block.idsIn kind.children ∧
      (p.ids ++ p.newId drawn :: Block.idsIn kind.children).Nodup := by
  have hne := p.newId_ne_empty drawn
  have hunused := p.newId_not_mem drawn
  constructor
  · simp [hvalid.ids_ne_empty, h.newIds.ne_empty, hne.symm]
  · -- an id of the program is neither the new one nor one of those that come along
    refine List.nodup_append'.mpr ⟨hvalid.ids_nodup, List.nodup_cons.mpr ⟨hdrawn, h.newIds.nodup⟩, ?_⟩
    intro id hold hnew
    rcases List.mem_cons.mp hnew with rfl | hnew
    · exact hunused hold
    · exact h.newIds.unseen id hnew hold

/-- A block of such a kind may stand inside a dummy, as the blocks inside it may. -/
theorem Accepts.inside_toBlock {kind : Kind} (h : p.Accepts kind) (htop : kind.type.isTopLevel = false) (id : String)
    (position : Option Position) :
    ∀ inner ∈ Block.preorderIn [kind.toBlock id position], ¬ (inner.type.isTopLevel ∨ inner.type = .dummy) := by
  intro inner hinner
  rw [Block.preorderIn, Block.preorderIn, List.append_nil, Block.preorder_eq_cons, List.mem_cons,
    Kind.children_toBlock] at hinner
  rcases hinner with rfl | hinner
  · rw [Kind.type_toBlock, htop]
    simpa using h.ne_dummy
  · exact h.inside inner hinner

end Program

namespace Diagram

/-- The id of the dummy that is made next. -/
def nextHolder (d : Diagram) : String :=
  dummyName (d.program.nextDummy d.dummyCount)

variable {d : Diagram} {drawn : Nat} {kind : Kind}

/-- A block that stands at the top level by itself breaks no rule with the blocks that come along. -/
theorem violations_addBlock_of_topLevel (hvalid : d.program.violations = []) (haccepts : d.program.Accepts kind)
    (hdrawn : d.program.newId drawn ∉ Block.idsIn kind.children) (htop : kind.type.isTopLevel = true) :
    (d.addBlock drawn kind).2.program.violations = [] := by
  obtain ⟨hempty, hnodup⟩ := haccepts.ids_append ((Program.violations_eq_nil_iff _).mp hvalid) hdrawn
  let new := kind.toBlock (d.program.newId drawn) (some d.spawnPosition)
  have htype : new.type.isTopLevel ∨ new.type = .dummy := Or.inl (by rw [Kind.type_toBlock, htop])
  have hinside : ∀ inner ∈ Block.preorderIn new.children, ¬ (inner.type.isTopLevel ∨ inner.type = .dummy) := by
    rw [Kind.children_toBlock]
    exact haccepts.inside
  have hperm := Program.violations_push_perm hvalid new htype hinside
  rw [addBlock, if_pos htop]
  rw [Program.ids_push, Kind.id_toBlock, Kind.children_toBlock, Block.checkIds_eq_nil hempty hnodup] at hperm
  exact List.perm_nil.mp hperm

/-- A block that is put into a new dummy breaks a rule when one that comes along has the id of the dummy. -/
theorem violations_addBlock_of_parked (hvalid : d.program.violations = []) (haccepts : d.program.Accepts kind)
    (hdrawn : d.program.newId drawn ∉ Block.idsIn kind.children) (htop : kind.type.isTopLevel = false) :
    (d.addBlock drawn kind).2.program.violations =
      if d.nextHolder ∈ Block.idsIn kind.children then [.duplicateId d.nextHolder] else [] := by
  obtain ⟨hempty, hnodup⟩ := haccepts.ids_append ((Program.violations_eq_nil_iff _).mp hvalid) hdrawn
  have hholder : d.nextHolder ∉ d.program.ids := d.program.dummyName_nextDummy_not_mem d.dummyCount
  have hnew : d.nextHolder ≠ d.program.newId drawn := (idOfNumber_ne_dummyName _ _).symm
  have hnonempty : d.nextHolder ≠ "" := dummyName_ne_empty _
  let holder : Block := .container d.nextHolder (some d.spawnPosition) .dummy
    [kind.toBlock (d.program.newId drawn) none]
  have hadd : (d.addBlock drawn kind).2.program = d.program.push holder := by
    rw [addBlock, if_neg (by simp [htop])]
    rfl
  have hperm := Program.violations_push_perm hvalid holder (Or.inr rfl) (haccepts.inside_toBlock htop _ none)
  rw [Program.ids_push, Block.children, Block.id, Kind.idsIn_toBlock,
    Block.checkIds_insert hempty hnodup hnonempty hholder] at hperm
  -- the new block has another id than the dummy, so only a block that comes along can have the same
  have hrest : d.nextHolder ∈ d.program.newId drawn :: Block.idsIn kind.children ↔
      d.nextHolder ∈ Block.idsIn kind.children := by
    simp [hnew]
  rw [hadd, eq_of_perm_ite hperm]
  simp only [hrest]

/-- A block is added to a program that breaks no rule. The ids of the blocks inside it are new to the program, and the
one that was drawn for it is new to these blocks. Then no rule is broken afterwards but in one case: the block is put
into a new dummy, and a block inside it has the id of this dummy already. -/
theorem violations_addBlock_eq (d : Diagram) (hvalid : d.program.violations = []) {drawn : Nat} {kind : Kind}
    (haccepts : d.program.Accepts kind) (hdrawn : d.program.newId drawn ∉ Block.idsIn kind.children) :
    (d.addBlock drawn kind).2.program.violations =
      if kind.type.isTopLevel = false ∧ d.nextHolder ∈ Block.idsIn kind.children then [.duplicateId d.nextHolder]
      else [] := by
  cases htop : kind.type.isTopLevel with
  | true =>
    rw [violations_addBlock_of_topLevel hvalid haccepts hdrawn htop]
    simp
  | false =>
    rw [violations_addBlock_of_parked hvalid haccepts hdrawn htop]
    simp

/-- A once block without children. -/
def bareOnce : Diagram :=
  ofProgram ⟨[.container "o" none .once []]⟩ defaultSpawnPosition

/-- A loop around a log that is named like the first dummy. -/
def loopAroundNamesake : Kind :=
  .container (.loop 2) [.statement "DUMMY_1" none (.log (.text "a"))]

/-- The dummy around the loop gets the id of the log inside it. -/
theorem violations_addBlock_eq_loopAroundNamesake :
    bareOnce.program.violations = [] ∧ bareOnce.program.Accepts loopAroundNamesake ∧
      bareOnce.program.newId 0 ∉ Block.idsIn loopAroundNamesake.children ∧
      (bareOnce.addBlock 0 loopAroundNamesake).2.program.violations = [.duplicateId "DUMMY_1"] := by
  have hvalid : bareOnce.program.violations = [] := by decide
  have haccepts : bareOnce.program.Accepts loopAroundNamesake := by
    refine ⟨by decide, Block.newIds_singleton (by decide) (by decide), ?_⟩
    intro inner hinner
    obtain rfl := List.mem_singleton.mp hinner
    decide
  have hdrawn : bareOnce.program.newId 0 ∉ Block.idsIn loopAroundNamesake.children := by
    intro hmem
    exact idOfNumber_ne_dummyName _ 1 (List.mem_singleton.mp hmem)
  have hholder : bareOnce.nextHolder = "DUMMY_1" := by decide
  refine ⟨hvalid, haccepts, hdrawn, ?_⟩
  rw [bareOnce.violations_addBlock_eq hvalid haccepts hdrawn, hholder, if_pos (by decide)]

end Diagram

end Signalbox
