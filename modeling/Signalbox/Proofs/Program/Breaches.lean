import Mathlib.Data.List.Count
import Mathlib.Data.List.Nodup
import Signalbox.Proofs.Block.Parent
import Signalbox.Proofs.Program.Rules

/-!
# How often a rule is broken

`Program.violations` finds the broken rules on one walk through the tree: it looks at the children of a block before it
goes into them, and it carries the ids seen so far from block to block. `Program.breaches` says how often a rule is
broken by counting blocks, pairs of a block and a child, and ids, wherever they stand. The walk comes apart into two
that know nothing of each other: one over the pairs of a block and a child, and one over the list of all ids.

Main results:

* `Block.count_checkChildren` / `Block.count_checkTopLevelFrom`: the walk through the tree comes apart into the two.
* `Block.count_duplicateId_checkIds`: an id is reported once for each time that it comes up again.
* `Program.count_violations_eq_breaches`: every rule is reported as often as it is broken.
-/

namespace Signalbox

namespace Block

/-- The pairs of a block and one of its children, anywhere in a list of blocks. -/
def nestingsIn (blocks : List Block) : List (Block × Block) :=
  (preorderIn blocks).flatMap fun parent => parent.children.map fun child => (parent, child)

/-- The nestings of a forest are the pairs of a block, wherever it stands, and one of its children. -/
theorem mem_nestingsIn {blocks : List Block} {outer inner : Block} :
    (outer, inner) ∈ nestingsIn blocks ↔ outer ∈ preorderIn blocks ∧ inner ∈ outer.children := by
  simp [nestingsIn]

theorem nestingsIn_cons (block : Block) (rest : List Block) :
    nestingsIn (block :: rest) =
      block.children.map (fun child => (block, child)) ++ nestingsIn block.children ++ nestingsIn rest := by
  rw [nestingsIn, preorderIn, preorder_eq_cons, List.cons_append, List.flatMap_cons, List.flatMap_append,
    List.append_assoc]
  rfl

/-- The rules that the blocks inside others break by standing there. -/
def checkNestings (blocks : List Block) : List Violation :=
  (nestingsIn blocks).flatMap fun nesting => checkNested nesting.1.id nesting.2

theorem checkNestings_cons (block : Block) (rest : List Block) :
    checkNestings (block :: rest) =
      block.children.flatMap (checkNested block.id) ++ checkNestings block.children ++ checkNestings rest := by
  rw [checkNestings, nestingsIn_cons, List.flatMap_append, List.flatMap_append, List.flatMap_map]
  rfl

theorem checkNestings_append (front back : List Block) :
    checkNestings (front ++ back) = checkNestings front ++ checkNestings back := by
  rw [checkNestings, nestingsIn, preorderIn_append, List.flatMap_append, List.flatMap_append]
  rfl

/-- The rules that a list of ids breaks after those seen before it, and the ids seen with it. -/
def checkIds (seen : List String) : List String → List Violation × List String
  | [] => ([], seen)
  | id :: rest =>
    let (here, seen) := checkId seen id
    let (later, seen) := checkIds seen rest
    (here ++ later, seen)

theorem checkIds_cons (seen : List String) (id : String) (rest : List String) :
    checkIds seen (id :: rest) =
      ((checkId seen id).1 ++ (checkIds (checkId seen id).2 rest).1, (checkIds (checkId seen id).2 rest).2) :=
  rfl

theorem checkIds_append (seen front back : List String) :
    checkIds seen (front ++ back) =
      ((checkIds seen front).1 ++ (checkIds (checkIds seen front).2 back).1,
        (checkIds (checkIds seen front).2 back).2) := by
  induction front generalizing seen with
  | nil => rfl
  | cons id front ih => rw [List.cons_append, checkIds_cons, checkIds_cons, ih, List.append_assoc]

/-! ## The walk through the tree -/

/-- The ids seen on the way are those of the list of all ids. -/
theorem checkChildren_snd (parent : String) (seen : List String) (blocks : List Block) :
    (checkChildren parent seen blocks).2 = (checkIds seen (idsIn blocks)).2 := by
  induction blocks using children_induction generalizing parent seen with
  | nil => rfl
  | cons block rest ihChildren ihRest =>
    rw [idsIn_cons, checkIds_cons, checkIds_append, ← ihChildren block.id, ← ihRest parent, checkChildren, check_eq]

/-- After a block, the ids seen are those of its whole tree. -/
theorem check_snd (seen : List String) (block : Block) :
    (check seen block).2 = (checkIds seen (block.id :: idsIn block.children)).2 := by
  rw [check_eq, checkChildren_snd, checkIds_cons]

/-- The walk through a block finds what its id breaks besides what the walk through its children finds. -/
theorem count_check_of_children {v : Violation} {seen : List String} {block : Block}
    (h : (checkChildren block.id (checkId seen block.id).2 block.children).1.count v =
      (block.children.flatMap (checkNested block.id)).count v + (checkNestings block.children).count v +
        (checkIds (checkId seen block.id).2 (idsIn block.children)).1.count v) :
    (check seen block).1.count v =
      (block.children.flatMap (checkNested block.id)).count v + (checkNestings block.children).count v +
        (checkIds seen (block.id :: idsIn block.children)).1.count v := by
  rw [check_eq, checkIds_cons, List.count_append, List.count_append, h]
  omega

/-- The walk through the children of a block finds what the places of these children break, what the places of all
blocks inside them break, and what the ids break. -/
theorem count_checkChildren (v : Violation) (parent : String) (seen : List String) (blocks : List Block) :
    (checkChildren parent seen blocks).1.count v =
      (blocks.flatMap (checkNested parent)).count v + (checkNestings blocks).count v +
        (checkIds seen (idsIn blocks)).1.count v := by
  induction blocks using children_induction generalizing parent seen with
  | nil => rfl
  | cons block rest ihChildren ihRest =>
    -- the ids that the rest is looked at with are those seen in the block and inside it
    have hblock := count_check_of_children (ihChildren block.id (checkId seen block.id).2)
    have hrest := ihRest parent (check seen block).2
    have hids : idsIn (block :: rest) = (block.id :: idsIn block.children) ++ idsIn rest := idsIn_cons block rest
    rw [hids, checkIds_append, checkNestings_cons, List.flatMap_cons, checkChildren, ← check_snd]
    simp only [List.count_append]
    omega

/-- What the places of the top-level blocks from an index on break. -/
def checkPlaces (index : Nat) (blocks : List Block) : List Violation :=
  (blocks.zipIdx index).flatMap fun (block, place) => checkTopLevel place block

theorem checkPlaces_append (index : Nat) (front back : List Block) :
    checkPlaces index (front ++ back) = checkPlaces index front ++ checkPlaces (index + front.length) back := by
  rw [checkPlaces, List.zipIdx_append, List.flatMap_append]
  rfl

/-- The walk through a program finds what the places of the top-level blocks break, what the places of all blocks
inside them break, and what the ids break. -/
theorem count_checkTopLevelFrom (v : Violation) (index : Nat) (seen : List String) (blocks : List Block) :
    (checkTopLevelFrom index seen blocks).count v =
      (checkPlaces index blocks).count v + (checkNestings blocks).count v +
        (checkIds seen (idsIn blocks)).1.count v := by
  induction blocks generalizing index seen with
  | nil => rfl
  | cons block rest ih =>
    -- the walk through the children of a block is known, so the induction is on the top level alone
    have hblock := count_check_of_children (count_checkChildren v block.id (checkId seen block.id).2 block.children)
    have hrest := ih (index + 1) (check seen block).2
    have hids : idsIn (block :: rest) = (block.id :: idsIn block.children) ++ idsIn rest := idsIn_cons block rest
    have hplaces : checkPlaces index (block :: rest) = checkTopLevel index block ++ checkPlaces (index + 1) rest := rfl
    rw [hids, checkIds_append, checkNestings_cons, hplaces, checkTopLevelFrom, ← check_snd]
    simp only [List.count_append]
    omega

/-! ## Counting what the places break -/

/-- Where every report is about one item, a rule is reported as often as there are items that break it. -/
theorem count_flatMap_eq_countP {α : Type} {report : α → List Violation} {v : Violation} {broken : α → Prop}
    [DecidablePred broken] (h : ∀ x, (report x).count v = if broken x then 1 else 0) (items : List α) :
    (items.flatMap report).count v = items.countP (fun x => broken x) := by
  induction items with
  | nil => rfl
  | cons x rest ih =>
    rw [List.flatMap_cons, List.count_append, h, ih, List.countP_cons, Nat.add_comm]
    simp only [decide_eq_true_eq]

/-- A statement at the top level is reported once, with its place. -/
theorem count_checkTopLevel (id : String) (type : BlockType) (index place : Nat) (block : Block) :
    (checkTopLevel place block).count (.statementAtTopLevel id type index) =
      if block.id = id ∧ block.type = type ∧ place = index ∧ ¬ (type = .once ∨ type = .forever ∨ type = .dummy) then 1
      else 0 := by
  unfold checkTopLevel
  simp only [BlockType.isTopLevel_iff, or_assoc]
  split_ifs with hallowed <;> simp [List.count_singleton] <;> grind

/-- A holder inside another block is reported once. -/
theorem count_nestedDummy_checkNested (id outer parent : String) (child : Block) :
    (checkNested parent child).count (.nestedDummy id outer) =
      if parent = outer ∧ child.id = id ∧ child.type = .dummy then 1 else 0 := by
  unfold checkNested
  split_ifs <;> simp [List.count_singleton] <;> grind

/-- A setup or main container inside another block is reported once. -/
theorem count_nestedTopLevel_checkNested (id outer parent : String) (type : BlockType) (child : Block) :
    (checkNested parent child).count (.nestedTopLevel id type outer) =
      if parent = outer ∧ child.id = id ∧ child.type = type ∧ (type = .once ∨ type = .forever) then 1 else 0 := by
  unfold checkNested
  simp only [BlockType.isTopLevel_iff]
  split_ifs with hdummy htop <;> simp [List.count_singleton] <;> grind

/-- The places of the top-level blocks break one rule only. -/
theorem not_mem_checkPlaces {v : Violation} (hv : ∀ id type index, v ≠ .statementAtTopLevel id type index)
    (index : Nat) (blocks : List Block) : v ∉ checkPlaces index blocks := by
  intro hmem
  obtain ⟨⟨block, place⟩, -, hreport⟩ := List.mem_flatMap.mp hmem
  simp only [checkTopLevel] at hreport
  split_ifs at hreport
  · exact List.not_mem_nil hreport
  · exact hv _ _ _ (List.mem_singleton.mp hreport)

/-- The places of blocks inside others break two rules only. -/
theorem not_mem_checkNestings {v : Violation} (hdummy : ∀ id parent, v ≠ .nestedDummy id parent)
    (htop : ∀ id type parent, v ≠ .nestedTopLevel id type parent) (blocks : List Block) :
    v ∉ checkNestings blocks := by
  intro hmem
  obtain ⟨nesting, -, hreport⟩ := List.mem_flatMap.mp hmem
  unfold checkNested at hreport
  split_ifs at hreport
  · exact hdummy _ _ (List.mem_singleton.mp hreport)
  · exact htop _ _ _ (List.mem_singleton.mp hreport)
  · exact List.not_mem_nil hreport

/-! ## Counting what the ids break -/

/-- Ids break two rules only. -/
theorem not_mem_checkIds {v : Violation} (hempty : v ≠ .emptyId) (hduplicate : ∀ id, v ≠ .duplicateId id)
    (seen ids : List String) : v ∉ (checkIds seen ids).1 := by
  induction ids generalizing seen with
  | nil => exact List.not_mem_nil
  | cons head rest ih =>
    intro hmem
    rw [checkIds_cons] at hmem
    rcases List.mem_append.mp hmem with hhead | hrest
    · unfold checkId at hhead
      split_ifs at hhead
      · exact hempty (List.mem_singleton.mp hhead)
      · exact hduplicate head (List.mem_singleton.mp hhead)
      · exact List.not_mem_nil hhead
    · exact ih _ hrest

/-- An empty id is reported as such. -/
theorem count_emptyId_checkId (seen : List String) (id : String) :
    (checkId seen id).1.count .emptyId = if id = "" then 1 else 0 := by
  unfold checkId
  split_ifs <;> simp_all

/-- An id that was seen is reported as a duplicate, unless it is empty. -/
theorem count_duplicateId_checkId (seen : List String) (id head : String) :
    (checkId seen head).1.count (.duplicateId id) = if head = id ∧ id ∈ seen ∧ id ≠ "" then 1 else 0 := by
  unfold checkId
  simp only [String.isEmpty_iff]
  split_ifs <;> simp [List.count_singleton] <;> grind

/-- An empty id is reported each time. -/
theorem count_emptyId_checkIds (seen ids : List String) :
    (checkIds seen ids).1.count .emptyId = ids.count "" := by
  induction ids generalizing seen with
  | nil => rfl
  | cons head rest ih =>
    rw [checkIds_cons, List.count_append, count_emptyId_checkId, ih, List.count_cons, Nat.add_comm]
    simp only [beq_iff_eq]

/-- An id is reported once for each time that it comes up after the first, or each time when it was seen before. -/
theorem count_duplicateId_checkIds {id : String} (hid : id ≠ "") (seen ids : List String) :
    (checkIds seen ids).1.count (.duplicateId id) = if id ∈ seen then ids.count id else ids.count id - 1 := by
  induction ids generalizing seen with
  | nil => simp [checkIds]
  | cons head rest ih =>
    have hseen := mem_checkId_snd seen head id
    rw [checkIds_cons, List.count_append, count_duplicateId_checkId, ih, List.count_cons]
    by_cases hhead : head = id
    · -- from here on the id has been seen
      have hmem : id ∈ (checkId seen head).2 := hseen.mpr (Or.inr ⟨by simp [hhead], hid⟩)
      rw [if_pos hmem]
      by_cases hbefore : id ∈ seen <;> simp [hhead, hbefore, hid, Nat.add_comm]
    · have hsame : id ∈ (checkId seen head).2 ↔ id ∈ seen := by
        rw [hseen, List.mem_singleton]
        exact or_iff_left fun h => hhead h.1.symm
      -- the first id is another one and counts for nothing
      simp [hhead, hsame]

/-- An empty id is not reported for coming up again. -/
theorem count_duplicateId_empty_checkIds (seen ids : List String) :
    (checkIds seen ids).1.count (.duplicateId "") = 0 := by
  induction ids generalizing seen with
  | nil => rfl
  | cons head rest ih =>
    rw [checkIds_cons, List.count_append, count_duplicateId_checkId, ih]
    simp

/-- What a list of ids breaks is told by how often each of them is in it. -/
theorem count_checkIds (ids : List String) (v : Violation) :
    (checkIds [] ids).1.count v =
      match v with
      | .emptyId => ids.count ""
      | .duplicateId id => if id = "" then 0 else ids.count id - 1
      | _ => 0 := by
  cases v with
  | emptyId => exact count_emptyId_checkIds [] ids
  | duplicateId id =>
    -- an empty id is reported as such, and never for coming up again
    by_cases hid : id = ""
    · rw [hid, count_duplicateId_empty_checkIds]
      simp
    · rw [count_duplicateId_checkIds hid, if_neg List.not_mem_nil]
      simp [hid]
  | _ =>
    -- the other rules are about places
    refine List.count_eq_zero_of_not_mem ?_
    refine not_mem_checkIds ?_ ?_ [] ids <;> simp

end Block

namespace Program

/-- How often a rule is broken. -/
def breaches (p : Program) : Violation → Nat
  | .statementAtTopLevel id type index =>
    p.blocks.zipIdx.countP fun (block, place) =>
      block.id = id ∧ block.type = type ∧ place = index ∧ ¬ (type = .once ∨ type = .forever ∨ type = .dummy)
  | .nestedDummy id parent =>
    (Block.nestingsIn p.blocks).countP fun (outer, inner) => outer.id = parent ∧ inner.id = id ∧ inner.type = .dummy
  | .nestedTopLevel id type parent =>
    (Block.nestingsIn p.blocks).countP fun (outer, inner) =>
      outer.id = parent ∧ inner.id = id ∧ inner.type = type ∧ (type = .once ∨ type = .forever)
  | .emptyId => p.ids.count ""
  | .duplicateId id => if id = "" then 0 else p.ids.count id - 1

/-- What is reported comes from the places of the top-level blocks, from the places of the blocks inside others, or from
the ids. -/
theorem count_violations (p : Program) (v : Violation) :
    p.violations.count v =
      (Block.checkPlaces 0 p.blocks).count v + (Block.checkNestings p.blocks).count v +
        (Block.checkIds [] p.ids).1.count v :=
  Block.count_checkTopLevelFrom v 0 [] p.blocks

/-- Every rule is reported as often as it is broken. -/
theorem count_violations_eq (p : Program) (v : Violation) : p.violations.count v = p.breaches v := by
  rw [count_violations, Block.count_checkIds]
  -- a rule is reported by one of the three parts only
  cases v with
  | statementAtTopLevel id type index =>
    have hnestings := Block.not_mem_checkNestings (v := .statementAtTopLevel id type index) nofun nofun p.blocks
    rw [List.count_eq_zero_of_not_mem hnestings]
    exact Block.count_flatMap_eq_countP (fun _ => Block.count_checkTopLevel id type index _ _) _
  | nestedDummy id parent =>
    have hplaces := Block.not_mem_checkPlaces (v := .nestedDummy id parent) nofun 0 p.blocks
    rw [List.count_eq_zero_of_not_mem hplaces, Nat.zero_add]
    exact Block.count_flatMap_eq_countP (fun _ => Block.count_nestedDummy_checkNested id parent _ _) _
  | nestedTopLevel id type parent =>
    have hplaces := Block.not_mem_checkPlaces (v := .nestedTopLevel id type parent) nofun 0 p.blocks
    rw [List.count_eq_zero_of_not_mem hplaces, Nat.zero_add]
    exact Block.count_flatMap_eq_countP (fun _ => Block.count_nestedTopLevel_checkNested id parent _ type _) _
  | emptyId =>
    have hplaces := Block.not_mem_checkPlaces (v := .emptyId) nofun 0 p.blocks
    have hnestings := Block.not_mem_checkNestings (v := .emptyId) nofun nofun p.blocks
    rw [List.count_eq_zero_of_not_mem hplaces, List.count_eq_zero_of_not_mem hnestings, Nat.zero_add, breaches]
  | duplicateId id =>
    have hplaces := Block.not_mem_checkPlaces (v := .duplicateId id) nofun 0 p.blocks
    have hnestings := Block.not_mem_checkNestings (v := .duplicateId id) nofun nofun p.blocks
    rw [List.count_eq_zero_of_not_mem hplaces, List.count_eq_zero_of_not_mem hnestings, Nat.zero_add, breaches]

/-- A program reports nothing exactly when no rule is broken. -/
theorem violations_eq_nil_iff_breaches (p : Program) : p.violations = [] ↔ ∀ v, p.breaches v = 0 := by
  rw [List.eq_nil_iff_forall_not_mem]
  refine forall_congr' fun v => ?_
  rw [← count_violations_eq, List.count_eq_zero]

/-- Where no id is empty and none is reported for coming up again, ids are distinct. -/
theorem nodup_of_breaches {p : Program} (hempty : "" ∉ p.ids) (h : ∀ id, p.breaches (.duplicateId id) = 0) :
    p.ids.Nodup := by
  rw [List.nodup_iff_count_le_one]
  intro id
  by_cases hid : id = ""
  · rw [hid, List.count_eq_zero_of_not_mem hempty]
    exact Nat.zero_le 1
  · have hbreaches := h id
    rw [breaches, if_neg hid] at hbreaches
    omega

/-- Every rule is reported as often as it is broken: a block of the top level that may not stand there once, with its
index; a dummy, once block or forever block inside another block once, with the id of its parent; an empty id once for
each block that has it; and an id of several blocks once for each of them but one. So nothing is reported exactly when
ids are distinct and not empty and every block stands where blocks of its type may stand. -/
theorem count_violations_eq_breaches (p : Program) :
    (∀ v, p.violations.count v = p.breaches v) ∧
      (p.violations = [] ↔ "" ∉ p.ids ∧ p.ids.Nodup ∧
        (∀ block ∈ p.blocks, block.type = .once ∨ block.type = .forever ∨ block.type = .dummy) ∧
        ∀ parent ∈ p.preorder, ∀ child ∈ parent.children,
          ¬ (child.type = .once ∨ child.type = .forever ∨ child.type = .dummy)) := by
  refine ⟨p.count_violations_eq, ?_⟩
  rw [violations_eq_nil_iff_breaches]
  constructor
  · intro h
    have hempty : "" ∉ p.ids := List.count_eq_zero.mp (h .emptyId)
    refine ⟨hempty, nodup_of_breaches hempty fun id => h (.duplicateId id), ?_, ?_⟩
    · intro block hblock
      -- a misplaced block would be counted with its index
      obtain ⟨index, hindex⟩ := List.getElem?_of_mem hblock
      have hplace := List.countP_eq_zero.mp (h (.statementAtTopLevel block.id block.type index)) (block, index)
        (List.mk_mem_zipIdx_iff_getElem?.mpr hindex)
      by_contra hmisplaced
      exact hplace (by simpa using hmisplaced)
    · intro parent hparent child hchild hmisplaced
      have hnesting := List.countP_eq_zero.mp (h (.nestedTopLevel child.id child.type parent.id)) (parent, child)
        (Block.mem_nestingsIn.mpr ⟨hparent, hchild⟩)
      rcases hmisplaced with honce | hforever | hdummy
      · simp [honce] at hnesting
      · simp [hforever] at hnesting
      · have hnesting := List.countP_eq_zero.mp (h (.nestedDummy child.id parent.id)) (parent, child)
          (Block.mem_nestingsIn.mpr ⟨hparent, hchild⟩)
        simp [hdummy] at hnesting
  · rintro ⟨hempty, hnodup, htop, hnested⟩ v
    -- nothing that is counted is there
    cases v with
    | statementAtTopLevel id type index =>
      refine List.countP_eq_zero.mpr ?_
      rintro ⟨block, place⟩ hmem
      have hallowed := htop block (List.mem_of_getElem? (List.mk_mem_zipIdx_iff_getElem?.mp hmem))
      grind
    | nestedDummy id parent =>
      refine List.countP_eq_zero.mpr ?_
      rintro ⟨outer, inner⟩ hmem
      obtain ⟨houter, hinner⟩ := Block.mem_nestingsIn.mp hmem
      have hallowed := hnested outer houter inner hinner
      grind
    | nestedTopLevel id type parent =>
      refine List.countP_eq_zero.mpr ?_
      rintro ⟨outer, inner⟩ hmem
      obtain ⟨houter, hinner⟩ := Block.mem_nestingsIn.mp hmem
      have hallowed := hnested outer houter inner hinner
      grind
    | emptyId => exact List.count_eq_zero.mpr hempty
    | duplicateId id =>
      have hcount := List.nodup_iff_count_le_one.mp hnodup id
      rw [breaches]
      split_ifs
      · rfl
      · omega

end Program

end Signalbox
