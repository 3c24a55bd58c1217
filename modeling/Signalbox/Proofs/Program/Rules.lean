import Signalbox.Program.Rules
import Signalbox.Proofs.Block.Node

/-!
# Programs that break no rule

`Program.violations` walks through the tree with the ids seen so far in its hands. `Program.Valid` says the
same of the program as a whole: no id is empty, no two blocks share one, and every block stands where blocks
of its type may stand.

Main result:

* `Program.violations_eq_nil_iff`: no rule is broken exactly when the program is valid.
-/

namespace Signalbox

/-- Once and forever blocks and dummies stand at the top level, and everything else inside another
block. -/
def Node.WellPlaced (n : Node) : Prop :=
  n.nested = false ↔ n.own.type.isTopLevel = true ∨ n.own.type = .dummy

/-- The program breaks no rule. -/
structure Program.Valid (p : Program) : Prop where
  ids_ne_empty : "" ∉ p.ids
  ids_nodup : p.ids.Nodup
  placed : ∀ n ∈ p.nodes, n.WellPlaced

namespace Block

/-! ## Ids seen on the way -/

/-- Ids that break no rule after those that were seen before. -/
structure NewIds (seen ids : List String) : Prop where
  ne_empty : "" ∉ ids
  nodup : ids.Nodup
  unseen : ∀ id ∈ ids, id ∉ seen

theorem newIds_nil (seen : List String) : NewIds seen [] :=
  ⟨List.not_mem_nil, List.nodup_nil, fun _ h => absurd h List.not_mem_nil⟩

theorem newIds_singleton {seen : List String} {id : String} (hempty : id ≠ "") (hseen : id ∉ seen) :
    NewIds seen [id] := by
  refine ⟨?_, List.nodup_singleton _, ?_⟩
  · rw [List.mem_singleton]
    exact fun h => hempty h.symm
  · rw [List.forall_mem_singleton]
    exact hseen

/-- Ids are looked at one after the other: `seen'` are those seen after the first ones. -/
theorem newIds_append {seen seen' front back : List String}
    (h : ∀ x, x ∈ seen' ↔ x ∈ seen ∨ x ∈ front ∧ x ≠ "") :
    NewIds seen (front ++ back) ↔ NewIds seen front ∧ NewIds seen' back := by
  constructor
  · rintro ⟨hempty, hnodup, hunseen⟩
    rw [List.mem_append, not_or] at hempty
    obtain ⟨hfront, hback, hdisjoint⟩ := List.nodup_append'.mp hnodup
    refine ⟨⟨hempty.1, hfront, fun x hx => hunseen x (List.mem_append_left _ hx)⟩,
      ⟨hempty.2, hback, fun x hx hseen => ?_⟩⟩
    -- an id that was seen is an old one or one of the first ones
    rcases (h x).mp hseen with hold | ⟨hnew, -⟩
    · exact hunseen x (List.mem_append_right _ hx) hold
    · exact hdisjoint hnew hx
  · rintro ⟨hfront, hback⟩
    refine ⟨?_, ?_, ?_⟩
    · rw [List.mem_append, not_or]
      exact ⟨hfront.ne_empty, hback.ne_empty⟩
    · refine List.nodup_append'.mpr ⟨hfront.nodup, hback.nodup, fun x hx hx' => ?_⟩
      have hne : x ≠ "" := fun he => hfront.ne_empty (he ▸ hx)
      exact hback.unseen x hx' ((h x).mpr (Or.inr ⟨hx, hne⟩))
    · intro x hx hseen
      rcases List.mem_append.mp hx with hx | hx
      · exact hfront.unseen x hx hseen
      · exact hback.unseen x hx ((h x).mpr (Or.inl hseen))

/-- After an id is checked it is seen, unless it is empty. -/
theorem mem_checkId_snd (seen : List String) (id x : String) :
    x ∈ (checkId seen id).2 ↔ x ∈ seen ∨ x ∈ [id] ∧ x ≠ "" := by
  unfold checkId
  -- an empty id, one that was seen, and a new one
  split_ifs with hempty hseen
  · have hid : id = "" := String.isEmpty_iff.mp hempty
    subst hid
    simp
  · constructor
    · exact Or.inl
    · rintro (h | ⟨h, -⟩)
      · exact h
      · rw [List.mem_singleton.mp h]
        exact hseen
  · have hid : id ≠ "" := fun he => hempty (String.isEmpty_iff.mpr he)
    rw [List.mem_cons, List.mem_singleton]
    constructor
    · rintro (rfl | h)
      · exact Or.inr ⟨rfl, hid⟩
      · exact Or.inl h
    · rintro (h | ⟨h, -⟩)
      · exact Or.inr h
      · exact Or.inl h

/-- An id passes when it is new. -/
theorem checkId_fst_eq_nil_iff (seen : List String) (id : String) :
    (checkId seen id).1 = [] ↔ NewIds seen [id] := by
  unfold checkId
  split_ifs with hempty hseen
  · refine ⟨fun h => absurd h (by simp), fun h => absurd (h.ne_empty) ?_⟩
    rw [String.isEmpty_iff.mp hempty]
    simp
  · exact ⟨fun h => absurd h (by simp), fun h => absurd hseen (h.unseen id List.mem_cons_self)⟩
  · refine ⟨fun _ => ⟨fun h => ?_, List.nodup_singleton id, fun x hx => ?_⟩, fun _ => rfl⟩
    · exact hempty (String.isEmpty_iff.mpr (List.mem_singleton.mp h).symm)
    · rw [List.mem_singleton.mp hx]
      exact hseen

/-- An id is checked before those that follow it. -/
theorem newIds_cons (seen : List String) (id : String) (ids : List String) :
    NewIds seen (id :: ids) ↔ NewIds seen [id] ∧ NewIds (checkId seen id).2 ids := by
  have hseen := mem_checkId_snd seen id
  rw [← newIds_append hseen, List.singleton_append]

/-! ## The walk through the tree -/

/-- A block is checked like its id and then its children; a statement has none. -/
theorem check_eq (seen : List String) (block : Block) :
    check seen block =
      ((checkId seen block.id).1 ++
          (checkChildren block.id (checkId seen block.id).2 block.children).1,
        (checkChildren block.id (checkId seen block.id).2 block.children).2) := by
  cases block with
  | container id position kind children => rw [check]; rfl
  | statement id position kind =>
    rw [check, children, checkChildren, List.append_nil]
    rfl

/-- After blocks are checked their ids are seen, except for empty ones. -/
theorem mem_checkChildren_snd (parent : String) (seen : List String) (blocks : List Block) (x : String) :
    x ∈ (checkChildren parent seen blocks).2 ↔ x ∈ seen ∨ x ∈ idsIn blocks ∧ x ≠ "" := by
  induction blocks using children_induction generalizing parent seen with
  | nil => simp [checkChildren, idsIn]
  | cons block rest ihChildren ihRest =>
    rw [checkChildren, check_eq]
    simp only [ihRest, ihChildren, mem_checkId_snd, idsIn_cons, List.mem_cons, List.mem_append,
      List.not_mem_nil]
    tauto

/-- After a block is checked the ids of its tree are seen, except for empty ones. -/
theorem mem_check_snd (seen : List String) (block : Block) (x : String) :
    x ∈ (check seen block).2 ↔ x ∈ seen ∨ x ∈ block.id :: idsIn block.children ∧ x ≠ "" := by
  rw [check_eq]
  simp only [mem_checkChildren_snd, mem_checkId_snd, List.mem_cons, List.not_mem_nil]
  tauto

/-- A nested block passes when it is of a type that may be nested. -/
theorem checkNested_eq_nil_iff (parent : String) (child : Block) :
    checkNested parent child = [] ↔ (child.node true).WellPlaced := by
  unfold checkNested Node.WellPlaced
  simp only [node, type_own]
  split_ifs with hdummy htop <;> simp_all

/-- A block at the top level passes when it is of a type that stands there. -/
theorem checkTopLevel_eq_nil_iff (index : Nat) (block : Block) :
    checkTopLevel index block = [] ↔ (block.node false).WellPlaced := by
  unfold checkTopLevel Node.WellPlaced
  simp only [node, type_own]
  split_ifs with h <;> simp_all

/-- No rule is broken in the children of a block. -/
theorem checkChildren_fst_eq_nil_iff (parent : String) (seen : List String) (blocks : List Block) :
    (checkChildren parent seen blocks).1 = [] ↔
      NewIds seen (idsIn blocks) ∧ ∀ n ∈ nodesIn true blocks, n.WellPlaced := by
  induction blocks using children_induction generalizing parent seen with
  | nil =>
    simp only [checkChildren, idsIn, nodesIn, true_iff]
    exact ⟨newIds_nil seen, fun _ h => absurd h List.not_mem_nil⟩
  | cons block rest ihChildren ihRest =>
    -- the ids of the block and of what is inside it come before those of the rest
    have hids : idsIn (block :: rest) = (block.id :: idsIn block.children) ++ idsIn rest :=
      idsIn_cons block rest
    rw [hids, newIds_append (mem_check_snd seen block), newIds_cons, checkChildren]
    simp only [List.append_eq_nil_iff, checkNested_eq_nil_iff, ihRest, check_eq,
      checkId_fst_eq_nil_iff, ihChildren, nodesIn_cons, List.forall_mem_cons, List.forall_mem_append]
    tauto

/-- No rule is broken in a block and inside it. -/
theorem check_fst_eq_nil_iff (seen : List String) (block : Block) :
    (check seen block).1 = [] ↔
      NewIds seen (block.id :: idsIn block.children) ∧ ∀ n ∈ nodesIn true block.children, n.WellPlaced := by
  rw [newIds_cons, check_eq, List.append_eq_nil_iff, checkId_fst_eq_nil_iff, checkChildren_fst_eq_nil_iff,
    and_assoc]

/-- Blocks pass when their ids are new and every block is where its type may be. -/
theorem checkTopLevelFrom_eq_nil_iff (index : Nat) (seen : List String) (blocks : List Block) :
    checkTopLevelFrom index seen blocks = [] ↔
      NewIds seen (idsIn blocks) ∧ ∀ n ∈ nodesIn false blocks, n.WellPlaced := by
  induction blocks generalizing index seen with
  | nil =>
    simp only [checkTopLevelFrom, idsIn, nodesIn, true_iff]
    exact ⟨newIds_nil seen, fun _ h => absurd h List.not_mem_nil⟩
  | cons block rest ih =>
    have hids : idsIn (block :: rest) = (block.id :: idsIn block.children) ++ idsIn rest :=
      idsIn_cons block rest
    rw [hids, newIds_append (mem_check_snd seen block), checkTopLevelFrom]
    simp only [List.append_eq_nil_iff, checkTopLevel_eq_nil_iff, check_fst_eq_nil_iff, ih, nodesIn_cons,
      List.forall_mem_cons, List.forall_mem_append]
    tauto

end Block

/-- No rule is broken exactly when the program is valid. -/
theorem Program.violations_eq_nil_iff (p : Program) : p.violations = [] ↔ p.Valid := by
  rw [Program.violations, Block.checkTopLevelFrom_eq_nil_iff]
  constructor
  · rintro ⟨hids, hplaced⟩
    exact ⟨hids.ne_empty, hids.nodup, hplaced⟩
  · rintro ⟨hempty, hnodup, hplaced⟩
    exact ⟨⟨hempty, hnodup, fun _ _ => List.not_mem_nil⟩, hplaced⟩

end Signalbox
