import Signalbox.Proofs.Program.Document

/-!
# Programs that are loaded again

A program need not come from a text: the editor puts programs together that no text describes. The text that
is saved for a program describes it exactly when the program is sound, that is, when its positions are finite,
its numbers are in range, and its blocks do not stand inside each other too far.

Main results:

* `Program.storable_iff`: the nodes of a program tell whether it is storable.
* `Program.read_write_iff`: which programs are loaded again as they were saved.
-/

namespace Signalbox

namespace Block

variable {blocks : List Block}

/-- Whether a list of blocks is storable does not depend on where it stands. -/
theorem storableIn_iff_nodesIn (nested : Bool) :
    StorableIn blocks ↔ ∀ node ∈ nodesIn nested blocks, node.Storable := by
  induction blocks with
  | nil => exact ⟨fun _ => nofun, fun _ => nofun⟩
  | cons block rest ih =>
    rw [storableIn_cons, nodesIn_cons, List.forall_mem_cons, List.forall_mem_append, ← ih]
    exact Iff.rfl

theorem levelsIn_append (front back : List Block) :
    levelsIn (front ++ back) = max (levelsIn front) (levelsIn back) := by
  induction front with
  | nil => rw [List.nil_append, levelsIn, Nat.zero_max]
  | cons block front ih => rw [List.cons_append, levelsIn, levelsIn, ih, max_assoc]

end Block

namespace Program

open Json (Draft)

/-- A program can be stored when each of its blocks can. -/
theorem storable_iff (p : Program) : Block.StorableIn p.blocks ↔ ∀ node ∈ p.nodes, node.Storable :=
  Block.storableIn_iff_nodesIn false

/-- The numbers of a storable program are read back, if its floats are. -/
theorem rereads_of_storable {p : Program} (h : Block.StorableIn p.blocks)
    (hfloats : ∀ x, .float x ∈ p.toJson.numbers →
      Json.read (Json.num (.float x)).compact = .ok (.num (.float x))) :
    ∀ n ∈ p.toJson.numbers, n.Rereads := by
  intro n hn
  cases n with
  | int n => exact Number.rereads_int (Block.inRange_of_mem_toItems h _ hn)
  | float x => exact Number.rereads_float (hfloats x hn)

/-- A program is loaded again from the text that is saved for it exactly when it is sound, if each float of
the text is read back as it is written. -/
theorem read_write_iff {p : Program}
    (hfloats : ∀ x, .float x ∈ p.toJson.numbers →
      Json.read (Json.num (.float x)).compact = .ok (.num (.float x))) :
    read p.write = .ok p ↔ Block.Sound (Json.depthLimit - 1) p.blocks := by
  refine ⟨sound_of_read, fun ⟨hstorable, hlevels⟩ => ?_⟩
  have hdraft : Draft.read p.write = (.list (Draft.ofItems (Block.toItems p.blocks)) none, none) :=
    Draft.read_pretty (rereads_of_storable hstorable hfloats)
  -- twice the levels is even, and the depth is odd
  have hdepth : 2 * Block.levelsIn p.blocks ≤ Json.depthLimit - 1 - 1 := by
    rw [Json.depthLimit] at hlevels ⊢
    omega
  have hblocks := Block.ofDrafts_toItems hstorable hdepth
  unfold read
  rw [hdraft]
  change (Block.ofDrafts (Json.depthLimit - 1) _ >>= fun blocks => _) = _
  rw [hblocks]
  rfl

end Program

end Signalbox
