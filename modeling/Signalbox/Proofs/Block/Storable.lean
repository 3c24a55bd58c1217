import Signalbox.Proofs.Block.Fields
import Signalbox.Proofs.Block.Node
import Signalbox.Proofs.Block.Position

/-!
# What is written for blocks

Blocks that come from a document have finite positions and numbers in range (`Block.StorableIn`). What is
written for them holds numbers in range only, and it is at most twice as high as containers stand inside each
other: one map for each block and one list for its children.

Main results:

* `Block.inRange_of_mem_toItems`: the numbers that are written.
* `Block.height_toJson_le`: the height of what is written.
-/

namespace Signalbox

/-- A scalar that is a text or a number in range. -/
def Scalar.Storable : Scalar → Prop
  | .number n => n.InRange
  | .text _ => True

/-- A block by itself whose position is finite and whose scalar is storable. -/
def Node.Storable (node : Node) : Prop :=
  (∀ p, node.position = some p → p.IsFinite) ∧
    ∀ own value, node.own = .statement own → own.scalar? = some value → value.Storable

namespace Block

/-- Blocks that are storable, with everything inside them. -/
def StorableIn (blocks : List Block) : Prop :=
  ∀ node ∈ nodesIn true blocks, node.Storable

theorem storableIn_nil : StorableIn [] := nofun

theorem storableIn_cons {block : Block} {rest : List Block} :
    StorableIn (block :: rest) ↔ (block.node true).Storable ∧ StorableIn block.children ∧ StorableIn rest := by
  simp only [StorableIn, nodesIn_cons, List.forall_mem_cons, List.forall_mem_append]

mutual

/-- The most blocks that stand inside each other, from a block on. -/
def levels : Block → Nat
  | .container _ _ _ children => 1 + levelsIn children
  | .statement .. => 1

/-- The most blocks that stand inside each other in a list. -/
def levelsIn : List Block → Nat
  | [] => 0
  | block :: rest => max block.levels (levelsIn rest)

end

theorem levels_eq (block : Block) : block.levels = 1 + levelsIn block.children := by
  cases block <;> rfl

/-! ## Entries -/

/-- The value of an entry of a block is a text, the position, a count, the scalar or the children. -/
theorem entry_cases {block : Block} {entry : String × Json} (h : entry ∈ block.entries) :
    (∃ s, entry.2 = .str s) ∨ (∃ p, block.position = some p ∧ entry.2 = p.toJson) ∨
    (∃ count : UInt32, entry.2 = .ofNat count.toNat) ∨
    (∃ own value, block.own = .statement own ∧ own.scalar? = some value ∧ entry.2 = value.toJson) ∨
    entry.2 = .list (toItems block.children) := by
  -- the head, the type, and the fields of the kind
  rcases List.mem_append.mp h with h | h
  · rcases List.mem_cons.mp h with rfl | h
    · exact .inl ⟨_, rfl⟩
    · cases hposition : block.position with
      | none =>
        rw [hposition] at h
        exact nomatch h
      | some p =>
        rw [hposition] at h
        obtain rfl := List.mem_singleton.mp h
        exact .inr (.inl ⟨p, rfl, rfl⟩)
  rcases List.mem_cons.mp h with rfl | h
  · exact .inl ⟨_, rfl⟩
  cases block with
  | container id position own children =>
    rcases List.mem_append.mp h with h | h
    · cases own with
      | once | forever | dummy => exact nomatch h
      | loop count =>
        obtain rfl := List.mem_singleton.mp h
        exact .inr (.inr (.inl ⟨count, rfl⟩))
      | branch condition =>
        obtain rfl := List.mem_singleton.mp h
        exact .inl ⟨condition, rfl⟩
    · obtain rfl := List.mem_singleton.mp h
      exact .inr (.inr (.inr (.inr rfl)))
  | statement id position own =>
    have hvalue : ∀ value, own.scalar? = some value → entry.2 = value.toJson →
        ∃ own' value, (statement id position own).own = .statement own' ∧ own'.scalar? = some value ∧
          entry.2 = value.toJson :=
      fun value hscalar hentry => ⟨own, value, rfl, hscalar, hentry⟩
    cases own with
    | wait condition =>
      obtain rfl := List.mem_singleton.mp h
      exact .inl ⟨condition, rfl⟩
    | sleep value | log value | alert value =>
      obtain rfl := List.mem_singleton.mp h
      exact .inr (.inr (.inr (.inl (hvalue value rfl rfl))))
    | deviceSet device prop value =>
      rcases List.mem_cons.mp h with rfl | h
      · exact .inl ⟨device, rfl⟩
      rcases List.mem_cons.mp h with rfl | h
      · exact .inl ⟨prop, rfl⟩
      · obtain rfl := List.mem_singleton.mp h
        exact .inr (.inr (.inr (.inl (hvalue value rfl rfl))))

/-! ## Numbers -/

/-- A count is in the range of numbers. -/
theorem inRange_ofNat (count : UInt32) : (Number.int count.toNat).InRange := by
  have hlargest : (Number.largestInt : Int) = 2 ^ 64 - 1 := rfl
  have hcount := count.toNat_lt
  constructor <;> omega

/-- The numbers of a finite position are in the range of numbers. -/
theorem inRange_of_mem_position {p : Position} (h : p.IsFinite) : ∀ n ∈ p.toJson.numbers, n.InRange := by
  rw [Position.toJson_eq h]
  intro n hn
  rcases List.mem_cons.mp hn with rfl | hn
  · exact h.1
  · rw [List.mem_singleton.mp hn]
    exact h.2

/-- So is the number of a storable scalar. -/
theorem inRange_of_mem_scalar {value : Scalar} (h : value.Storable) : ∀ n ∈ value.toJson.numbers, n.InRange := by
  intro n hn
  cases value with
  | number m =>
    rw [List.mem_singleton.mp hn]
    exact h
  | text s => exact nomatch hn

/-- So are all numbers of a block that is storable with its children. -/
theorem inRange_of_mem_entries {block : Block} (hnode : (block.node true).Storable)
    (hchildren : ∀ n ∈ Json.numbersOfItems (toItems block.children), n.InRange) :
    ∀ n ∈ Json.numbersOfEntries block.entries, n.InRange := by
  intro n hn
  obtain ⟨entry, hentry, hn⟩ := Json.mem_numbersOfEntries.mp hn
  rcases entry_cases hentry with ⟨s, hvalue⟩ | ⟨p, hposition, hvalue⟩ | ⟨count, hvalue⟩ |
    ⟨own, value, hown, hscalar, hvalue⟩ | hvalue <;> rw [hvalue] at hn
  · exact nomatch hn
  · exact inRange_of_mem_position (hnode.1 p hposition) n hn
  · rw [List.mem_singleton.mp hn]
    exact inRange_ofNat count
  · exact inRange_of_mem_scalar (hnode.2 own value hown hscalar) n hn
  · exact hchildren n hn

/-- The numbers that are written for storable blocks are in range. -/
theorem inRange_of_mem_toItems {blocks : List Block} (h : StorableIn blocks) :
    ∀ n ∈ Json.numbersOfItems (toItems blocks), n.InRange := by
  induction blocks using children_induction with
  | nil => exact nofun
  | cons block rest ihChildren ihRest =>
    obtain ⟨hnode, hchildren, hrest⟩ := storableIn_cons.mp h
    intro n hn
    rcases List.mem_append.mp hn with hn | hn
    · rw [toJson_eq_entries] at hn
      exact inRange_of_mem_entries hnode (ihChildren hchildren) n hn
    · exact ihRest hrest n hn

/-! ## Height -/

/-- A position is one level high. -/
theorem height_position_toJson (p : Position) : p.toJson.height = 1 := by
  have hfloat : ∀ x, (Json.ofFloat x).height = 0 := by
    intro x
    unfold Json.ofFloat
    split <;> rfl
  simp only [Position.toJson, Json.height, Json.heightOfEntries, hfloat, Nat.max_self]

theorem height_scalar_toJson (value : Scalar) : value.toJson.height = 0 := by
  cases value <;> rfl

/-- The children are the highest of the entries of a block. -/
theorem height_le_of_mem_blockEntries {block : Block} {entry : String × Json} (h : entry ∈ block.entries) :
    entry.2.height ≤ 1 + Json.heightOfItems (toItems block.children) := by
  rcases entry_cases h with
    ⟨s, hvalue⟩ | ⟨p, -, hvalue⟩ | ⟨count, hvalue⟩ | ⟨own, value, -, -, hvalue⟩ | hvalue <;>
    rw [hvalue]
  · exact Nat.zero_le _
  · rw [height_position_toJson]
    exact Nat.le_add_right 1 _
  · exact Nat.zero_le _
  · rw [height_scalar_toJson]
    exact Nat.zero_le _
  · exact le_rfl

/-- What is written for blocks is at most twice as high as blocks stand inside each other. -/
theorem height_toItems_le (blocks : List Block) :
    Json.heightOfItems (toItems blocks) ≤ 2 * levelsIn blocks := by
  induction blocks using children_induction with
  | nil => exact Nat.zero_le _
  | cons block rest ihChildren ihRest =>
    -- one map for the block, one list for what is inside it
    have hentries : Json.heightOfEntries block.entries ≤ 1 + 2 * levelsIn block.children :=
      Json.heightOfEntries_le_iff.mpr fun entry hentry =>
        (height_le_of_mem_blockEntries hentry).trans (Nat.add_le_add_left ihChildren 1)
    rw [toItems, toJson_eq_entries, Json.heightOfItems, Json.height, levelsIn, levels_eq]
    omega

/-- Each level of blocks takes two of the document. -/
theorem height_toJson_le (block : Block) : block.toJson.height ≤ 2 * block.levels := by
  have hitems := height_toItems_le [block]
  simpa [toItems, Json.heightOfItems, levelsIn] using hitems

end Block

end Signalbox
