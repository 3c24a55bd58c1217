import Mathlib
import Signalbox.Program.Document
import Signalbox.Proofs.Block.Document
import Signalbox.Proofs.Json.Pretty

/-!
# Saving and loading

A program that was loaded from any text is saved as a text from which the same program is loaded. Of the
numbers that the text holds, the floats are taken to be read back as they are written; the whole numbers are.

Main results:

* `Program.sound_of_read`: a program that was loaded.
* `Program.read_write_of_read`: loading what was saved.
-/

namespace Signalbox.Program

open Json (Draft)

/-- The blocks of a program that was loaded are storable and fit into the depth of a document. -/
theorem sound_of_read {text : String} {p : Program} (h : read text = .ok p) :
    Block.Sound (Json.depthLimit - 1) p.blocks := by
  have hnumbers := Draft.inRange_of_mem_read text
  unfold read at h
  split at h
  next items stop trailing hread =>
    rw [hread] at hnumbers
    obtain ⟨blocks, hblocks, h⟩ := bind_eq_ok.mp h
    obtain ⟨-, -, h⟩ := bind_eq_ok.mp h
    obtain ⟨-, -, h⟩ := bind_eq_ok.mp h
    obtain rfl := Except.ok.inj h
    exact Block.sound_of_ofDrafts hblocks hnumbers
  · exact nomatch h

/-- A program that was loaded is loaded again from the text that is saved for it, and saved as the same text,
if each float of the text is read back as it is written. -/
theorem read_write_of_read {text : String} {p : Program} (h : read text = .ok p)
    (hfloats : ∀ x, .float x ∈ p.toJson.numbers →
      Json.read (Json.num (.float x)).compact = .ok (.num (.float x))) :
    read p.write = .ok p ∧ (read p.write).map write = (read text).map write := by
  obtain ⟨hstorable, hlevels⟩ := sound_of_read h
  -- whole numbers are read back since they are in range
  have hrereads : ∀ n ∈ p.toJson.numbers, n.Rereads := by
    intro n hn
    cases n with
    | int n => exact Number.rereads_int (Block.inRange_of_mem_toItems hstorable _ hn)
    | float x => exact Number.rereads_float (hfloats x hn)
  -- first the draft, then the blocks
  have hdraft : Draft.read p.write = (.list (Draft.ofItems (Block.toItems p.blocks)) none, none) :=
    Draft.read_pretty hrereads
  have hblocks : Block.ofDrafts (Json.depthLimit - 1) (Draft.ofItems (Block.toItems p.blocks)) = .ok p.blocks :=
    Block.ofDrafts_toItems hstorable (by rw [Json.depthLimit] at hlevels ⊢; omega)
  have hread : read p.write = .ok p := by
    unfold read
    rw [hdraft]
    change (Block.ofDrafts (Json.depthLimit - 1) _ >>= fun blocks => _) = _
    rw [hblocks]
    rfl
  exact ⟨hread, by rw [hread, h]⟩

/-! ## A text in another spelling -/

/-- A text with keys in another order, second names, the number of a type, a position as a list of whole
numbers, an escape for a character that needs none, and fields left out. -/
def legacyText : String :=
  "[\x7b\"position\":[3,-2],\"id\":\"\\u00e9\\n\",\"type\":2,\"children\":[\x7b\"property\":\"speed\"," ++
    "\"id\":\"b\",\"type\":\"loco-set\"\x7d]\x7d]"

/-- The program of that text. -/
def legacy : Program :=
  ⟨[.container "é\n" (some ⟨Float.ofInt 3, Float.ofInt (-2)⟩) (.loop 1)
    [.statement "b" none (.deviceSet "" "speed" (.text ""))]]⟩

/-- The draft of the older spelling, with its numbers for names and its position as a list. -/
theorem draft_read_legacyText :
    Draft.read legacyText = (.list [.map [(.ok "position", .list [.num (.int 3), .num (.int (-2))] none),
      (.ok "id", .str "é\n"), (.ok "type", .num (.int 2)), (.ok "children", .list [.map [
        (.ok "property", .str "speed"), (.ok "id", .str "b"), (.ok "type", .str "loco-set")] none] none)]
      none] none, none) := by
  cbv

/-- The number three is read back from its own text. -/
theorem rereads_three : (Number.float (Float.ofInt 3)).Rereads := by
  have htext : Json.encodeNumber (.float (Float.ofInt 3)) = ['3', '.', '0'] := by decide +kernel
  have hfloat : Number.floatOfParts? ⟨false, ['3'], some ['0'], none⟩ = some (Float.ofInt 3) := by decide +kernel
  exact ⟨⟨false, ['3'], some ['0'], none⟩, htext ▸ rfl, congrArg (Option.map Number.float) hfloat⟩

/-- The number minus two is read back from its own text. -/
theorem rereads_minus_two : (Number.float (Float.ofInt (-2))).Rereads := by
  have htext : Json.encodeNumber (.float (Float.ofInt (-2))) = ['-', '2', '.', '0'] := by decide +kernel
  have hfloat : Number.floatOfParts? ⟨true, ['2'], some ['0'], none⟩ = some (Float.ofInt (-2)) := by
    decide +kernel
  exact ⟨⟨true, ['2'], some ['0'], none⟩, htext ▸ rfl, congrArg (Option.map Number.float) hfloat⟩

/-- A program in the older spelling: what is written after the reading is read as the same program. -/
theorem read_write_of_read_legacyText :
    read legacyText = .ok legacy ∧
      (∀ x, .float x ∈ legacy.toJson.numbers → Json.read (Json.num (.float x)).compact = .ok (.num (.float x))) ∧
      read legacy.write = .ok legacy ∧ (read legacy.write).map write = (read legacyText).map write := by
  have hread : read legacyText = .ok legacy := by
    unfold read
    rw [draft_read_legacyText]
    rfl
  have hnumbers : legacy.toJson.numbers = [.float (Float.ofInt 3), .float (Float.ofInt (-2)), .int 1] := rfl
  -- the two coordinates are the only floats of the document
  have hfloats : ∀ x, .float x ∈ legacy.toJson.numbers →
      Json.read (Json.num (.float x)).compact = .ok (.num (.float x)) := by
    intro x hx
    rw [hnumbers] at hx
    refine Json.read_compact_num ?_
    rcases List.mem_cons.mp hx with h | hx
    · rw [h]
      exact rereads_three
    · rcases List.mem_cons.mp hx with h | hx
      · rw [h]
        exact rereads_minus_two
      · exact nomatch List.mem_singleton.mp hx
  exact ⟨hread, hfloats, read_write_of_read hread hfloats⟩

end Signalbox.Program
