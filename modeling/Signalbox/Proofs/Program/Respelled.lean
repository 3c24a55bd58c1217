import Mathlib
import Signalbox.Program.Document
import Signalbox.Proofs.Block.Respelled

/-!
# Programs in another spelling

The spelling of a program document does not matter. A text from which a program is loaded spells one document, and any
text of this document with its blocks in another spelling, as often as one likes, gives the same program.

Main results:

* `Program.read_eq_ok`: the texts from which a program is loaded.
* `Program.read_of_respelled`: a text in another spelling.
-/

namespace Signalbox

open Json (Draft Spells)

namespace Block

/-- Blocks are read from their items one by one. -/
theorem ofDrafts_eq_ok {depth : Nat} {items : List Draft} {blocks : List Block} :
    ofDrafts depth items = .ok blocks ↔
      List.Forall₂ (fun draft block => ofDraft depth draft = .ok block) items blocks := by
  induction items generalizing blocks with
  | nil =>
    constructor
    · intro h
      obtain rfl := Except.ok.inj h
      exact .nil
    · intro h
      cases h
      rfl
  | cons item rest ih =>
    rw [List.forall₂_cons_left_iff]
    constructor
    · intro h
      obtain ⟨block, hblock, h⟩ := bind_eq_ok.mp h
      obtain ⟨others, hothers, h⟩ := bind_eq_ok.mp h
      exact ⟨block, others, hblock, ih.mp hothers, (Except.ok.inj h).symm⟩
    · rintro ⟨block, others, hblock, hothers, rfl⟩
      exact bind_eq_ok.mpr ⟨block, hblock, bind_eq_ok.mpr ⟨others, ih.mpr hothers, rfl⟩⟩

end Block

namespace Program

/-- The draft says the program: it is a list with a draft of each block. -/
def SaidBy (p : Program) (draft : Draft) : Prop :=
  ∃ items, draft = .list items none ∧
    List.Forall₂ (fun item block => Block.ofDraft (Json.depthLimit - 1) item = .ok block) items p.blocks

/-- The second draft says the program of the first one with one of its blocks in another spelling. -/
inductive Respelled : Draft → Draft → Prop where
  | block {before after : List Draft} {draft draft' : Draft}
    (h : Block.Respelled (Json.depthLimit - 1) draft draft') :
    Respelled (.list (before ++ draft :: after) none) (.list (before ++ draft' :: after) none)

variable {text : String} {p : Program} {draft draft' : Draft}

/-! ## Texts of programs -/

/-- A program that is said is whole. -/
theorem SaidBy.skip_eq_ok (h : p.SaidBy draft) : draft.skip = .ok () := by
  obtain ⟨items, rfl, hblocks⟩ := h
  have hwhole := hblocks.imp fun item block hblock => And.intro (Block.skip_eq_ok_of_ofDraft hblock) hblock
  exact Draft.skip_list_eq_ok.mpr ⟨Draft.skipItems_eq_ok.mpr ((List.forall₂_and_left _ _).mp hwhole).1, rfl⟩

/-- The texts from which a program is loaded are those of the documents that say it. -/
theorem read_eq_ok : read text = .ok p ↔ ∃ draft, Spells text.toList draft ∧ p.SaidBy draft := by
  constructor
  · intro h
    unfold read at h
    split at h
    next items stop trailing hread =>
      obtain ⟨blocks, hblocks, h⟩ := bind_eq_ok.mp h
      obtain ⟨_, hstop, h⟩ := bind_eq_ok.mp h
      obtain ⟨_, htrailing, h⟩ := bind_eq_ok.mp h
      obtain rfl := Except.ok.inj h
      -- the list and the text are at their end
      cases stop with
      | some => cases hstop
      | none =>
        cases trailing with
        | some => cases htrailing
        | none =>
          have hsaid : SaidBy ⟨blocks⟩ (.list items none) := ⟨items, rfl, Block.ofDrafts_eq_ok.mp hblocks⟩
          exact ⟨_, Draft.spells_of_read hread hsaid.skip_eq_ok, hsaid⟩
    · cases h
  · rintro ⟨draft, hspells, items, rfl, hblocks⟩
    unfold read
    rw [Draft.read_of_spells hspells]
    exact bind_eq_ok.mpr ⟨p.blocks, Block.ofDrafts_eq_ok.mpr hblocks, rfl⟩

/-- A text spells one draft only. -/
theorem eq_of_spells {cs : List Char} (h : Spells cs draft) (h' : Spells cs draft') : draft = draft' := by
  have hcs : (String.ofList cs).toList = cs := String.toList_ofList
  rw [← hcs] at h h'
  exact (Prod.mk.inj ((Draft.read_of_spells h).symm.trans (Draft.read_of_spells h'))).1

/-! ## Other spellings -/

/-- A respelled draft says the same program. -/
theorem Respelled.saidBy (h : Respelled draft draft') (hsaid : p.SaidBy draft) : p.SaidBy draft' := by
  cases h with
  | block h =>
    obtain ⟨items, hitems, hblocks⟩ := hsaid
    obtain ⟨rfl, -⟩ := Draft.list.inj hitems
    exact ⟨_, rfl, Block.forall₂_replace (fun block hblock => h.ofDraft_eq_ok hblock) hblocks⟩

/-- A respelled draft has a text when the first one has. -/
theorem Respelled.exists_spells (h : Respelled draft draft') (htext : ∃ cs, Spells cs draft) :
    ∃ cs, Spells cs draft' := by
  cases h with
  | block h =>
    simp only [Json.exists_spells_list_iff, List.forall_mem_append, List.forall_mem_cons] at htext ⊢
    obtain ⟨hbefore, hdraft, hafter⟩ := htext
    exact ⟨hbefore, h.exists_spells hdraft, hafter⟩

/-- A text from which a program is loaded spells a document. With its blocks in other spellings the document has a text
again, and from each of its texts the same program is loaded. -/
theorem read_of_respelled (h : read text = .ok p) :
    (∃ draft, Spells text.toList draft) ∧
      ∀ draft draft', Spells text.toList draft → Relation.ReflTransGen Respelled draft draft' →
        (∃ text' : String, Spells text'.toList draft') ∧
          ∀ text' : String, Spells text'.toList draft' → read text' = .ok p := by
  obtain ⟨said, hsaidSpells, hsaid⟩ := read_eq_ok.mp h
  refine ⟨⟨said, hsaidSpells⟩, fun draft draft' hspells hsteps => ?_⟩
  -- a text spells one document only
  obtain rfl := eq_of_spells hsaidSpells hspells
  -- each step leaves a document of the program that has a text again
  have hlast : p.SaidBy draft' ∧ ∃ cs, Spells cs draft' := by
    induction hsteps with
    | refl => exact ⟨hsaid, _, hspells⟩
    | tail _ hstep ih => exact ⟨hstep.saidBy ih.1, hstep.exists_spells ih.2⟩
  obtain ⟨hsaid', cs, hcs⟩ := hlast
  refine ⟨⟨String.ofList cs, ?_⟩, fun text' hspells' => read_eq_ok.mpr ⟨draft', hspells', hsaid'⟩⟩
  rw [String.toList_ofList]
  exact hcs

/-- A text with a block inside a block. -/
def onceText : String :=
  "[\x7b\"id\":\"a\",\"type\":\"once\",\"children\":[\x7b\"position\":null,\"id\":\"b\",\"type\":\"loco-set\"," ++
    "\"property\":\"speed\"\x7d]\x7d]"

/-- The text with the inner block in another spelling. -/
def onceTextRespelled : String :=
  "[\x7b\"id\":\"a\",\"type\":\"once\",\"children\":[\x7b\"type\":\"device-set\",\"prop\":\"speed\"," ++
    "\"note\":[1], \"id\":\"b\"\x7d]\x7d]"

/-- The program of both texts. -/
def once : Program :=
  ⟨[.container "a" none .once [.statement "b" none (.deviceSet "" "speed" (.text ""))]]⟩

/-- The document of the texts, with the entries of the inner block. -/
def onceDraft (entries : List (String × Draft)) : Draft :=
  .list [.object [("id", .str "a"), ("type", .str "once"), ("children", .list [.object entries] none)]] none

/-- A block that is respelled in a setup container respells the program. -/
theorem respelled_onceDraft {entries entries' : List (String × Draft)}
    (h : Block.Respelled (Json.depthLimit - 3) (.object entries) (.object entries')) :
    Respelled (onceDraft entries) (onceDraft entries') :=
  @Respelled.block [] [] _ _
    (@Block.Respelled.child _ _ _ [("id", .str "a"), ("type", .str "once")] [] [] [] _ _ rfl rfl h)

/-- A setup container with its fields in another order and one it does not know, read as before. -/
theorem read_of_respelled_once :
    read onceText = .ok once ∧ onceText ≠ onceTextRespelled ∧ read onceTextRespelled = .ok once := by
  have hdraft : Draft.read onceText = (onceDraft
      [("position", .null), ("id", .str "b"), ("type", .str "loco-set"), ("property", .str "speed")], none) := by
    cbv
  have hdraft' : Draft.read onceTextRespelled = (onceDraft
      [("type", .str "device-set"), ("prop", .str "speed"), ("note", .list [.num (.int 1)] none), ("id", .str "b")],
      none) := by
    cbv
  have hread : read onceText = .ok once := by
    unfold read
    rw [hdraft]
    rfl
  -- the position is left out, the type and a field get their other names, a note is added, and the entries are moved
  have hplace : Respelled
      (onceDraft [("position", .null), ("id", .str "b"), ("type", .str "loco-set"), ("property", .str "speed")])
      (onceDraft [("id", .str "b"), ("type", .str "loco-set"), ("property", .str "speed")]) :=
    respelled_onceDraft (@Block.Respelled.place _ [] _)
  have htype : Respelled (onceDraft [("id", .str "b"), ("type", .str "loco-set"), ("property", .str "speed")])
      (onceDraft [("id", .str "b"), ("type", .str "device-set"), ("property", .str "speed")]) :=
    respelled_onceDraft (@Block.Respelled.type _ [("id", .str "b")] _ _ _ (by decide) (by decide))
  have hprop : Respelled (onceDraft [("id", .str "b"), ("type", .str "device-set"), ("property", .str "speed")])
      (onceDraft [("id", .str "b"), ("type", .str "device-set"), ("prop", .str "speed")]) :=
    respelled_onceDraft
      (@Block.Respelled.prop _ [("id", .str "b"), ("type", .str "device-set")] [] _ _ _ (by decide) (by decide))
  have hextra : Respelled (onceDraft [("id", .str "b"), ("type", .str "device-set"), ("prop", .str "speed")])
      (onceDraft [("note", .list [.num (.int 1)] none), ("id", .str "b"), ("type", .str "device-set"),
        ("prop", .str "speed")]) := by
    have hparts : Json.readParts ['1'] = .ok (⟨false, ['1'], none, none⟩, []) := rfl
    have hnote : ∃ text, Spells text (.list [.num (.int 1)] none) :=
      Json.exists_spells_list_iff.mpr (List.forall_mem_singleton.mpr ⟨['1'], .ofToken (.number hparts rfl)⟩)
    exact respelled_onceDraft (@Block.Respelled.extra _ _ [] _ .deviceSet _ _
      ⟨.str "device-set", List.mem_cons_of_mem _ List.mem_cons_self, rfl⟩ (by decide) rfl ⟨.list [.num (.int 1)], rfl⟩
      hnote)
  have hentries : Respelled
      (onceDraft [("note", .list [.num (.int 1)] none), ("id", .str "b"), ("type", .str "device-set"),
        ("prop", .str "speed")])
      (onceDraft [("type", .str "device-set"), ("prop", .str "speed"), ("note", .list [.num (.int 1)] none),
        ("id", .str "b")]) :=
    respelled_onceDraft (.entries (@List.perm_append_comm _ [_, _] [_, _]))
  have hsteps := ((((Relation.ReflTransGen.single hplace).tail htype).tail hprop).tail hextra).tail hentries
  obtain ⟨-, hrespelled⟩ := read_of_respelled hread
  obtain ⟨-, hall⟩ := hrespelled _ _ (Draft.spells_of_read hdraft rfl) hsteps
  exact ⟨hread, by decide, hall _ (Draft.spells_of_read hdraft' rfl)⟩

end Program

end Signalbox
