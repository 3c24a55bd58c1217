import Signalbox.Block.Document.Position
import Signalbox.Proofs.Json.Height
import Signalbox.Proofs.Json.Numbers
import Signalbox.Proofs.Json.Spelled

/-!
# Positions, written and read

A position with finite coordinates is read back as it was, in a block that was taken in and in one that is read
where it stands. In the other direction the coordinates of a position that was read are finite when the
numbers of the document are in range.

Main results:

* `Position.ofJson_toJson` / `Position.ofDraft_toJson`: positions that are read back.
* `Position.isFinite_of_ofJson` / `Position.isFinite_of_ofDraft`: positions that were read.
* `Position.ofDraft_object_eq_ok`: what the entries of a position say, in any order.
* `Position.ofDraft_ofJson_eq_ok`: a position is the same whether it was taken in or is read where it stands.
-/

namespace Signalbox

open Json (Error Fault Draft)

namespace Position

/-- Both coordinates are finite. -/
def IsFinite (p : Position) : Prop :=
  p.x.isFinite = true ∧ p.y.isFinite = true

/-! ## Reading what was written -/

/-- A finite position is written as its two numbers. -/
theorem toJson_eq {p : Position} (h : p.IsFinite) :
    p.toJson = .map [("x", .num (.float p.x)), ("y", .num (.float p.y))] := by
  rw [toJson, Json.ofFloat, Json.ofFloat, if_pos h.1, if_pos h.2]

/-- A finite position is read from what is written for it. -/
theorem ofJson_toJson {p : Position} (h : p.IsFinite) : ofJson p.toJson = .ok p := by
  rw [toJson_eq h]
  rfl

/-- So it is from the draft of that, where two levels are left. -/
theorem ofDraft_toJson {p : Position} (h : p.IsFinite) {depth : Nat} (hdepth : 2 ≤ depth) :
    ofDraft depth (Draft.ofJson p.toJson) = .ok p := by
  obtain ⟨inner, rfl⟩ := Nat.exists_eq_add_of_le' hdepth
  rw [toJson_eq h]
  rfl

/-! ## What was read -/

section

variable {α : Type} {P : Float → Prop} {float : α → Except Error Float} {skip : α → Except Error Unit}

/-- The coordinates that were read come from one of the entries each. -/
theorem holds_of_readFields {x y x' y' : Option Float} {entries : List (Except Fault String × α)}
    (h : readFields float skip x y entries = .ok (x', y')) (hx : ∀ a, x = some a → P a)
    (hy : ∀ a, y = some a → P a) (hentries : ∀ entry ∈ entries, ∀ a, float entry.2 = .ok a → P a) :
    (∀ a, x' = some a → P a) ∧ ∀ a, y' = some a → P a := by
  induction entries generalizing x y with
  | nil =>
    obtain ⟨rfl, rfl⟩ := Prod.mk.inj (Except.ok.inj h)
    exact ⟨hx, hy⟩
  | cons entry rest ih =>
    obtain ⟨key, value⟩ := entry
    have hvalue := hentries (key, value) List.mem_cons_self
    have hrest := fun entry hentry => hentries entry (List.mem_cons_of_mem _ hentry)
    -- the first coordinate, the second one, or an entry that is passed over
    obtain ⟨name, -, h⟩ := bind_eq_ok.mp h
    split at h
    · obtain ⟨given, honce, h⟩ := bind_eq_ok.mp h
      obtain ⟨-, a, ha, rfl⟩ := Json.once_eq_ok.mp honce
      refine ih h (fun b hb => ?_) hy hrest
      obtain rfl := Option.some.inj hb
      exact hvalue a ha
    · obtain ⟨given, honce, h⟩ := bind_eq_ok.mp h
      obtain ⟨-, a, ha, rfl⟩ := Json.once_eq_ok.mp honce
      refine ih h hx (fun b hb => ?_) hrest
      obtain rfl := Option.some.inj hb
      exact hvalue a ha
    · obtain ⟨-, -, h⟩ := bind_eq_ok.mp h
      exact ih h hx hy hrest

/-- What holds of every number among the entries holds of the coordinates. -/
theorem holds_of_ofFields {entries : List (Except Fault String × α)} {fields : Option Float × Option Float}
    {p : Position} (hread : readFields float skip none none entries = .ok fields)
    (h : ofFields fields = .ok p) (hentries : ∀ entry ∈ entries, ∀ a, float entry.2 = .ok a → P a) :
    P p.x ∧ P p.y := by
  obtain ⟨hx, hy⟩ := holds_of_readFields hread nofun nofun hentries
  obtain ⟨x, hrequiredX, h⟩ := bind_eq_ok.mp h
  obtain ⟨y, hrequiredY, h⟩ := bind_eq_ok.mp h
  obtain rfl := Except.ok.inj h
  exact ⟨hx x (Json.required_eq_ok.mp hrequiredX), hy y (Json.required_eq_ok.mp hrequiredY)⟩

end

/-- A number that was read as a coordinate is finite. -/
theorem isFinite_of_float {j : Json} {x : Float} (h : j.float = .ok x) (hnumbers : ∀ n ∈ j.numbers, n.InRange) :
    x.isFinite = true := by
  cases j with
  | num n =>
    obtain rfl := Except.ok.inj h
    exact Number.isFinite_toFloat (hnumbers n (List.mem_singleton.mpr rfl))
  | _ => exact nomatch h

/-- So is one that was read from a draft. -/
theorem isFinite_of_draft_float {draft : Draft} {x : Float} (h : draft.float = .ok x)
    (hnumbers : ∀ n ∈ draft.numbers, n.InRange) : x.isFinite = true := by
  cases draft with
  | num n =>
    obtain rfl := Except.ok.inj h
    exact Number.isFinite_toFloat (hnumbers n (List.mem_singleton.mpr rfl))
  | _ => exact nomatch h

/-- A position that was read in a block that was taken in has finite coordinates. -/
theorem isFinite_of_ofJson {j : Json} {p : Position} (h : ofJson j = .ok p)
    (hnumbers : ∀ n ∈ j.numbers, n.InRange) : p.IsFinite := by
  match j with
  | .map entries =>
    obtain ⟨fields, hread, h⟩ := bind_eq_ok.mp h
    -- two named coordinates
    refine holds_of_ofFields (P := fun x => x.isFinite = true) hread h fun entry hentry a ha => ?_
    obtain ⟨original, horiginal, rfl⟩ := List.mem_map.mp hentry
    exact isFinite_of_float ha fun n hn => hnumbers n (Json.mem_numbersOfEntries.mpr ⟨original, horiginal, hn⟩)
  | .list [] => exact nomatch h
  | .list [x] =>
    obtain ⟨-, -, h⟩ := bind_eq_ok.mp h
    exact nomatch h
  | .list (x :: y :: rest) =>
    -- the first two items of a list
    obtain ⟨a, ha, h⟩ := bind_eq_ok.mp h
    obtain ⟨b, hb, h⟩ := bind_eq_ok.mp h
    split_ifs at h
    obtain rfl := Except.ok.inj h
    constructor
    · exact isFinite_of_float ha fun n hn => hnumbers n (List.mem_append_left _ hn)
    · exact isFinite_of_float hb fun n hn =>
        hnumbers n (List.mem_append_right _ (List.mem_append_left _ hn))
  | .null | .bool _ | .num _ | .str _ => exact nomatch h

/-- A position that was read from a list of two numbers is finite. -/
theorem isFinite_of_draft_items {items : List Draft} {stop : Option Json.Stop} {depth : Nat} {p : Position}
    (h : ofDraft depth (.list items stop) = .ok p) (hnumbers : ∀ n ∈ Draft.numbersOfItems items, n.InRange) :
    p.IsFinite := by
  unfold ofDraft at h
  dsimp only at h
  split at h
  · cases h
  · rcases items with _ | ⟨x, _ | ⟨y, rest⟩⟩
    · obtain ⟨-, -, h⟩ := bind_eq_ok.mp h
      cases h
    · obtain ⟨-, -, h⟩ := bind_eq_ok.mp h
      obtain ⟨-, -, h⟩ := bind_eq_ok.mp h
      cases h
    · obtain ⟨a, ha, h⟩ := bind_eq_ok.mp h
      obtain ⟨b, hb, h⟩ := bind_eq_ok.mp h
      -- two coordinates, each read from a number of the list
      have hfinite : a.isFinite = true ∧ b.isFinite = true :=
        ⟨isFinite_of_draft_float ha fun n hn => hnumbers n (List.mem_append_left _ hn),
          isFinite_of_draft_float hb fun n hn =>
            hnumbers n (List.mem_append_right _ (List.mem_append_left _ hn))⟩
      split_ifs at h
      · obtain ⟨-, -, h⟩ := bind_eq_ok.mp h
        obtain rfl := Except.ok.inj h
        exact hfinite
      · cases h

/-- A position that was read where it stands has finite coordinates. -/
theorem isFinite_of_ofDraft {depth : Nat} {draft : Draft} {p : Position} (h : ofDraft depth draft = .ok p)
    (hnumbers : ∀ n ∈ draft.numbers, n.InRange) : p.IsFinite := by
  cases draft with
  | map entries stop =>
    unfold ofDraft at h
    dsimp only at h
    split at h
    · cases h
    · obtain ⟨fields, hread, h⟩ := bind_eq_ok.mp h
      obtain ⟨-, -, h⟩ := bind_eq_ok.mp h
      refine holds_of_ofFields (P := fun x => x.isFinite = true) hread h fun entry hentry a ha => ?_
      exact isFinite_of_draft_float ha fun n hn => hnumbers n (Draft.mem_numbersOfEntries.mpr ⟨entry, hentry, hn⟩)
  | list items stop => exact isFinite_of_draft_items h hnumbers
  | null | bool _ | num _ | str _ | unfit _ | broken _ =>
    unfold ofDraft at h
    cases h

/-! ## Entries in any order -/

section

variable {α : Type} {float : α → Except Error Float} {skip : α → Except Error Unit} {x y x' y' : Option Float}

/-- The coordinates that entries say: each is given at most once, and the other entries are passed over. -/
theorem readFields_eq_ok {entries : List (String × α)} :
    readFields float skip x y (Json.fit entries) = .ok (x', y') ↔
      Json.Given float x (Json.valuesAt "x" entries) x' ∧ Json.Given float y (Json.valuesAt "y" entries) y' ∧
        ∀ entry ∈ entries, entry.1 ≠ "x" → entry.1 ≠ "y" → skip entry.2 = .ok () := by
  induction entries generalizing x y with
  | nil =>
    constructor
    · intro h
      obtain ⟨rfl, rfl⟩ := Prod.mk.inj (Except.ok.inj h)
      exact ⟨.absent _, .absent _, nofun⟩
    · rintro ⟨hx, hy, -⟩
      rw [Json.given_nil_iff.mp hx, Json.given_nil_iff.mp hy]
      rfl
  | cons entry rest ih =>
    obtain ⟨key, value⟩ := entry
    change readFields float skip x y ((.ok key, value) :: Json.fit rest) = .ok (x', y') ↔ _
    rw [List.forall_mem_cons]
    -- the key decides: one of the two coordinates, or an entry that is passed over
    by_cases hx : key = "x"
    · subst hx
      have hstep : readFields float skip x y ((.ok "x", value) :: Json.fit rest) =
          (Json.once "x" x (float value) >>= fun x => readFields float skip x y (Json.fit rest)) := rfl
      rw [hstep, bind_eq_ok, Json.valuesAt_cons_self, Json.valuesAt_cons_of_ne (by decide), ← Json.given_cons_iff "x"]
      constructor
      · rintro ⟨next, honce, hrest⟩
        obtain ⟨hnext, hy, hothers⟩ := ih.mp hrest
        exact ⟨⟨next, honce, hnext⟩, hy, fun h => absurd rfl h, hothers⟩
      · rintro ⟨⟨next, honce, hnext⟩, hy, -, hothers⟩
        exact ⟨next, honce, ih.mpr ⟨hnext, hy, hothers⟩⟩
    · by_cases hy : key = "y"
      · subst hy
        have hstep : readFields float skip x y ((.ok "y", value) :: Json.fit rest) =
            (Json.once "y" y (float value) >>= fun y => readFields float skip x y (Json.fit rest)) := rfl
        rw [hstep, bind_eq_ok, Json.valuesAt_cons_self, Json.valuesAt_cons_of_ne (by decide),
          ← Json.given_cons_iff "y"]
        constructor
        · rintro ⟨next, honce, hrest⟩
          obtain ⟨hgiven, hnext, hothers⟩ := ih.mp hrest
          exact ⟨hgiven, ⟨next, honce, hnext⟩, fun _ h => absurd rfl h, hothers⟩
        · rintro ⟨hgiven, ⟨next, honce, hnext⟩, -, hothers⟩
          exact ⟨next, honce, ih.mpr ⟨hgiven, hnext, hothers⟩⟩
      · have hstep : readFields float skip x y ((.ok key, value) :: Json.fit rest) =
            (skip value >>= fun _ => readFields float skip x y (Json.fit rest)) := by
          rw [readFields]
          change (Except.ok key >>= fun key => _) = _
          rw [ok_bind]
          split
          · exact absurd rfl hx
          · exact absurd rfl hy
          · rfl
        rw [hstep, bind_eq_ok, Json.valuesAt_cons_of_ne hx, Json.valuesAt_cons_of_ne hy]
        constructor
        · rintro ⟨_, hskip, hrest⟩
          obtain ⟨hxs, hys, hothers⟩ := ih.mp hrest
          exact ⟨hxs, hys, fun _ _ => hskip, hothers⟩
        · rintro ⟨hxs, hys, hskip, hothers⟩
          exact ⟨(), hskip hx hy, ih.mpr ⟨hxs, hys, hothers⟩⟩

/-- A position has both of its coordinates. -/
theorem ofFields_eq_ok {p : Position} : ofFields (x, y) = .ok p ↔ x = some p.x ∧ y = some p.y := by
  constructor
  · intro h
    obtain ⟨a, ha, h⟩ := bind_eq_ok.mp h
    obtain ⟨b, hb, h⟩ := bind_eq_ok.mp h
    obtain rfl := Except.ok.inj h
    exact ⟨Json.required_eq_ok.mp ha, Json.required_eq_ok.mp hb⟩
  · rintro ⟨rfl, rfl⟩
    rfl

end

/-- What the entries of a position say, where it stands. -/
theorem ofDraft_object_eq_ok {depth : Nat} {places : List (String × Draft)} {p : Position} :
    ofDraft depth (.object places) = .ok p ↔
      (∃ inner, Json.enter? depth = some inner) ∧ Json.Given Draft.float none (Json.valuesAt "x" places) (some p.x) ∧
        Json.Given Draft.float none (Json.valuesAt "y" places) (some p.y) ∧
        ∀ place ∈ places, place.1 ≠ "x" → place.1 ≠ "y" → place.2.skip = .ok () := by
  unfold Draft.object ofDraft
  dsimp only
  -- a map takes a level, and without one no position is read
  cases Json.enter? depth with
  | none => exact ⟨nofun, fun ⟨⟨_, h⟩, _⟩ => nomatch h⟩
  | some inner =>
    constructor
    · intro h
      obtain ⟨⟨x, y⟩, hread, h⟩ := bind_eq_ok.mp h
      obtain ⟨-, -, hfields⟩ := bind_eq_ok.mp h
      obtain ⟨rfl, rfl⟩ := ofFields_eq_ok.mp hfields
      obtain ⟨hx, hy, hothers⟩ := readFields_eq_ok.mp hread
      exact ⟨⟨inner, rfl⟩, hx, hy, fun place hplace hx hy => Json.orFault_eq_ok.mp (hothers place hplace hx hy)⟩
    · rintro ⟨-, hx, hy, hothers⟩
      refine bind_eq_ok.mpr ⟨(some p.x, some p.y), readFields_eq_ok.mpr ⟨hx, hy, fun place hplace hx hy => ?_⟩, rfl⟩
      exact Json.orFault_eq_ok.mpr (hothers place hplace hx hy)

/-- The keys of a position's entries can be read. -/
theorem exists_fit_of_readFields {α : Type} {float : α → Except Error Float} {skip : α → Except Error Unit}
    {entries : List (Except Fault String × α)} {x y : Option Float} {fields : Option Float × Option Float}
    (h : readFields float skip x y entries = .ok fields) : ∃ written, entries = Json.fit written := by
  induction entries generalizing x y with
  | nil => exact ⟨[], rfl⟩
  | cons entry rest ih =>
    obtain ⟨key, value⟩ := entry
    obtain ⟨name, hname, h⟩ := bind_eq_ok.mp h
    have hrest : ∃ written, rest = Json.fit written := by
      split at h <;> obtain ⟨_, _, h⟩ := bind_eq_ok.mp h <;> exact ih h
    obtain ⟨written, rfl⟩ := hrest
    rw [Json.orFault_eq_ok.mp hname]
    exact ⟨(name, value) :: written, rfl⟩

/-- A list has come to its end when nothing broke it off. -/
theorem listEnd_eq_ok {stop : Option Json.Stop} (h : listEnd stop = .ok ()) : stop = none := by
  unfold listEnd at h
  split at h
  · rfl
  all_goals cases h

/-- What is a number can be skipped as well. -/
theorem skip_eq_ok_of_float {draft : Draft} {x : Float} (h : draft.float = .ok x) : draft.skip = .ok () := by
  cases draft with
  | num => rfl
  | _ => cases h

/-- A position that was read is whole. -/
theorem skip_eq_ok_of_ofDraft {depth : Nat} {draft : Draft} {p : Position} (h : ofDraft depth draft = .ok p) :
    draft.skip = .ok () := by
  cases draft with
  | map entries stop =>
    -- a position was read, so the map is closed and its keys are fit
    have hobject : ∃ places, Draft.map entries stop = .object places := by
      unfold ofDraft at h
      dsimp only at h
      split at h
      · cases h
      · obtain ⟨fields, hread, h⟩ := bind_eq_ok.mp h
        obtain ⟨_, hstop, -⟩ := bind_eq_ok.mp h
        obtain ⟨places, rfl⟩ := exists_fit_of_readFields hread
        cases stop with
        | some => cases hstop
        | none => exact ⟨places, rfl⟩
    obtain ⟨places, hplaces⟩ := hobject
    rw [hplaces] at h ⊢
    obtain ⟨-, hx, hy, hothers⟩ := ofDraft_object_eq_ok.mp h
    refine Draft.skip_object_eq_ok.mpr fun place hplace => ?_
    have hcoordinate {key : String} {x : Float}
        (hgiven : Json.Given Draft.float none (Json.valuesAt key places) (some x)) (hkey : place.1 = key) :
        place.2.skip = .ok () := by
      obtain ⟨a, ha, -⟩ := hgiven.exists_eq_ok place.2 (Json.mem_valuesOf hplace (beq_iff_eq.mpr hkey))
      exact skip_eq_ok_of_float ha
    by_cases hkeyX : place.1 = "x"
    · exact hcoordinate hx hkeyX
    · by_cases hkeyY : place.1 = "y"
      · exact hcoordinate hy hkeyY
      · exact hothers place hplace hkeyX hkeyY
  | list items stop =>
    unfold ofDraft at h
    dsimp only at h
    split at h
    · cases h
    · -- only a list of two is a position
      rcases items with _ | ⟨x, _ | ⟨y, _ | ⟨z, rest⟩⟩⟩
      · obtain ⟨-, -, h⟩ := bind_eq_ok.mp h
        cases h
      · obtain ⟨-, -, h⟩ := bind_eq_ok.mp h
        obtain ⟨-, -, h⟩ := bind_eq_ok.mp h
        cases h
      · obtain ⟨a, ha, h⟩ := bind_eq_ok.mp h
        obtain ⟨b, hb, h⟩ := bind_eq_ok.mp h
        obtain ⟨_, hstop, -⟩ := bind_eq_ok.mp h
        refine Draft.skip_list_eq_ok.mpr ⟨Draft.skipItems_eq_ok.mpr ?_, listEnd_eq_ok (Json.orFault_eq_ok.mp hstop)⟩
        exact List.forall_mem_cons.mpr ⟨skip_eq_ok_of_float ha, List.forall_mem_singleton.mpr (skip_eq_ok_of_float hb)⟩
      · obtain ⟨_, _, h⟩ := bind_eq_ok.mp h
        obtain ⟨_, _, h⟩ := bind_eq_ok.mp h
        cases h
  | null | bool _ | num _ | str _ | unfit _ | broken _ =>
    unfold ofDraft at h
    cases h

/-- The entries of a position may stand in any order. -/
theorem ofDraft_of_perm {depth : Nat} {places places' : List (String × Draft)} {p : Position}
    (hperm : places.Perm places') (h : ofDraft depth (.object places) = .ok p) :
    ofDraft depth (.object places') = .ok p := by
  obtain ⟨henter, hx, hy, hothers⟩ := ofDraft_object_eq_ok.mp h
  exact ofDraft_object_eq_ok.mpr ⟨henter, hx.perm (hperm.filterMap _), hy.perm (hperm.filterMap _),
    fun place hplace => hothers place (hperm.mem_iff.mpr hplace)⟩

/-! ## Where it stands and taken in -/

/-- A number is read from the draft of a document as from the document. -/
theorem draft_float_ofJson (j : Json) (x : Float) : (Draft.ofJson j).float = .ok x ↔ j.float = .ok x := by
  cases j <;> exact Iff.rfl

/-- A position is the same whether it was taken in or is read where it stands, as long as it is low enough. -/
theorem ofDraft_ofJson_eq_ok {depth : Nat} {j : Json} {p : Position} (hheight : j.height ≤ depth - 1) :
    ofDraft depth (Draft.ofJson j) = .ok p ↔ ofJson j = .ok p := by
  match j with
  | .map entries =>
    obtain ⟨inner, henter, -⟩ := Json.enter?_of_le hheight
    -- a coordinate is read from the document as from its draft
    have hfloat (key : String) (x : Float) :
        Json.Given Draft.float none
            (Json.valuesAt key (entries.map fun entry => (entry.1, Draft.ofJson entry.2))) (some x) ↔
          Json.Given Json.float none (Json.valuesAt key entries) (some x) := by
      unfold Json.valuesAt
      rw [Json.valuesOf_map, Json.given_map_iff]
      exact ⟨fun h => h.congr fun j _ b => (draft_float_ofJson j b).mp,
        fun h => h.congr fun j _ b => (draft_float_ofJson j b).mpr⟩
    rw [← Draft.object_map_ofJson, ofDraft_object_eq_ok, hfloat, hfloat]
    constructor
    · rintro ⟨-, hx, hy, -⟩
      exact bind_eq_ok.mpr ⟨(some p.x, some p.y), readFields_eq_ok.mpr ⟨hx, hy, fun _ _ _ _ => rfl⟩, rfl⟩
    · intro h
      obtain ⟨⟨x, y⟩, hread, hfields⟩ := bind_eq_ok.mp h
      obtain ⟨rfl, rfl⟩ := ofFields_eq_ok.mp hfields
      obtain ⟨hx, hy, -⟩ := readFields_eq_ok.mp hread
      refine ⟨⟨inner, henter⟩, hx, hy, fun place hplace _ _ => ?_⟩
      obtain ⟨entry, -, rfl⟩ := List.mem_map.mp hplace
      exact Draft.skip_ofJson entry.2
  | .list items =>
    obtain ⟨inner, henter, -⟩ := Json.enter?_of_le hheight
    rw [Draft.ofJson]
    unfold ofDraft
    dsimp only
    rw [henter]
    rcases items with _ | ⟨x, _ | ⟨y, rest⟩⟩
    · exact ⟨nofun, nofun⟩
    · -- one coordinate is not enough
      constructor
      · intro h
        obtain ⟨_, _, h⟩ := bind_eq_ok.mp h
        cases h
      · intro h
        obtain ⟨_, _, h⟩ := bind_eq_ok.mp h
        cases h
    · constructor
      · intro h
        obtain ⟨a, ha, h⟩ := bind_eq_ok.mp h
        obtain ⟨b, hb, h⟩ := bind_eq_ok.mp h
        -- two coordinates, and no third one
        cases rest with
        | nil => exact bind_eq_ok.mpr ⟨a, (draft_float_ofJson x a).mp ha,
            bind_eq_ok.mpr ⟨b, (draft_float_ofJson y b).mp hb, h⟩⟩
        | cons => cases h
      · intro h
        obtain ⟨a, ha, h⟩ := bind_eq_ok.mp h
        obtain ⟨b, hb, h⟩ := bind_eq_ok.mp h
        cases rest with
        | nil => exact bind_eq_ok.mpr ⟨a, (draft_float_ofJson x a).mpr ha,
            bind_eq_ok.mpr ⟨b, (draft_float_ofJson y b).mpr hb, h⟩⟩
        | cons => cases h
  | .null | .bool _ | .num _ | .str _ => exact ⟨nofun, nofun⟩

end Position

end Signalbox
