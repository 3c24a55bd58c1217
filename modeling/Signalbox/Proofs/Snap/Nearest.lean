import Mathlib.Data.List.Induction
import Signalbox.Proofs.Decimal.Order
import Signalbox.Snap.Basic

/-!
# The nearest anchor

An anchor is chosen by the distance of its height from the pointer. Anchors without a height are passed over, unless
there is only one anchor, and of those that are equally near the first is chosen. The choice walks through the list once
and keeps the best anchor so far, so what it keeps is said of the part of the list that it has seen. All this is for
distances that are numbers: nothing is nearer than one that is not.

Main results:

* `Resolved.foldl_nearer`: what the walk through a list keeps.
* `Resolved.IsNearest.eq_of_append_eq`: a list has one first nearest anchor.
* `Resolved.chooses_nearest`: the anchor that is chosen.
-/

namespace Signalbox.Resolved

/-- The distance of a height from the pointer. -/
def distance (pointerY y : Float) : Float :=
  (y - pointerY).abs

/-- The distances of all anchors that have a height are numbers. -/
def Measurable (pointerY : Float) (points : List Resolved) : Prop :=
  ∀ p ∈ points, ∀ y, p.y = some y → (distance pointerY y).isNaN = false

/-- An anchor between others is the first nearest one: it has a height, no anchor is nearer, and all in front of it are
farther. -/
structure IsNearest (pointerY : Float) (front : List Resolved) (chosen : Resolved) (back : List Resolved) (y : Float) :
    Prop where
  y_eq : chosen.y = some y
  not_nearer : ∀ p ∈ front ++ chosen :: back, ∀ z, p.y = some z → ¬ distance pointerY z < distance pointerY y
  farther : ∀ p ∈ front, ∀ z, p.y = some z → distance pointerY y < distance pointerY z

/-- Anchors without a height are put into a list, anywhere. -/
inductive Padded : List Resolved → List Resolved → Prop where
  | nil : Padded [] []
  | keep (p : Resolved) {points more : List Resolved} : Padded points more → Padded (p :: points) (p :: more)
  | insert (p : Resolved) {points more : List Resolved} : p.y = none → Padded points more → Padded points (p :: more)

variable {pointerY y : Float} {points more front back : List Resolved} {p chosen : Resolved}

/-! ## One step -/

theorem y_ne_none (h : p.y = some y) : p.y ≠ none := by
  rw [h]
  exact Option.some_ne_none y

theorem nearer_of_y_eq_none (best : Option (Nat × Float)) (index : Nat) (h : p.y = none) :
    nearer pointerY best (p, index) = best := by
  rw [nearer, h]

/-- The first point with a height is the nearest one so far. -/
theorem nearer_none (index : Nat) (h : p.y = some y) :
    nearer pointerY none (p, index) = some (index, distance pointerY y) := by
  rw [nearer, h]
  rfl

/-- A further point wins only when it is strictly nearer. -/
theorem nearer_some (index place : Nat) (least : Float) (h : p.y = some y) :
    nearer pointerY (some (place, least)) (p, index) =
      if distance pointerY y < least then some (index, distance pointerY y) else some (place, least) := by
  rw [nearer, h]
  rfl

/-- The first nearest anchor stays it when an anchor that is not nearer comes behind it. -/
theorem IsNearest.concat (h : IsNearest pointerY front chosen back y)
    (hp : ∀ z, p.y = some z → ¬ distance pointerY z < distance pointerY y) :
    IsNearest pointerY front chosen (back ++ [p]) y := by
  refine ⟨h.y_eq, fun q hq => ?_, h.farther⟩
  rw [← List.cons_append, ← List.append_assoc, List.mem_append, List.mem_singleton] at hq
  rcases hq with hq | rfl
  · exact h.not_nearer q hq
  · exact hp

/-! ## The walk -/

/-- The walk through a list keeps nothing as long as no anchor has a height, and from then on the first nearest one. -/
theorem foldl_nearer (h : Measurable pointerY points) :
    (points.zipIdx.foldl (nearer pointerY) none = none ∧ ∀ p ∈ points, p.y = none) ∨
    ∃ front chosen back y, points = front ++ chosen :: back ∧ IsNearest pointerY front chosen back y ∧
      points.zipIdx.foldl (nearer pointerY) none = some (front.length, distance pointerY y) := by
  -- from the end of the list, since the walk keeps what it has seen in front of an anchor
  induction points using List.reverseRecOn with
  | nil => exact .inl ⟨rfl, List.forall_mem_nil _⟩
  | append_singleton points p ih =>
    have hseen : Measurable pointerY points := fun q hq => h q (List.mem_append_left _ hq)
    have hstep : (points ++ [p]).zipIdx.foldl (nearer pointerY) none =
        nearer pointerY (points.zipIdx.foldl (nearer pointerY) none) (p, points.length) := by
      rw [List.zipIdx_append, List.foldl_append, Nat.zero_add]
      rfl
    rw [hstep]
    cases hp : p.y with
    | none =>
      rw [nearer_of_y_eq_none _ _ hp]
      rcases ih hseen with ⟨hnone, hall⟩ | ⟨front, chosen, back, y, rfl, hnearest, hsome⟩
      · refine .inl ⟨hnone, fun q hq => ?_⟩
        rw [List.mem_append, List.mem_singleton] at hq
        rcases hq with hq | rfl
        · exact hall q hq
        · exact hp
      · refine .inr ⟨front, chosen, back ++ [p], y, by simp, hnearest.concat ?_, hsome⟩
        rw [hp]
        exact fun z hz => nomatch hz
    | some y =>
      have hnumber := h p List.mem_concat_self y hp
      rcases ih hseen with ⟨hnone, hall⟩ | ⟨front, chosen, back, least, rfl, hnearest, hsome⟩
      · -- the first anchor with a height
        rw [hnone, nearer_none _ hp]
        refine .inr ⟨points, p, [], y, rfl, ⟨hp, fun q hq z hz => ?_, fun q hq z hz => ?_⟩, rfl⟩
        · rw [List.mem_append, List.mem_singleton] at hq
          rcases hq with hq | rfl
          · exact absurd (hall q hq) (y_ne_none hz)
          · obtain rfl := Option.some.inj (hp.symm.trans hz)
            exact not_lt_self hnumber
        · exact absurd (hall q hq) (y_ne_none hz)
      · rw [hsome, nearer_some _ _ _ hp]
        have hleast := hseen chosen List.mem_append_cons_self least hnearest.y_eq
        split_ifs with hlt
        · -- all that were not nearer than the best so far are farther than this one
          have hfarther : ∀ q ∈ front ++ chosen :: back, ∀ z, q.y = some z →
              distance pointerY y < distance pointerY z := fun q hq z hz =>
            lt_of_lt_of_not_lt hnumber hleast (hseen q hq z hz) hlt (hnearest.not_nearer q hq z hz)
          refine .inr ⟨front ++ chosen :: back, p, [], y, rfl, ⟨hp, fun q hq z hz => ?_, hfarther⟩, rfl⟩
          rw [List.mem_append, List.mem_singleton] at hq
          rcases hq with hq | rfl
          · exact not_lt_of_lt hnumber (hseen q hq z hz) (hfarther q hq z hz)
          · obtain rfl := Option.some.inj (hp.symm.trans hz)
            exact not_lt_self hnumber
        · refine .inr ⟨front, chosen, back ++ [p], least, by simp, hnearest.concat fun z hz => ?_, rfl⟩
          obtain rfl := Option.some.inj (hp.symm.trans hz)
          exact hlt

/-! ## The first nearest anchor -/

/-- The first nearest anchor of a list does not stand in front of the first nearest anchor. -/
theorem IsNearest.not_mem_front {front' back' : List Resolved} {chosen' : Resolved} {y' : Float}
    (h : IsNearest pointerY front chosen back y) (h' : IsNearest pointerY front' chosen' back' y')
    (hlists : front ++ chosen :: back = front' ++ chosen' :: back') : chosen ∉ front' := by
  intro hmem
  have hin : chosen' ∈ front ++ chosen :: back := by
    rw [hlists]
    exact List.mem_append_cons_self
  exact h.not_nearer chosen' hin y' h'.y_eq (h'.farther chosen hmem y h.y_eq)

/-- A list has one first nearest anchor. -/
theorem IsNearest.eq_of_append_eq {front' back' : List Resolved} {chosen' : Resolved} {y' : Float}
    (h : IsNearest pointerY front chosen back y) (h' : IsNearest pointerY front' chosen' back' y')
    (hlists : front ++ chosen :: back = front' ++ chosen' :: back') : chosen = chosen' := by
  rcases List.append_eq_append_iff.mp hlists with ⟨between, rfl, hrest⟩ | ⟨between, rfl, hrest⟩
  · cases between with
    | nil => exact (List.cons.inj hrest).1
    | cons first between =>
      obtain ⟨rfl, -⟩ := List.cons.inj hrest
      exact absurd List.mem_append_cons_self (h.not_mem_front h' hlists)
  · cases between with
    | nil => exact (List.cons.inj hrest).1.symm
    | cons first between =>
      obtain ⟨rfl, -⟩ := List.cons.inj hrest
      exact absurd List.mem_append_cons_self (h'.not_mem_front h hlists.symm)

/-- Among several anchors none is chosen if none has a height, and otherwise the first nearest one is. -/
theorem choose?_cases (h : Measurable pointerY points) (hlength : 2 ≤ points.length) :
    (choose? points pointerY = none ∧ ∀ p ∈ points, p.y = none) ∨
    ∃ front chosen back y, points = front ++ chosen :: back ∧ IsNearest pointerY front chosen back y ∧
      chooseIndex? points pointerY = some front.length ∧ choose? points pointerY = some chosen := by
  have hindex : chooseIndex? points pointerY = (points.zipIdx.foldl (nearer pointerY) none).map (·.1) := by
    match points, hlength with
    | _ :: _ :: _, _ => rfl
  rw [choose?, hindex]
  rcases foldl_nearer h with ⟨hnone, hall⟩ | ⟨front, chosen, back, y, rfl, hnearest, hsome⟩
  · exact .inl ⟨by rw [hnone]; rfl, hall⟩
  · refine .inr ⟨front, chosen, back, y, rfl, hnearest, ?_, ?_⟩
    · rw [hsome]
      rfl
    · rw [hsome, Option.map_some, Option.bind_some]
      simp

/-! ## Anchors without a height -/

namespace Padded

/-- Padding makes a list of points no shorter. -/
theorem length_le (h : Padded points more) : points.length ≤ more.length := by
  induction h with
  | nil => exact Nat.le_refl 0
  | keep p _ ih => exact Nat.succ_le_succ ih
  | insert p _ _ ih => exact Nat.le_succ_of_le ih

/-- A point of the padded list was there before or has no height. -/
theorem mem_or (h : Padded points more) (hp : p ∈ more) : p ∈ points ∨ p.y = none := by
  induction h with
  | nil => cases hp
  | keep q _ ih =>
    rcases List.mem_cons.mp hp with rfl | hp
    · exact .inl List.mem_cons_self
    · exact (ih hp).imp_left (List.mem_cons_of_mem q)
  | insert q hq _ ih =>
    rcases List.mem_cons.mp hp with rfl | hp
    · exact .inr hq
    · exact ih hp

/-- Points without a height can be padded in without any distance to measure. -/
theorem measurable (h : Padded points more) (hpoints : Measurable pointerY points) : Measurable pointerY more := by
  intro q hq z hz
  rcases h.mem_or hq with hq | hnone
  · exact hpoints q hq z hz
  · exact absurd hnone (y_ne_none hz)

/-- What stands on both sides of an anchor is padded by itself. -/
theorem exists_append (h : Padded (front ++ chosen :: back) more) :
    ∃ front' back', more = front' ++ chosen :: back' ∧ Padded front front' ∧ Padded back back' := by
  generalize hlist : front ++ chosen :: back = list at h
  -- a point that was padded in goes to the front as long as the chosen one has not come
  induction h generalizing front with
  | nil => exact absurd hlist (by simp)
  | keep q hrest ih =>
    cases front with
    | nil =>
      obtain ⟨rfl, rfl⟩ := List.cons.inj hlist
      exact ⟨[], _, rfl, .nil, hrest⟩
    | cons first front =>
      obtain ⟨rfl, hrestList⟩ := List.cons.inj hlist
      obtain ⟨front', back', rfl, hfront, hback⟩ := ih hrestList
      exact ⟨_ :: front', back', rfl, hfront.keep _, hback⟩
  | insert q hq _ ih =>
    obtain ⟨front', back', rfl, hfront, hback⟩ := ih hlist
    exact ⟨q :: front', back', rfl, hfront.insert q hq, hback⟩

end Padded

/-- The first nearest anchor stays it in a list that is padded. -/
theorem IsNearest.padded {front' back' : List Resolved} (h : IsNearest pointerY front chosen back y)
    (hfront : Padded front front') (hback : Padded back back') : IsNearest pointerY front' chosen back' y := by
  refine ⟨h.y_eq, fun q hq z hz => ?_, fun q hq z hz => ?_⟩
  · refine h.not_nearer q ?_ z hz
    rw [List.mem_append, List.mem_cons] at hq ⊢
    rcases hq with hq | hq | hq
    · exact .inl ((hfront.mem_or hq).resolve_right (y_ne_none hz))
    · exact .inr (.inl hq)
    · exact .inr (.inr ((hback.mem_or hq).resolve_right (y_ne_none hz)))
  · exact h.farther q ((hfront.mem_or hq).resolve_right (y_ne_none hz)) z hz

/-- Anchors without a height make no difference to a choice among several. -/
theorem choose?_padded (h : Measurable pointerY points) (hlength : 2 ≤ points.length) (hmore : Padded points more) :
    choose? more pointerY = choose? points pointerY := by
  have hcases := choose?_cases (hmore.measurable h) (hlength.trans hmore.length_le)
  rcases choose?_cases h hlength with ⟨hnone, hall⟩ | ⟨front, chosen, back, y, rfl, hnearest, -, hchosen⟩
  · rw [hnone]
    rcases hcases with ⟨hnone', -⟩ | ⟨front', chosen', back', y', rfl, hnearest', -⟩
    · exact hnone'
    · have hno : chosen'.y = none := (hmore.mem_or List.mem_append_cons_self).elim (hall chosen') id
      exact absurd hno (y_ne_none hnearest'.y_eq)
  · rw [hchosen]
    -- the choice is still the first nearest anchor of the longer list, which has one only
    obtain ⟨front', back', rfl, hfront, hback⟩ := hmore.exists_append
    have hpadded := hnearest.padded hfront hback
    rcases hcases with ⟨-, hall'⟩ | ⟨front'', chosen', back'', y', hlists, hnearest', -, hchosen'⟩
    · exact absurd (hall' chosen List.mem_append_cons_self) (y_ne_none hnearest.y_eq)
    · rw [hchosen', hpadded.eq_of_append_eq hnearest' hlists]

/-! ## The choice -/

/-- The anchor that is chosen, where all distances are numbers. Nothing is chosen from no anchors, or from several of
which none has a height, and from nothing else; one anchor by itself is chosen, with a height or without; and among
several it is the first nearest one. Anchors without a height make no difference to a choice among several, wherever they
stand. -/
theorem chooses_nearest (points : List Resolved) (pointerY : Float) (h : Measurable pointerY points) :
    (choose? points pointerY = none ↔ points = [] ∨ 2 ≤ points.length ∧ ∀ p ∈ points, p.y = none) ∧
    (∀ only, choose? [only] pointerY = some only) ∧
    (2 ≤ points.length →
      (∀ chosen, choose? points pointerY = some chosen →
        ∃ front back y, points = front ++ chosen :: back ∧ chooseIndex? points pointerY = some front.length ∧
          IsNearest pointerY front chosen back y) ∧
      ∀ more, Padded points more → choose? more pointerY = choose? points pointerY) := by
  refine ⟨?_, fun _ => rfl, fun hlength => ⟨fun chosen hchosen => ?_, fun more => choose?_padded h hlength⟩⟩
  · -- no point and one point are decided without a distance
    match points, h with
    | [], _ => exact iff_of_true rfl (.inl rfl)
    | [only], _ => exact iff_of_false (Option.some_ne_none only) (by simp)
    | first :: second :: rest, h =>
      have hlength : 2 ≤ (first :: second :: rest).length := Nat.le_add_left 2 rest.length
      rcases choose?_cases h hlength with ⟨hnone, hall⟩ | ⟨front, chosen, back, y, hlist, hnearest, -, hchosen⟩
      · exact iff_of_true hnone (.inr ⟨hlength, hall⟩)
      · rw [hchosen, hlist]
        refine iff_of_false (Option.some_ne_none chosen) ?_
        rintro (hnil | ⟨-, hall⟩)
        · exact absurd hnil (by simp)
        · exact absurd (hall chosen List.mem_append_cons_self) (y_ne_none hnearest.y_eq)
  · rcases choose?_cases h hlength with ⟨hnone, -⟩ | ⟨front, other, back, y, hlist, hnearest, hindex, hother⟩
    · exact absurd (hnone.symm.trans hchosen) (Option.some_ne_none chosen).symm
    · obtain rfl := Option.some.inj (hother.symm.trans hchosen)
      exact ⟨front, back, y, hlist, hindex, hnearest⟩

/-- An anchor at a height, or without one. -/
def atHeight (y : Option Float) : Resolved :=
  ⟨.inner, none, y, none, none, none, none⟩

/-- Three anchors, of which the last two are equally near to a pointer at the height 2. -/
def tied : List Resolved :=
  [atHeight (some 5), atHeight (some 1), atHeight (some 3)]

/-- Two points at the same distance, of which the first is chosen, also behind one without a height. -/
theorem chooses_nearest_tied :
    Measurable 2 tied ∧ 2 ≤ tied.length ∧ choose? tied 2 = some (atHeight (some 1)) ∧
    (∃ front back y, tied = front ++ atHeight (some 1) :: back ∧ chooseIndex? tied 2 = some front.length ∧
      IsNearest 2 front (atHeight (some 1)) back y) ∧
    Padded tied (atHeight none :: tied) ∧ choose? (atHeight none :: tied) 2 = choose? tied 2 := by
  have h : Measurable 2 tied := by
    rw [Measurable, tied, List.forall_mem_cons, List.forall_mem_cons, List.forall_mem_cons]
    refine ⟨?_, ?_, ?_, List.forall_mem_nil _⟩ <;> rintro y ⟨⟩ <;> decide
  have hlength : 2 ≤ tied.length := by decide
  have hchosen : choose? tied 2 = some (atHeight (some 1)) := by rfl
  have hpadded : Padded tied (atHeight none :: tied) := .insert _ rfl (.keep _ (.keep _ (.keep _ .nil)))
  obtain ⟨-, -, hseveral⟩ := chooses_nearest tied 2 h
  obtain ⟨hnearest, hpads⟩ := hseveral hlength
  exact ⟨h, hlength, hchosen, hnearest _ hchosen, hpadded, hpads _ hpadded⟩

end Signalbox.Resolved
