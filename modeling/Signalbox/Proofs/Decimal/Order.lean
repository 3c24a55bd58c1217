import Mathlib.Data.Prod.Lex
import Mathlib.Order.Compare

/-!
# Floats in order

Floats are compared by cases: infinities, zeros, and numbers by their signs, their exponents and their mantissas. A float
that is a number at all has a rank among triples of integers, and the comparison is that of the ranks; so the floats that
are numbers are in a linear order, up to the two zeros.

Main results:

* `lt_iff_rank_lt`: floats that are numbers compare like their ranks.
* `lt_of_lt_of_not_lt`: what is less than a float is less than all that are not below it.
-/

namespace Signalbox

open Float.Model Float.Model.UnpackedFloat

/-- The rank of an unpacked float: its kind, and for a number what the exponent and the mantissa count. -/
def rankOf : UnpackedFloat → ℤ ×ₗ ℤ ×ₗ ℤ
  | .infinity .negative => toLex (-2, toLex (0, 0))
  | .finite .negative m e _ => toLex (-1, toLex (-e, -m))
  | .zero _ => toLex (0, toLex (0, 0))
  | .finite .positive m e _ => toLex (1, toLex (e, m))
  | .infinity .positive => toLex (2, toLex (0, 0))
  | .notANumber => toLex (0, toLex (0, 0))

/-- Numbers above zero compare by their exponents first. -/
theorem then_compare_eq_lt_iff (e k : ℤ) (m n : ℕ) :
    (compare e k).then (compare m n) = .lt ↔ toLex (e, (m : ℤ)) < toLex (k, (n : ℤ)) := by
  rw [Ordering.then_eq_lt, compare_lt_iff_lt, compare_eq_iff_eq, compare_lt_iff_lt, Prod.Lex.toLex_lt_toLex]
  dsimp only
  omega

/-- Numbers below zero compare the other way round. -/
theorem swap_then_compare_eq_lt_iff (e k : ℤ) (m n : ℕ) :
    ((compare e k).then (compare m n)).swap = .lt ↔ toLex (-e, -(m : ℤ)) < toLex (-k, -(n : ℤ)) := by
  rw [Ordering.swap_then, ← Std.OrientedCmp.eq_swap, ← Std.OrientedCmp.eq_swap, then_compare_eq_lt_iff,
    Prod.Lex.toLex_lt_toLex, Prod.Lex.toLex_lt_toLex]
  dsimp only
  omega

/-- Unpacked floats that are numbers compare like their ranks. -/
theorem compare_eq_lt_iff {f g : UnpackedFloat} (hf : f ≠ .notANumber) (hg : g ≠ .notANumber) :
    f.compare g = some .lt ↔ rankOf f < rankOf g := by
  have hsigns : compare Sign.negative Sign.positive = .lt := by decide
  -- the ranks differ in their first part unless the kinds and the signs are the same
  rcases f with (_ | _) | _ | _ | ⟨_ | _, m, e, hm⟩ <;> rcases g with (_ | _) | _ | _ | ⟨_ | _, n, k, hn⟩
  all_goals try exact absurd rfl hf
  all_goals try exact absurd rfl hg
  all_goals dsimp only [UnpackedFloat.compare, rankOf]
  case finite.positive.finite.positive =>
    rw [Option.some_inj, then_compare_eq_lt_iff]
    simp [Prod.Lex.toLex_lt_toLex]
  case finite.negative.finite.negative =>
    rw [Option.some_inj, swap_then_compare_eq_lt_iff]
    simp [Prod.Lex.toLex_lt_toLex]
  -- floats of different kinds, and infinities and zeros among themselves
  all_goals simp [Prod.Lex.toLex_lt_toLex, hsigns]

/-- A float is less than another one when comparing them says so. -/
theorem lt_iff_compare (a b : Float) : a < b ↔ a.toModel.unpack.compare b.toModel.unpack = some .lt := by
  show a.lt b = true ↔ _
  rw [Float.lt, decide_eq_true_eq]
  show (a.toModel.unpack.compare b.toModel.unpack == some .lt) = true ↔ _
  exact beq_iff_eq

/-- A float that is not NaN is unpacked to a number. -/
theorem ne_notANumber {a : Float} (h : a.isNaN = false) : a.toModel.unpack ≠ .notANumber := by
  intro hnan
  have hnumber : a.toModel.unpack.isNaN = false := h
  rw [hnan] at hnumber
  exact absurd hnumber (by decide)

/-- Floats that are numbers compare like their ranks. -/
theorem lt_iff_rank_lt {a b : Float} (ha : a.isNaN = false) (hb : b.isNaN = false) :
    a < b ↔ rankOf a.toModel.unpack < rankOf b.toModel.unpack :=
  (lt_iff_compare a b).trans (compare_eq_lt_iff (ne_notANumber ha) (ne_notANumber hb))

variable {a b c : Float}

theorem not_lt_self (ha : a.isNaN = false) : ¬ a < a := by
  rw [lt_iff_rank_lt ha ha]
  exact lt_irrefl _

/-- What is less than a float is less than all floats that are not below it. -/
theorem lt_of_lt_of_not_lt (ha : a.isNaN = false) (hb : b.isNaN = false) (hc : c.isNaN = false) (hab : a < b)
    (hcb : ¬ c < b) : a < c := by
  rw [lt_iff_rank_lt ha hb] at hab
  rw [lt_iff_rank_lt hc hb] at hcb
  rw [lt_iff_rank_lt ha hc]
  exact lt_of_lt_of_le hab (not_lt.mp hcb)

/-- Of two numbers one at most is less than the other. -/
theorem not_lt_of_lt (ha : a.isNaN = false) (hb : b.isNaN = false) (hab : a < b) : ¬ b < a := by
  rw [lt_iff_rank_lt ha hb] at hab
  rw [lt_iff_rank_lt hb ha]
  exact lt_asymm hab

end Signalbox
