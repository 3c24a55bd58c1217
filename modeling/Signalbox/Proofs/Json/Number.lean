import Signalbox.Json.Number
import Signalbox.Proofs.Decimal.Finite

/-!
# Numbers of documents

A number that is read from a document is a whole number of 64 bits or a finite float, and stays finite as a
float.

Main results:

* `Number.inRange_of_ofParts?`: the numbers that tokens denote.
* `Number.isFinite_toFloat`: they are finite as floats.
-/

namespace Signalbox.Number

/-- Whole numbers of 64 bits, of 63 bits if they are negative, and finite floats. -/
def InRange : Number → Prop
  | .int n => -0x8000000000000000 ≤ n ∧ n ≤ largestInt
  | .float x => x.isFinite = true

/-! ## Digits -/

/-- The digits before the point are collected up to a bound only. -/
theorem collectWhole_fst_le {count : Nat} (h : count ≤ largestInt) (cs : List Char) :
    (collectWhole count cs).1 ≤ largestInt := by
  induction cs generalizing count with
  | nil => exact h
  | cons c rest ih =>
    rw [collectWhole]
    split_ifs with hnext
    · exact ih hnext
    · exact h

/-- The digits behind the point are collected up to the same bound. -/
theorem collectFraction_fst_le {count : Nat} (h : count ≤ largestInt) (cs : List Char) :
    (collectFraction count cs).1 ≤ largestInt := by
  induction cs generalizing count with
  | nil => exact h
  | cons c rest ih =>
    rw [collectFraction]
    split_ifs with hnext
    · exact ih hnext
    · exact h

/-! ## Floats -/

/-- Dividing by powers of ten leaves a finite number finite. -/
theorem isFinite_scaleDown {x : Float} {e : Nat} (rounds : Nat) (hx : x.isFinite = true) (he : 1 ≤ e) :
    (scaleDown rounds x e).isFinite = true := by
  induction rounds generalizing x e with
  | zero => exact hx
  | succ rounds ih =>
    rw [scaleDown]
    split_ifs with hsmall
    · exact isFinite_div hx (reachesTwo_powerOfTen he hsmall)
    · exact ih (isFinite_div hx (reachesTwo_powerOfTen (by decide) le_rfl)) (by omega)

/-- A count that is scaled at all is scaled to a finite number. -/
theorem isFinite_of_scale? {count : Nat} {e : Int} {x : Float} (hcount : count ≤ largestInt)
    (h : scale? count e = some x) : x.isFinite = true := by
  have hfloat : count.toFloat.isFinite = true := isFinite_natToFloat (Nat.lt_succ_of_le hcount)
  unfold scale? at h
  dsimp only at h
  split_ifs at h with hnegative hsmall hinf hzero
  · obtain rfl := Option.some.inj h
    exact isFinite_scaleDown 4 hfloat (by omega)
  · obtain rfl := Option.some.inj h
    -- the power of ten is one or at least two
    have hpower : (Float.ofScientific 1 false e.toNat).isFinite = true := by
      by_cases he : e = 0
      · rw [he]
        decide
      · exact isFinite_of_reachesTwo (reachesTwo_powerOfTen (by omega) (by omega))
    exact isFinite_mul hfloat hpower (Bool.eq_false_iff.mpr hinf)
  · obtain rfl := Option.some.inj h
    exact hfloat

/-- The parts of a number make a finite number or none. -/
theorem isFinite_of_floatOfParts? {p : Parts} {x : Float} (h : floatOfParts? p = some x) :
    x.isFinite = true := by
  obtain ⟨magnitude, hmagnitude, rfl⟩ := Option.map_eq_some_iff.mp h
  have hfinite : magnitude.isFinite = true := by
    have hcount := collectFraction_fst_le (collectWhole_fst_le (Nat.zero_le _) p.whole) (p.fraction.getD [])
    split_ifs at hmagnitude
    · obtain rfl := Option.some.inj hmagnitude
      decide
    · obtain rfl := Option.some.inj hmagnitude
      decide
    · exact isFinite_of_scale? hcount hmagnitude
  split_ifs
  · exact isFinite_neg hfinite
  · exact hfinite

/-- A number that a token denotes is in range. -/
theorem inRange_of_ofParts? {p : Parts} {n : Number} (h : ofParts? p = some n) : n.InRange := by
  have hcount := collectWhole_fst_le (Nat.zero_le _) p.whole
  unfold ofParts? at h
  dsimp only at h
  split_ifs at h with hwhole hsign hlarge
  · obtain rfl := Option.some.inj h
    exact isFinite_neg (isFinite_natToFloat (Nat.lt_succ_of_le hcount))
  · obtain rfl := Option.some.inj h
    constructor <;> omega
  · obtain rfl := Option.some.inj h
    constructor <;> omega
  · obtain ⟨x, hx, rfl⟩ := Option.map_eq_some_iff.mp h
    exact isFinite_of_floatOfParts? hx

/-- A number in range is finite as a float. -/
theorem isFinite_toFloat {n : Number} (h : n.InRange) : n.toFloat.isFinite = true := by
  cases n with
  | float x => exact h
  | int n =>
    obtain ⟨hlow, hhigh⟩ := h
    have hlargest : (largestInt : Int) = 2 ^ 64 - 1 := rfl
    cases n with
    | ofNat n =>
      have hn : (n : Int) ≤ largestInt := hhigh
      exact isFinite_natToFloat (by omega)
    | negSucc n => exact isFinite_neg (isFinite_natToFloat (by omega))

end Signalbox.Number
