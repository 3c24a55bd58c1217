import Mathlib.Data.Nat.Log
import Mathlib.Tactic.NormNum
import Mathlib.Tactic.SplitIfs

/-!
# Floats that stay finite

The numbers of documents are counts of 64 bits, multiplied or divided by powers of ten. Where the result
could leave the range of the floats the reader looks, and nowhere else need it look: a count is finite, a
quotient by a power of ten is, and a product is finite if it is not infinite.

All this is a matter of exponents. A float is a mantissa times a power of two, and `Bounded` limits the
power. Rounding raises it by one at most.

Main results:

* `isFinite_natToFloat`, `isFinite_mul` and `isFinite_div`: a count, a product and a quotient.
* `reachesTwo_powerOfTen`: the powers of ten are finite, and large enough to divide by.
-/

namespace Signalbox

open Float.Model Float.Model.UnpackedFloat

/-! ## Rounding -/

/-- A shift to the right divides the mantissa. -/
theorem mantissa_shiftRight (em : ExtendedMantissa) (n : Nat) :
    (em >>> n).mantissa = em.mantissa / 2 ^ n := by
  show (Nat.repeat ExtendedMantissa.shiftRightOne n em).mantissa = _
  induction n with
  | zero => rw [Nat.repeat, Nat.pow_zero, Nat.div_one]
  | succ n ih => rw [Nat.repeat, ExtendedMantissa.shiftRightOne, ih, Nat.div_div_eq_div_mul, Nat.pow_succ]

theorem mantissa_ofMantissaAndAccuracy (m : Nat) (accuracy : Accuracy) :
    (ExtendedMantissa.ofMantissaAndAccuracy m accuracy).mantissa = m := by
  unfold ExtendedMantissa.ofMantissaAndAccuracy
  split <;> rfl

/-- Rounding adds one at most. -/
theorem le_roundedMantissa (em : ExtendedMantissa) :
    em.mantissa ≤ em.roundedMantissa ∧ em.roundedMantissa ≤ em.mantissa + 1 := by
  unfold ExtendedMantissa.roundedMantissa Accuracy.roundToNearestEven
  split <;> omega

/-- A number below a power of two is not longer than its exponent. -/
theorem log2_le_of_lt {m k : Nat} (h : m < 2 ^ (k + 1)) : m.log2 ≤ k := by
  by_cases hm : m = 0
  · rw [hm, Nat.log2_zero]
    exact Nat.zero_le k
  · have hlt := (Nat.log2_lt hm).mpr h
    omega

/-- The exponent that a number of 53 bits has, if floats go down to it. -/
def roundedExponent (m : Nat) (e : Int) : Int :=
  max (m.log2 + e - 52) (-1074)

/-- The exponent after the shift to the precision. -/
theorem shiftToTargetExponent_snd (m : Nat) (e : Int) (accuracy : Accuracy) :
    (shiftToTargetExponent .binary64 m e accuracy).2 = max e (roundedExponent m e) := by
  have htarget (total : Int) : Format.binary64.targetExponent total = max (total - 53) (-1074) := rfl
  simp only [shiftToTargetExponent, shiftToExponent, htarget, totalExponent, roundedExponent]
  omega

/-- The mantissa after the shift to the precision. -/
theorem shiftToTargetExponent_mantissa (m : Nat) (e : Int) (accuracy : Accuracy) :
    (shiftToTargetExponent .binary64 m e accuracy).1.mantissa =
      m / 2 ^ (roundedExponent m e - e).toNat := by
  have htarget : Format.binary64.targetExponent (totalExponent m e) = roundedExponent m e := by
    show max (((m.log2 : Int) + 1 + e) - 53) (-1074) = max ((m.log2 : Int) + e - 52) (-1074)
    omega
  simp only [shiftToTargetExponent, shiftToExponent, htarget, mantissa_shiftRight,
    mantissa_ofMantissaAndAccuracy]

/-- At its exponent a number has 53 bits at most. -/
theorem div_two_pow_roundedExponent_lt (m : Nat) (e : Int) :
    m / 2 ^ (roundedExponent m e - e).toNat < 2 ^ 53 := by
  rw [Nat.div_lt_iff_lt_mul (Nat.two_pow_pos _), ← Nat.pow_add]
  refine lt_of_lt_of_le Nat.lt_log2_self (Nat.pow_le_pow_right (by decide) ?_)
  unfold roundedExponent
  omega

/-- What a mantissa and an exponent round to. A mantissa of 54 bits is the only one that is shifted
again. -/
theorem roundWithAccuracy_eq (s : Sign) (m : Nat) (e : Int) (accuracy : Accuracy) :
    ∃ r, r ≤ 2 ^ 53 ∧ m / 2 ^ (roundedExponent m e - e).toNat ≤ r ∧
      roundWithAccuracy .binary64 s m e accuracy =
        (let shifted := shiftToTargetExponent .binary64 r (max e (roundedExponent m e)) .exact
        if h : shifted.1.mantissa = 0 then .zero s
        else .finite s shifted.1.mantissa shifted.2 (Nat.pos_of_ne_zero h)) := by
  have hbounds := le_roundedMantissa (shiftToTargetExponent .binary64 m e accuracy).1
  have hlt := div_two_pow_roundedExponent_lt m e
  rw [shiftToTargetExponent_mantissa] at hbounds
  refine ⟨_, ?_, hbounds.1, ?_⟩
  · omega
  · rw [← shiftToTargetExponent_snd m e accuracy]
    rfl

/-! ## Powers of two -/

/-- A finite number whose power of two is limited. -/
def Bounded (limit : Int) : UnpackedFloat → Prop
  | .zero _ => True
  | .finite _ _ e _ => e ≤ limit
  | _ => False

/-- Rounding keeps a number within the exponents that it fits in. -/
theorem bounded_round {s : Sign} {m : Nat} {e limit : Int} {accuracy : Accuracy}
    (h : max e (roundedExponent m e) < limit) : Bounded limit (roundWithAccuracy .binary64 s m e accuracy) := by
  obtain ⟨r, hr, -, hround⟩ := roundWithAccuracy_eq s m e accuracy
  rw [hround]
  by_cases hzero : (shiftToTargetExponent .binary64 r (max e (roundedExponent m e)) .exact).1.mantissa = 0
  · rw [dif_pos hzero]
    trivial
  · rw [dif_neg hzero]
    show (shiftToTargetExponent .binary64 r _ .exact).2 ≤ limit
    have hlog : r.log2 ≤ 53 := log2_le_of_lt (by omega)
    rw [shiftToTargetExponent_snd]
    unfold roundedExponent at h ⊢
    omega

/-- A number that is within a limit is finite. -/
theorem isFinite_of_bounded {limit : Int} {f : UnpackedFloat} (h : Bounded limit f) :
    f.isFinite = true := by
  cases f with
  | notANumber => exact h.elim
  | infinity => exact h.elim
  | zero => rfl
  | finite => rfl

/-- The exponent bits of a finite float are not all ones. -/
theorem toNat_unpackExponent_le {b : BitVec Format.binary64.numBits}
    (h : (unpackExponent b : BitVec Format.binary64.exponentBits) ≠ -1#_) :
    (unpackExponent b : BitVec Format.binary64.exponentBits).toNat ≤ 2046 := by
  have hlt : (unpackExponent b : BitVec Format.binary64.exponentBits).toNat < 2048 := BitVec.isLt _
  have hones : (-1#(Format.binary64.exponentBits)).toNat = 2047 := by decide
  by_contra hgt
  exact h (BitVec.eq_of_toNat_eq (by omega))

/-- Exponent bits that are not all ones say which power of two a float has, and unless they are all zeros that
its mantissa starts with a one. -/
theorem unpack_spec {b : BitVec Format.binary64.numBits} {n : Nat}
    (hn : (unpackExponent b : BitVec Format.binary64.exponentBits).toNat = n)
    (hones : (unpackExponent b : BitVec Format.binary64.exponentBits) ≠ -1#_) :
    (∃ s, UnpackedFloat.unpack .binary64 b = .zero s ∧ n = 0) ∨
      ∃ s m e hm, UnpackedFloat.unpack .binary64 b = .finite s m e hm ∧ m < 2 ^ 53 ∧
        (n = 0 ∧ e = -1074 ∨ 0 < n ∧ e = n - 1075 ∧ 2 ^ 52 ≤ m) := by
  have hlt : (unpackMantissa b : BitVec Format.binary64.mantissaBitsWithoutImplicit).toNat < 2 ^ 52 :=
    BitVec.isLt _
  unfold UnpackedFloat.unpack
  dsimp only
  rw [if_neg hones]
  -- all zeros: a zero or a number without the leading one
  by_cases hzero : (unpackExponent b : BitVec Format.binary64.exponentBits) = 0#_
  · have heq : n = 0 := hn.symm.trans (congrArg BitVec.toNat hzero)
    rw [if_pos hzero]
    by_cases hempty : (unpackMantissa b : BitVec Format.binary64.mantissaBitsWithoutImplicit) = 0#_
    · rw [dif_pos hempty]
      exact .inl ⟨_, rfl, heq⟩
    · have hpositive : 0 < (unpackMantissa b : BitVec Format.binary64.mantissaBitsWithoutImplicit).toNat :=
        Nat.pos_of_ne_zero fun hempty' => hempty (BitVec.eq_of_toNat_eq hempty')
      rw [dif_neg hempty]
      refine .inr ⟨_, _, _, hpositive, rfl, by omega, .inl ⟨heq, ?_⟩⟩
      show ((unpackExponent b : BitVec Format.binary64.exponentBits).toNat : Int) - 1075 + 1 = -1074
      omega
  · have hpositive : n ≠ 0 := fun heq => hzero (BitVec.eq_of_toNat_eq (hn.trans heq))
    -- otherwise the mantissa has a leading one
    have hleading :
        2 ^ 52 ≤ (1#1 ++ (unpackMantissa b : BitVec Format.binary64.mantissaBitsWithoutImplicit)).toNat := by
      rw [BitVec.toNat_append]
      exact Nat.left_le_or
    rw [if_neg hzero]
    refine .inr ⟨_, _, _, lt_of_lt_of_le (by decide) hleading, rfl, BitVec.isLt _,
      .inr ⟨by omega, ?_, hleading⟩⟩
    show ((unpackExponent b : BitVec Format.binary64.exponentBits).toNat : Int) - 1075 = n - 1075
    omega

/-- The mantissa and the exponent of an unpacked number are within their bounds. -/
theorem unpack_eq_finite {b : BitVec Format.binary64.numBits} {s : Sign} {m : Nat} {e : Int} {hm : 0 < m}
    (h : UnpackedFloat.unpack .binary64 b = .finite s m e hm) : m.log2 ≤ 52 ∧ e ≤ 971 := by
  -- the largest exponent is that of infinity and of what is no number
  by_cases hones : (unpackExponent b : BitVec Format.binary64.exponentBits) = -1#_
  · unfold UnpackedFloat.unpack at h
    dsimp only at h
    rw [if_pos hones] at h
    by_cases hempty : (unpackMantissa b : BitVec Format.binary64.mantissaBitsWithoutImplicit) = 0#_
    · rw [if_pos hempty] at h
      cases h
    · rw [if_neg hempty] at h
      cases h
  · have hexponent := toNat_unpackExponent_le hones
    rcases unpack_spec rfl hones with ⟨s', hunpack, -⟩ | ⟨s', m', e', hm', hunpack, hlt, he⟩
    · rw [hunpack] at h
      cases h
    · rw [hunpack] at h
      obtain ⟨-, rfl, rfl⟩ := UnpackedFloat.finite.inj h
      exact ⟨log2_le_of_lt hlt, by omega⟩

/-- What is packed with an exponent that is not the highest is no infinity and no NaN. -/
theorem unpack_packComponents (s : Sign) {n : Nat}
    (mantissa : BitVec Format.binary64.mantissaBitsWithoutImplicit) (hn : n < 2047) :
    (∃ s', UnpackedFloat.unpack .binary64
      (packComponents .binary64 s (BitVec.ofNat Format.binary64.exponentBits n) mantissa) = .zero s' ∧ n = 0) ∨
    ∃ s' m e hm, UnpackedFloat.unpack .binary64
      (packComponents .binary64 s (BitVec.ofNat Format.binary64.exponentBits n) mantissa) = .finite s' m e hm ∧
        m < 2 ^ 53 ∧ (n = 0 ∧ e = -1074 ∨ 0 < n ∧ e = n - 1075 ∧ 2 ^ 52 ≤ m) := by
  have htoNat : (BitVec.ofNat Format.binary64.exponentBits n).toNat = n := Nat.mod_eq_of_lt (show n < 2048 by omega)
  have hexponent : (unpackExponent (packComponents .binary64 s (BitVec.ofNat Format.binary64.exponentBits n) mantissa) :
      BitVec Format.binary64.exponentBits) = BitVec.ofNat Format.binary64.exponentBits n :=
    unpackExponent_packComponents
  refine unpack_spec (by rw [hexponent, htoNat]) fun hones => ?_
  have heq : n = 2047 := htoNat.symm.trans (congrArg BitVec.toNat (hexponent.symm.trans hones))
  omega

/-- Exponent bits that are not all ones keep a float within its power of two. -/
theorem bounded_unpack_packComponents {limit : Int} (s : Sign) {n : Nat}
    (mantissa : BitVec Format.binary64.mantissaBitsWithoutImplicit) (hn : n < 2047) (hlow : -1074 ≤ limit)
    (h : (n : Int) - 1075 ≤ limit) :
    Bounded limit (UnpackedFloat.unpack .binary64
      (packComponents .binary64 s (BitVec.ofNat Format.binary64.exponentBits n) mantissa)) := by
  rcases unpack_packComponents s mantissa hn with ⟨s', hunpack, -⟩ | ⟨s', m, e, hm, hunpack, -, he⟩
  · rw [hunpack]
    trivial
  · rw [hunpack]
    show e ≤ limit
    omega

/-- A number that has a small enough power of two keeps it when it is packed. -/
theorem bounded_unpack_pack {limit : Int} {f : UnpackedFloat} (h : Bounded limit f) (hlow : -1074 ≤ limit)
    (hhigh : limit ≤ 971) : Bounded limit (Float.Model.pack f).unpack := by
  show Bounded limit (UnpackedFloat.unpack .binary64 (UnpackedFloat.pack .binary64 f))
  cases f with
  | notANumber => exact h.elim
  | infinity => exact h.elim
  | zero s => cases s <;> exact trivial
  | finite s m e hm =>
    have he : e ≤ limit := h
    -- the bias of the exponent, and the 52 bits after the point
    have hexponent : (e + Format.exponentBias .binary64 + Format.binary64.mantissaBitsWithoutImplicit).toNat =
        (e + 1075).toNat := by
      show (e + 1023 + 52).toNat = (e + 1075).toNat
      omega
    -- the exponent bits do not become all ones
    have hsmall : ¬ 2 ^ Format.binary64.exponentBits ≤ (e + 1075).toNat + 1 := by
      show ¬ 2048 ≤ (e + 1075).toNat + 1
      omega
    unfold UnpackedFloat.pack
    dsimp only
    rw [hexponent]
    rw [if_neg hsmall]
    split_ifs
    · exact bounded_unpack_packComponents s _ (by omega) hlow (by omega)
    · exact bounded_unpack_packComponents s _ (by decide) hlow (by omega)

/-! ## Products and quotients -/

/-- What a finite float is when it is unpacked. -/
theorem unpack_cases {x : Float} (h : x.isFinite = true) :
    (∃ s, x.toModel.unpack = .zero s) ∨
      ∃ s m e hm, x.toModel.unpack = .finite s m e hm ∧ m.log2 ≤ 52 ∧ e ≤ 971 := by
  have hfinite : x.toModel.unpack.isFinite = true := h
  cases hunpack : x.toModel.unpack with
  | notANumber => rw [hunpack] at hfinite; exact absurd hfinite Bool.false_ne_true
  | infinity => rw [hunpack] at hfinite; exact absurd hfinite Bool.false_ne_true
  | zero s => exact Or.inl ⟨s, rfl⟩
  | finite s m e hm => exact Or.inr ⟨s, m, e, hm, rfl, unpack_eq_finite hunpack⟩

/-- A number that is within the limits is finite when it is packed. -/
theorem isFinite_pack {limit : Int} {f : UnpackedFloat} (h : Bounded limit f) (hlow : -1074 ≤ limit)
    (hhigh : limit ≤ 971) : (Float.ofModel (.pack f)).isFinite = true :=
  isFinite_of_bounded (bounded_unpack_pack h hlow hhigh)

/-- The sign does not matter. -/
theorem isFinite_neg {x : Float} (h : x.isFinite = true) : (-x).isFinite = true := by
  show (Float.ofModel (.pack x.toModel.unpack.neg)).isFinite = true
  have hbounded : Bounded 971 x.toModel.unpack.neg := by
    rcases unpack_cases h with ⟨s, hx⟩ | ⟨s, m, e, hm, hx, -, he⟩
    · rw [hx]
      trivial
    · rw [hx]
      exact he
  exact isFinite_pack hbounded (by decide) le_rfl

/-- A finite number may become infinite when it is packed, and nothing else. -/
theorem isFinite_pack_of_isInf {f : UnpackedFloat} (h : f.isFinite = true)
    (hinf : (Float.ofModel (.pack f)).isInf = false) : (Float.ofModel (.pack f)).isFinite = true := by
  cases f with
  | notANumber => exact absurd h Bool.false_ne_true
  | infinity => exact absurd h Bool.false_ne_true
  | zero s => cases s <;> rfl
  | finite s m e hm =>
    by_cases he : e ≤ 971
    · exact isFinite_pack (show Bounded (max e (-1074)) _ from le_max_left _ _) (by omega) (by omega)
    · -- beyond the largest exponent the number is packed as infinity
      have hbig : 2 ^ Format.binary64.exponentBits ≤
          (e + Format.exponentBias .binary64 + Format.binary64.mantissaBitsWithoutImplicit).toNat + 1 := by
        show 2048 ≤ (e + 1023 + 52).toNat + 1
        omega
      have hpack : UnpackedFloat.pack .binary64 (.finite s m e hm) = packedInfinity .binary64 s := by
        unfold UnpackedFloat.pack
        exact if_pos hbig
      have hunpack : (Float.Model.pack (.finite s m e hm)).unpack = .infinity s := by
        show UnpackedFloat.unpack .binary64 (UnpackedFloat.pack .binary64 (.finite s m e hm)) = _
        rw [hpack]
        cases s <;> rfl
      -- which is excluded
      have hisInf : (Float.Model.pack (.finite s m e hm)).unpack.isInf = false := hinf
      rw [hunpack] at hisInf
      exact absurd hisInf.symm Bool.false_ne_true

/-- A product of finite floats is finite if it is not infinite. -/
theorem isFinite_mul {x y : Float} (hx : x.isFinite = true) (hy : y.isFinite = true)
    (hinf : (x * y).isInf = false) : (x * y).isFinite = true := by
  refine isFinite_pack_of_isInf (f := .mul .binary64 x.toModel.unpack y.toModel.unpack) ?_ hinf
  rcases unpack_cases hx with ⟨s₁, hx⟩ | ⟨s₁, m₁, e₁, hm₁, hx, -, -⟩ <;>
    rcases unpack_cases hy with ⟨s₂, hy⟩ | ⟨s₂, m₂, e₂, hm₂, hy, -, -⟩
  · rw [hx, hy]
    rfl
  · rw [hx, hy]
    rfl
  · rw [hx, hy]
    rfl
  · rw [hx, hy]
    exact isFinite_of_bounded (bounded_round (Int.lt_succ _))

/-- A quotient is shorter by the length of the divisor, or by one bit less. -/
theorem log2_div_le (a : Nat) {b : Nat} (hb : 0 < b) : (a / b).log2 ≤ a.log2 - b.log2 := by
  refine log2_le_of_lt ?_
  rw [Nat.div_lt_iff_lt_mul hb]
  calc a < 2 ^ (a.log2 + 1) := Nat.lt_log2_self
    _ ≤ 2 ^ (a.log2 - b.log2 + 1 + b.log2) := Nat.pow_le_pow_right (by decide) (by omega)
    _ = 2 ^ (a.log2 - b.log2 + 1) * 2 ^ b.log2 := Nat.pow_add ..
    _ ≤ 2 ^ (a.log2 - b.log2 + 1) * b := Nat.mul_le_mul_left _ (Nat.log2_self_le (by omega))

/-- A shift to the left makes a number longer by as many bits at most. -/
theorem log2_shiftLeft_le (m n : Nat) : (m <<< n).log2 ≤ m.log2 + n := by
  refine log2_le_of_lt ?_
  rw [Nat.shiftLeft_eq]
  calc m * 2 ^ n < 2 ^ (m.log2 + 1) * 2 ^ n := Nat.mul_lt_mul_of_pos_right Nat.lt_log2_self (Nat.two_pow_pos n)
    _ = 2 ^ (m.log2 + n + 1) := by rw [← Nat.pow_add]; congr 1; omega

/-- A quotient has as many powers of two as the difference of its two numbers, whichever the mantissas. -/
theorem max_roundedExponent_divCore_le (m₁ : Nat) (e₁ : Int) {m₂ : Nat} (hm₂ : 0 < m₂) (e₂ : Int) :
    max (divCore .binary64 m₁ e₁ m₂ e₂).2.1
        (roundedExponent (divCore .binary64 m₁ e₁ m₂ e₂).1 (divCore .binary64 m₁ e₁ m₂ e₂).2.1) ≤
      max ((m₁.log2 + e₁) - (m₂.log2 + e₂) - 52) (-1074) := by
  have htarget : Format.binary64.targetExponent (totalExponent m₁ e₁ - totalExponent m₂ e₂) =
      max ((m₁.log2 + e₁) - (m₂.log2 + e₂) - 53) (-1074) := by
    show max (((m₁.log2 : Int) + 1 + e₁ - (m₂.log2 + 1 + e₂)) - 53) (-1074) = _
    congr 2
    omega
  simp only [divCore, htarget, roundedExponent]
  generalize ht : min (e₁ - e₂) (max ((m₁.log2 + e₁) - (m₂.log2 + e₂) - 53) (-1074)) = t
  -- bits of the quotient of the mantissas
  have hlog : (m₁ <<< (e₁ - e₂ - t).toNat / m₂).log2 ≤ m₁.log2 + (e₁ - e₂ - t).toNat - m₂.log2 :=
    le_trans (log2_div_le _ hm₂) (Nat.sub_le_sub_right (log2_shiftLeft_le _ _) _)
  omega

/-- A finite number that is two at least. -/
def atLeastTwo : UnpackedFloat → Bool
  | .finite _ m e _ => 1 ≤ (m.log2 : Int) + e
  | _ => false

/-- A finite float that is two at least. -/
def reachesTwo (x : Float) : Bool :=
  atLeastTwo x.toModel.unpack

/-- A number that reaches two is finite. -/
theorem isFinite_of_reachesTwo {x : Float} (h : reachesTwo x = true) : x.isFinite = true := by
  show x.toModel.unpack.isFinite = true
  unfold reachesTwo atLeastTwo at h
  split at h
  next hunpack =>
    rw [hunpack]
    rfl
  next => exact absurd h Bool.false_ne_true

/-- Half of the largest float and what is below are not too large. -/
theorem isFinite_div {x y : Float} (hx : x.isFinite = true) (hy : reachesTwo y = true) :
    (x / y).isFinite = true := by
  unfold reachesTwo atLeastTwo at hy
  split at hy
  next s₂ m₂ e₂ hm₂ hunpack =>
    have hvalue : 1 ≤ (m₂.log2 : Int) + e₂ := of_decide_eq_true hy
    have hbounded : Bounded 971 (.div .binary64 x.toModel.unpack y.toModel.unpack) := by
      rcases unpack_cases hx with ⟨s₁, hx⟩ | ⟨s₁, m₁, e₁, hm₁, hx, hlog, he⟩
      · rw [hx, hunpack]
        trivial
      · rw [hx, hunpack]
        refine bounded_round (lt_of_le_of_lt (max_roundedExponent_divCore_le m₁ e₁ hm₂ e₂) ?_)
        omega
    exact isFinite_pack hbounded (by decide) le_rfl
  next => exact absurd hy Bool.false_ne_true

/-! ## Counts -/

/-- A count of 64 bits has few powers of two when it is rounded. -/
theorem bounded_ofNat {n : Nat} (h : n < 2 ^ 64) : Bounded 12 (UnpackedFloat.ofNat .binary64 n) := by
  show Bounded 12 (UnpackedFloat.normalize .binary64 n 0 .positive)
  unfold UnpackedFloat.normalize
  split
  next hlt =>
    have := Int.compare_eq_lt.mp hlt
    omega
  next => trivial
  next =>
    have hlog : n.log2 ≤ 63 := log2_le_of_lt h
    have hshift (k : Nat) : (n <<< k).log2 ≤ n.log2 + k := log2_shiftLeft_le n k
    unfold UnpackedFloat.round
    dsimp only [decreaseExponent]
    rw [Int.toNat_natCast]
    refine bounded_round ?_
    have hlog' := hshift (0 - Format.binary64.targetExponent (totalExponent n 0)).toNat
    unfold roundedExponent
    omega

/-- Multiplying by one rounds once more. -/
theorem isFinite_mul_one {x : Float} (hx : Bounded 12 x.toModel.unpack) :
    (x * Float.ofBits 0x3FF0000000000000).isFinite = true := by
  have hone : (Float.ofBits 0x3FF0000000000000).toModel.unpack =
      .finite .positive (2 ^ 52) (-52) (Nat.two_pow_pos 52) := rfl
  -- the product of two bounded numbers, by the kind of the first
  have hbounded : Bounded 971
      (.mul .binary64 x.toModel.unpack (Float.ofBits 0x3FF0000000000000).toModel.unpack) := by
    rw [hone]
    cases hunpack : x.toModel.unpack with
    | notANumber => rw [hunpack] at hx; exact hx.elim
    | infinity => rw [hunpack] at hx; exact hx.elim
    | zero => trivial
    | finite s m e hm =>
      rw [hunpack] at hx
      have he : e ≤ 12 := hx
      have hm := (unpack_eq_finite hunpack).1
      have hlog : (m * 2 ^ 52).log2 ≤ m.log2 + 52 := by
        rw [← Nat.shiftLeft_eq]
        exact log2_shiftLeft_le m 52
      refine bounded_round ?_
      unfold roundedExponent
      omega
  exact isFinite_pack hbounded (by decide) le_rfl

/-- A number that is not both short and small is rounded from a product of whole numbers. -/
theorem ofScientific_eq {m e : Nat} (h : ¬ (m < 2 ^ 53 ∧ e ≤ 22)) (hm : m ≠ 0) (he : e ≤ 2048) :
    Float.ofScientific m false e =
      .ofModel (.pack (roundWithAccuracy .binary64 .positive ((m <<< 53) * 10 ^ e) (-53) .exact)) := by
  -- the exponent is neither too large nor too small to be looked at
  have hround : UnpackedFloat.ofScientific .binary64 m (Int.ofNat e) =
      roundWithAccuracy .binary64 .positive ((m <<< 53) * 10 ^ e) (-53) .exact := by
    unfold UnpackedFloat.ofScientific
    have hhigh : ¬ Int.ofNat e > 2 ^ Format.binary64.exponentBits := by
      show ¬ (e : Int) > 2048
      omega
    have hlow : ¬ Int.ofNat e < -((2 ^ Format.binary64.exponentBits : Int) + m.log2) := by
      show ¬ (e : Int) < -(2048 + m.log2)
      omega
    rw [dif_neg hm, if_neg hhigh, if_neg hlow, if_pos (show 0 ≤ Int.ofNat e from Int.natCast_nonneg e)]
    rfl
  unfold Float.ofScientific
  rw [dif_neg h, ← hround]
  rfl

/-- The float of a whole number of 64 bits is finite. -/
theorem isFinite_natToFloat {n : Nat} (h : n < 2 ^ 64) : n.toFloat.isFinite = true := by
  show (Float.ofScientific n false 0).isFinite = true
  by_cases hsmall : n < 2 ^ 53 ∧ 0 ≤ 22
  · -- small counts are converted from a machine word and multiplied by one
    have hcount : Bounded 12 n.toUInt64.toFloat.toModel.unpack := by
      rw [UInt64.toFloat, Float.Model.ofUInt64, UnpackedFloat.ofUInt64]
      exact bounded_unpack_pack (bounded_ofNat (UInt64.toNat_lt _)) (by decide) (by decide)
    have hproduct : Float.ofScientific n false 0 = n.toUInt64.toFloat * Float.ofBits 0x3FF0000000000000 := by
      unfold Float.ofScientific
      rw [dif_pos hsmall]
      rfl
    rw [hproduct]
    exact isFinite_mul_one hcount
  · -- larger ones are rounded
    have hlog : n.log2 ≤ 63 := log2_le_of_lt h
    have hshift : (n <<< 53 * 10 ^ 0).log2 ≤ n.log2 + 53 := by
      rw [Nat.pow_zero, Nat.mul_one]
      exact log2_shiftLeft_le n 53
    rw [ofScientific_eq hsmall (by omega) (by decide)]
    generalize n <<< 53 * 10 ^ 0 = product at hshift ⊢
    have hbounded : Bounded 971 (roundWithAccuracy .binary64 .positive product (-53) .exact) := by
      refine bounded_round ?_
      unfold roundedExponent
      omega
    exact isFinite_pack hbounded (by decide) le_rfl

/-! ## Powers of ten -/

/-- A mantissa of 53 bits is packed without its first one. -/
theorem pack_normal {s : Sign} {m : Nat} {e : Int} {hm : 0 < m} (hlog : m.log2 = 52) (hlow : -1074 ≤ e)
    (hhigh : e ≤ 971) : UnpackedFloat.pack .binary64 (.finite s m e hm) =
      packComponents .binary64 s (BitVec.ofNat _ (e + 1075).toNat) (BitVec.ofNat _ m) := by
  have hexponent : (e + Format.exponentBias .binary64 + Format.binary64.mantissaBitsWithoutImplicit).toNat =
      (e + 1075).toNat := by
    show (e + 1023 + 52).toNat = (e + 1075).toNat
    omega
  -- not beyond the largest exponent, and with all bits of the mantissa
  have hsmall : ¬ 2 ^ Format.binary64.exponentBits ≤ (e + 1075).toNat + 1 := by
    show ¬ 2048 ≤ (e + 1075).toNat + 1
    omega
  have hnormal : m.log2 + 1 = Format.binary64.mantissaBits := by
    rw [hlog]
    rfl
  unfold UnpackedFloat.pack
  dsimp only
  rw [hexponent]
  rw [if_neg hsmall, if_pos hnormal]

/-- A number of 53 bits that is two at least stays so when it is packed. -/
theorem reachesTwo_pack {s : Sign} {m : Nat} {e : Int} {hm : 0 < m} (hlog : m.log2 = 52) (hlow : -51 ≤ e)
    (hhigh : e ≤ 971) : reachesTwo (.ofModel (.pack (.finite s m e hm))) = true := by
  show atLeastTwo (UnpackedFloat.unpack .binary64 (UnpackedFloat.pack .binary64 (.finite s m e hm))) = true
  rw [pack_normal hlog (by omega) hhigh]
  rcases unpack_packComponents s (BitVec.ofNat _ m) (show (e + 1075).toNat < 2047 by omega) with
    ⟨s', -, hzero⟩ | ⟨s', m', e', hm', hunpack, -, ⟨hzero, -⟩ | ⟨-, he', hleading⟩⟩
  · omega
  · omega
  · rw [hunpack]
    refine decide_eq_true ?_
    have hle : 52 ≤ m'.log2 := (Nat.le_log2 (by omega)).mpr hleading
    omega

/-- A number with bits enough keeps 53 of them when it is rounded. -/
theorem exists_round_eq_finite (s : Sign) {m : Nat} {e : Int} (hbits : 52 ≤ m.log2) (hlow : -1022 ≤ m.log2 + e) :
    ∃ m' e', ∃ hm' : 0 < m', roundWithAccuracy .binary64 s m e .exact = .finite s m' e' hm' ∧ m'.log2 = 52 ∧
      m.log2 + e - 52 ≤ e' ∧ e' ≤ m.log2 + e - 51 := by
  obtain ⟨r, hr, hle, hround⟩ := roundWithAccuracy_eq s m e .exact
  have hexponent : roundedExponent m e = m.log2 + e - 52 := by
    unfold roundedExponent
    omega
  have hshift : (roundedExponent m e - e).toNat = m.log2 - 52 := by omega
  have hm : m ≠ 0 := by
    rintro rfl
    rw [Nat.log2_zero] at hbits
    omega
  -- 53 bits are left after the shift
  have hfull : 2 ^ 52 ≤ r := by
    refine le_trans ?_ hle
    rw [hshift, Nat.le_div_iff_mul_le (Nat.two_pow_pos _), ← Nat.pow_add, Nat.add_sub_cancel' hbits]
    exact Nat.log2_self_le hm
  rw [hround, max_eq_right (show e ≤ roundedExponent m e by omega)]
  generalize roundedExponent m e = e₁ at *
  have hsnd := shiftToTargetExponent_snd r e₁ .exact
  have hmantissa := shiftToTargetExponent_mantissa r e₁ .exact
  generalize shiftToTargetExponent .binary64 r e₁ .exact = shifted at *
  dsimp only
  -- only a mantissa of 54 bits is shifted again, and it is a power of two
  have hlog : shifted.1.mantissa.log2 = 52 ∧ shifted.2 ≤ e₁ + 1 ∧ e₁ ≤ shifted.2 := by
    by_cases hpower : r = 2 ^ 53
    · have hagain : roundedExponent r e₁ = e₁ + 1 := by
        unfold roundedExponent
        rw [hpower, Nat.log2_two_pow]
        omega
      rw [hagain] at hsnd hmantissa
      rw [hmantissa, hpower, show (e₁ + 1 - e₁).toNat = 1 by omega]
      exact ⟨by decide, by omega, by omega⟩
    · have hrlog : r.log2 = 52 := (Nat.log2_eq_iff (by omega)).mpr ⟨hfull, by omega⟩
      have hagain : roundedExponent r e₁ = e₁ := by
        unfold roundedExponent
        omega
      rw [hagain] at hsnd hmantissa
      rw [hmantissa, show (e₁ - e₁).toNat = 0 by omega, Nat.pow_zero, Nat.div_one]
      exact ⟨hrlog, by omega, by omega⟩
  obtain ⟨hlog, hupper, hlower⟩ := hlog
  have hpos : shifted.1.mantissa ≠ 0 := by
    intro hzero
    rw [hzero] at hlog
    exact absurd hlog (by decide)
  rw [dif_neg hpos]
  exact ⟨_, _, _, rfl, hlog, by omega, by omega⟩

/-- A number that is two at least and not too large stays so when it is rounded. -/
theorem reachesTwo_pack_round {s : Sign} {m : Nat} {e : Int} (hbits : 52 ≤ m.log2) (hlow : 1 ≤ m.log2 + e)
    (hhigh : m.log2 + e ≤ 1022) :
    reachesTwo (.ofModel (.pack (roundWithAccuracy .binary64 s m e .exact))) = true := by
  obtain ⟨m', e', hm', hround, hlog, hlower, hupper⟩ := exists_round_eq_finite s hbits (show -1022 ≤ m.log2 + e by omega)
  rw [hround]
  exact reachesTwo_pack hlog (by omega) (by omega)

/-- The powers of ten that numbers are divided by are finite and not too small. -/
theorem reachesTwo_powerOfTen {k : Nat} (hlow : 1 ≤ k) (hhigh : k ≤ 308) :
    reachesTwo (Float.ofScientific 1 false k) = true := by
  by_cases hsmall : k ≤ 22
  · -- the exact powers, each on its own
    have htable : ∀ k < 23, 1 ≤ k → reachesTwo (Float.ofScientific 1 false k) = true := by decide
    exact htable k (by omega) hlow
  by_cases hlast : k = 308
  · -- the last one is so near to the largest float that its bits are needed
    rw [hlast]
    decide +kernel
  · rw [ofScientific_eq (by omega) (by decide) (by omega)]
    -- the others have more bits than a mantissa holds
    have hshift : 1 <<< 53 * 10 ^ k = (10 ^ k) <<< 53 := by
      rw [Nat.shiftLeft_eq, Nat.shiftLeft_eq, Nat.one_mul, Nat.mul_comm]
    have hupper : (10 ^ k).log2 ≤ 1022 := by
      refine log2_le_of_lt (lt_of_le_of_lt (Nat.pow_le_pow_right (by decide) (show k ≤ 307 by omega)) ?_)
      decide +kernel
    have hlower : 2 ^ 54 ≤ (10 ^ k) <<< 53 := by
      have hten : 10 ^ 1 ≤ 10 ^ k := Nat.pow_le_pow_right (by decide) hlow
      rw [Nat.shiftLeft_eq]
      omega
    have hlog := log2_shiftLeft_le (10 ^ k) 53
    rw [hshift]
    generalize (10 ^ k) <<< 53 = product at hlower hlog ⊢
    have hbits : 54 ≤ product.log2 := (Nat.le_log2 (by omega)).mpr hlower
    exact reachesTwo_pack_round (by omega) (by omega) (by omega)

end Signalbox
