import Mathlib
import Signalbox.Decimal.Reading
import Signalbox.Proofs.Decimal.Finite

/-!
# Counts that floats hold

A float has 53 bits, so a count of that many bits is a float as it is: nothing is rounded when the count is
converted, and nothing is cut off when it is converted back. All of it comes from one fact about rounding, that
a number of 53 bits with zeros behind them loses the zeros and nothing else.

Main results:

* `roundWithAccuracy_scaled`: a number of 53 bits with zeros behind them.
* `Decimal.toFloat_whole`: the float that is read for a whole number.
* `toUInt64_natToFloat`, `toUInt32_natToFloat`: counts that are converted and converted back.
-/

namespace Signalbox

open Float.Model Float.Model.UnpackedFloat

variable {s : Float.Model.UnpackedFloat.Sign} {m : Nat} {e : Int}

/-! ## Rounding -/

/-- A shift takes zeros off. -/
theorem shiftRight_scaled (m k : Nat) :
    ExtendedMantissa.ofMantissaAndAccuracy (m * 2 ^ k) .exact >>> k =
      ExtendedMantissa.ofMantissaAndAccuracy m .exact := by
  show Nat.repeat ExtendedMantissa.shiftRightOne k ⟨m * 2 ^ k, false, false⟩ = ⟨m, false, false⟩
  induction k generalizing m with
  | zero => rw [Nat.repeat, Nat.pow_zero, Nat.mul_one]
  | succ k ih =>
    rw [Nat.repeat, Nat.pow_succ', ← Nat.mul_assoc, ih (m * 2)]
    simp [ExtendedMantissa.shiftRightOne]

/-- Each factor of two adds one to the length of a number. -/
theorem log2_scaled (hm : 0 < m) (k : Nat) : (m * 2 ^ k).log2 = m.log2 + k := by
  rw [Nat.log2_eq_iff (Nat.mul_pos hm (Nat.two_pow_pos k)).ne', Nat.pow_add, Nat.add_right_comm, Nat.pow_add]
  exact ⟨Nat.mul_le_mul_right _ (Nat.log2_self_le hm.ne'),
    Nat.mul_lt_mul_of_pos_right Nat.lt_log2_self (Nat.two_pow_pos k)⟩

/-- A number of 53 bits is at its exponent once the zeros behind it are taken off. -/
theorem shiftToTargetExponent_scaled (hlog : m.log2 = 52) (hm : 0 < m) (hlow : -1074 ≤ e) (k : Nat) :
    shiftToTargetExponent .binary64 (m * 2 ^ k) (e - k) .exact =
      (ExtendedMantissa.ofMantissaAndAccuracy m .exact, e) := by
  have htarget : Format.binary64.targetExponent (totalExponent (m * 2 ^ k) (e - k)) = e := by
    show max (((m * 2 ^ k).log2 + 1 + (e - k) : Int) - 53) (-1074) = e
    rw [log2_scaled hm, hlog]
    push_cast
    omega
  simp only [shiftToTargetExponent, shiftToExponent, htarget]
  rw [show (e - (e - k)).toNat = k by omega, shiftRight_scaled, Int.sub_add_cancel]

/-- A number of 53 bits with zeros behind them is not rounded. -/
theorem roundWithAccuracy_scaled (hlog : m.log2 = 52) (hm : 0 < m) (hlow : -1074 ≤ e) (k : Nat) :
    roundWithAccuracy .binary64 s (m * 2 ^ k) (e - k) .exact = .finite s m e hm := by
  have hfixed : shiftToTargetExponent .binary64 m e .exact =
      (ExtendedMantissa.ofMantissaAndAccuracy m .exact, e) := by
    have hscaled := shiftToTargetExponent_scaled hlog hm hlow 0
    rwa [Nat.pow_zero, Nat.mul_one, Int.natCast_zero, Int.sub_zero] at hscaled
  have hexact : (ExtendedMantissa.ofMantissaAndAccuracy m .exact).roundedMantissa = m := rfl
  simp only [roundWithAccuracy, shiftToTargetExponent_scaled hlog hm hlow, hexact, hfixed]
  exact dif_neg hm.ne'

/-! ## Packing -/

/-- The one in front of the mantissa is left out when a number of 53 bits is packed. -/
theorem toNat_one_append {m : Nat} (hlow : 2 ^ 52 ≤ m) (hhigh : m < 2 ^ 53) :
    (1#1 ++ BitVec.ofNat Format.binary64.mantissaBitsWithoutImplicit m).toNat = m := by
  have hrest : (BitVec.ofNat Format.binary64.mantissaBitsWithoutImplicit m).toNat = m - 2 ^ 52 := by
    show m % 2 ^ 52 = m - 2 ^ 52
    omega
  rw [BitVec.toNat_append, hrest]
  show 2 ^ 52 ||| (m - 2 ^ 52) = m
  rw [Nat.or_comm, Nat.or_two_pow_eq_add_of_lt (by omega)]
  omega

/-- A number of 53 bits is unpacked as it was packed. -/
theorem unpack_pack_normal (hlog : m.log2 = 52) (hm : 0 < m) (hlow : -1074 ≤ e) (hhigh : e ≤ 971) :
    (Float.Model.pack (.finite s m e hm)).unpack = .finite s m e hm := by
  have hle : 2 ^ 52 ≤ m := hlog ▸ Nat.log2_self_le hm.ne'
  have hlt : m < 2 ^ (m.log2 + 1) := Nat.lt_log2_self
  rw [hlog] at hlt
  have hexponent : (BitVec.ofNat Format.binary64.exponentBits (e + 1075).toNat).toNat = (e + 1075).toNat := by
    show (e + 1075).toNat % 2048 = (e + 1075).toNat
    omega
  -- the bits of the exponent are neither all zeros nor all ones
  have hones : BitVec.ofNat Format.binary64.exponentBits (e + 1075).toNat ≠ -1#_ := by
    intro h
    have heq : (e + 1075).toNat = 2047 := hexponent.symm.trans (congrArg BitVec.toNat h)
    omega
  have hzeros : BitVec.ofNat Format.binary64.exponentBits (e + 1075).toNat ≠ 0#_ := by
    intro h
    have heq : (e + 1075).toNat = 0 := hexponent.symm.trans (congrArg BitVec.toNat h)
    omega
  have hbias : ((e + 1075).toNat : Int) - (Format.exponentBias .binary64 +
      Format.binary64.mantissaBitsWithoutImplicit) = e := by
    show ((e + 1075).toNat : Int) - (1023 + 52) = e
    omega
  show UnpackedFloat.unpack .binary64 (UnpackedFloat.pack .binary64 (.finite s m e hm)) = _
  rw [pack_normal hlog hlow hhigh]
  simp only [UnpackedFloat.unpack, unpackMantissa_packComponents, unpackExponent_packComponents,
    unpackSign_packComponents, hexponent, toNat_one_append hle hlt, if_neg hones, if_neg hzeros, hbias,
    Float.Model.UnpackedFloat.Sign.ofBitVec_toBitVec]

/-- A number whose power of two is beyond that of every float is packed as an infinity. -/
theorem pack_beyond {hm : 0 < m} (h : 972 ≤ e) : Float.Model.pack (.finite s m e hm) = .pack (.infinity s) := by
  have hlarge : 2 ^ Format.binary64.exponentBits ≤
      (e + Format.exponentBias .binary64 + Format.binary64.mantissaBitsWithoutImplicit).toNat + 1 := by
    show 2048 ≤ (e + 1023 + 52).toNat + 1
    omega
  have hpack : UnpackedFloat.pack .binary64 (.finite s m e hm) = UnpackedFloat.pack .binary64 (.infinity s) :=
    if_pos hlarge
  unfold Float.Model.pack
  simp only [hpack]

/-! ## Counts -/

/-- A count of 53 bits, moved so far that its first one is the first of a mantissa. -/
theorem log2_aligned {n : Nat} (hpos : 0 < n) (h : n < 2 ^ 53) : (n * 2 ^ (52 - n.log2)).log2 = 52 := by
  have hlog : n.log2 ≤ 52 := log2_le_of_lt h
  rw [log2_scaled hpos]
  omega

section

variable {n : Nat} (hpos : 0 < n) (h : n < 2 ^ 53)

include hpos h

/-- A whole number of up to 53 bits is unpacked with all of them. -/
theorem ofNat_eq (hm : 0 < n * 2 ^ (52 - n.log2)) :
    UnpackedFloat.ofNat .binary64 n = .finite .positive (n * 2 ^ (52 - n.log2)) (n.log2 - 52) hm := by
  have hlog : n.log2 ≤ 52 := log2_le_of_lt h
  have hcompare : compare (n : Int) 0 = .gt := Int.compare_eq_gt.mpr (by omega)
  have htarget : Format.binary64.targetExponent (totalExponent n 0) = n.log2 - 52 := by
    show max ((n.log2 + 1 + 0 : Int) - 53) (-1074) = n.log2 - 52
    omega
  have hshift : (0 - ((n.log2 : Int) - 52)).toNat = 52 - n.log2 := by omega
  -- nothing is lost where the number is shifted to the left
  have hround := roundWithAccuracy_scaled (s := .positive) (log2_aligned hpos h) hm
    (e := n.log2 - 52) (by omega) 0
  rw [Nat.pow_zero, Nat.mul_one, Int.natCast_zero, Int.sub_zero] at hround
  show UnpackedFloat.normalize .binary64 n 0 .positive = _
  simp only [UnpackedFloat.normalize, hcompare, UnpackedFloat.round, htarget, decreaseExponent, hshift,
    Int.toNat_natCast, Nat.shiftLeft_eq]
  rw [← hround]
  congr 1
  omega

/-- A count of 53 bits is converted as it is. -/
theorem unpack_natToFloat (hm : 0 < n * 2 ^ (52 - n.log2)) :
    n.toFloat.toModel.unpack = .finite .positive (n * 2 ^ (52 - n.log2)) (n.log2 - 52) hm := by
  have hlog : n.log2 ≤ 52 := log2_le_of_lt h
  have halign := log2_aligned hpos h
  -- the count is converted from a machine word and multiplied by one
  have hword : n.toUInt64.toFloat.toModel.unpack =
      .finite .positive (n * 2 ^ (52 - n.log2)) (n.log2 - 52) hm := by
    have hsize : n.toUInt64.toNat = n := Nat.mod_eq_of_lt (show n < 2 ^ 64 by omega)
    show (Float.Model.pack (UnpackedFloat.ofNat .binary64 n.toUInt64.toNat)).unpack = _
    rw [hsize, ofNat_eq hpos h hm, unpack_pack_normal halign hm (by omega) (by omega)]
  have hone : (Float.ofBits 0x3FF0000000000000).toModel.unpack =
      .finite .positive (2 ^ 52) (-52) (Nat.two_pow_pos 52) := rfl
  have hproduct : n.toFloat = n.toUInt64.toFloat * Float.ofBits 0x3FF0000000000000 := by
    show Float.ofScientific n false 0 = _
    unfold Float.ofScientific
    rw [dif_pos ⟨h, by decide⟩]
    rfl
  have hround := roundWithAccuracy_scaled (s := .positive) halign hm (e := n.log2 - 52) (by omega) 52
  have hmul : UnpackedFloat.mul .binary64 n.toUInt64.toFloat.toModel.unpack
      (Float.ofBits 0x3FF0000000000000).toModel.unpack =
      .finite .positive (n * 2 ^ (52 - n.log2)) (n.log2 - 52) hm := by
    rw [hword, hone]
    exact hround
  rw [hproduct]
  show (Float.Model.pack (UnpackedFloat.mul .binary64 n.toUInt64.toFloat.toModel.unpack
    (Float.ofBits 0x3FF0000000000000).toModel.unpack)).unpack = _
  rw [hmul, unpack_pack_normal halign hm (by omega) (by omega)]

/-- A count of 53 bits is cut off nowhere. -/
theorem toInt_natToFloat (low high : Int) : n.toFloat.toModel.unpack.toInt low high = n := by
  have hlog : n.log2 ≤ 52 := log2_le_of_lt h
  have hm : 0 < n * 2 ^ (52 - n.log2) := Nat.mul_pos hpos (Nat.two_pow_pos _)
  have hleft : ((n.log2 : Int) - 52 - 0).toNat = 0 := by omega
  have hright : (0 - ((n.log2 : Int) - 52 - ((0 : Nat) : Int))).toNat = 52 - n.log2 := by omega
  rw [unpack_natToFloat hpos h hm]
  simp only [UnpackedFloat.toInt, roundToInt, decreaseExponent, hleft, Nat.shiftLeft_zero, shiftToExponent, hright,
    shiftRight_scaled]
  rfl

end

/-- A whole number of up to 53 bits comes back from the float that is made of it. -/
theorem toNat_toInt_natToFloat {n : Nat} (h : n < 2 ^ 53) (low high : Int) :
    (n.toFloat.toModel.unpack.toInt low high).toNat = n := by
  by_cases hzero : n = 0
  · subst hzero
    rfl
  · rw [toInt_natToFloat (Nat.pos_of_ne_zero hzero) h, Int.toNat_natCast]

/-- A count of 53 bits is the count again when its float is converted back. -/
theorem toUInt64_natToFloat {n : UInt64} (h : n.toNat < 2 ^ 53) : n.toNat.toFloat.toUInt64 = n := by
  show UInt64.ofNatClamp (n.toNat.toFloat.toModel.unpack.toInt _ _).toNat = n
  rw [toNat_toInt_natToFloat h]
  unfold UInt64.ofNatClamp
  rw [dif_pos n.toNat_lt]
  rfl

/-- A count of 32 bits is the count again when its float is converted back. -/
theorem toUInt32_natToFloat (n : UInt32) : n.toNat.toFloat.toUInt32 = n := by
  have h : n.toNat < 2 ^ 32 := n.toNat_lt
  show UInt32.ofNatClamp (n.toNat.toFloat.toModel.unpack.toInt _ _).toNat = n
  rw [toNat_toInt_natToFloat (by omega)]
  unfold UInt32.ofNatClamp
  rw [dif_pos n.toNat_lt]
  rfl

/-! ## Reading -/

/-- The digits of a count say which count it is. -/
theorem ofDigits_toDigits (n : Nat) : Text.ofDigits (Nat.toDigits 10 n) = n :=
  Nat.ofDigitChars_ten_toDigits

/-- A whole number beyond the largest float is converted to infinity. -/
theorem natToFloat_of_beyond {n : Nat} (h : 1024 ≤ n.log2) : n.toFloat = 1 / 0 := by
  have hn : n ≠ 0 := by
    rintro rfl
    rw [Nat.log2_zero] at h
    omega
  have hshift := log2_scaled (Nat.pos_of_ne_zero hn) 53
  obtain ⟨m', e', hm', hround, -, hlower, -⟩ :=
    exists_round_eq_finite .positive (m := n * 2 ^ 53) (e := -53) (by omega) (by omega)
  have hsmall : ¬ (n < 2 ^ 53 ∧ 0 ≤ 22) := by
    rintro ⟨hlt, -⟩
    have hlog := log2_le_of_lt (k := 52) hlt
    omega
  show Float.ofScientific n false 0 = .ofModel (.pack (.infinity .positive))
  rw [ofScientific_eq hsmall hn (by decide), Nat.pow_zero, Nat.mul_one, Nat.shiftLeft_eq, hround,
    pack_beyond (by omega)]

/-- The float that is read for a whole number is the float that the number is converted to. -/
theorem Decimal.toFloat_whole (n : Nat) : Decimal.toFloat ⟨n, 0⟩ = n.toFloat := by
  unfold Decimal.toFloat
  dsimp only
  by_cases hzero : n = 0
  · subst hzero
    rfl
  · rw [if_neg (by omega)]
    split_ifs with hfar
    · -- with more than 400 digits the number is beyond the largest float
      have hle : 10 ^ 400 ≤ n := by
        by_contra hlt
        have hlength := (Nat.length_toDigits_le_iff (by decide) (by decide)).mpr (Nat.not_le.mp hlt)
        omega
      exact (natToFloat_of_beyond ((Nat.le_log2 hzero).mpr (le_trans (by decide +kernel) hle))).symm
    · rfl

end Signalbox
