import Mathlib.Data.List.TakeWhile
import Signalbox.Json.Printer
import Signalbox.Proofs.Json.Token

/-!
# Numbers that are read back

A whole number in range is written with its digits and read back from them.

Main results:

* `Number.rereads_int`: whole numbers.
-/

namespace Signalbox

/-- The number is read back, as it was, from the text that is written for it. -/
def Number.Rereads (n : Number) : Prop :=
  ∃ parts, Json.readParts (Json.encodeNumber n) = .ok (parts, []) ∧ Number.ofParts? parts = some n

namespace Json

/-! ## Digits -/

/-- A number is written in decimal digits. -/
theorem isAsciiDigit_of_mem_toDigits {c : Char} {n : Nat} (h : c ∈ Nat.toDigits 10 n) :
    Text.isAsciiDigit c = true := by
  have hdigit : c.isDigit = true := Nat.isDigit_of_mem_toDigits (by decide) (by decide) h
  simpa [Text.isAsciiDigit, Char.isDigit, Char.le_def] using hdigit

/-- A number other than zero is written without a leading zero. -/
theorem head_toDigits_ne_zero {n : Nat} (h : n ≠ 0) : (Nat.toDigits 10 n).head? ≠ some '0' := by
  induction n using Nat.strongRecOn with
  | _ n ih =>
    by_cases hsmall : n < 10
    · have hdigit : ∀ m < 10, m ≠ 0 → [Nat.digitChar m].head? ≠ some '0' := by decide
      rw [Nat.toDigits_of_lt_base hsmall]
      exact hdigit n hsmall h
    · -- the first digit of n is that of n / 10
      have hhead := ih (n / 10) (by omega) (by omega)
      obtain ⟨c, cs, hcs⟩ := List.exists_cons_of_ne_nil (Nat.toDigits_ne_nil (n := n / 10) (b := 10))
      rw [Nat.toDigits_of_base_le (by decide) (by omega), hcs]
      rw [hcs] at hhead
      exact hhead

/-- The digits of a number are read to their end. -/
theorem readDigits_toDigits (n : Nat) : readDigits (Nat.toDigits 10 n) = .ok (Nat.toDigits 10 n, []) := by
  have hdigits : ∀ c ∈ Nat.toDigits 10 n, Text.isAsciiDigit c = true := fun c => isAsciiDigit_of_mem_toDigits
  unfold readDigits
  dsimp only
  rw [List.takeWhile_eq_self_iff.mpr hdigits, List.dropWhile_eq_nil_iff.mpr hdigits,
    if_neg (by simp)]

/-- The digits of a number are a whole part, since none but zero itself starts with a zero. -/
theorem readWhole_toDigits (n : Nat) : readWhole (Nat.toDigits 10 n) = .ok (Nat.toDigits 10 n, []) := by
  by_cases hzero : n = 0
  · subst hzero
    rfl
  · have hhead := head_toDigits_ne_zero hzero
    rw [← readDigits_toDigits]
    unfold readWhole
    split
    next rest heq =>
      rw [heq] at hhead
      exact absurd rfl hhead
    next => rfl

/-- The digits of a number have no sign in front. -/
theorem splitSign_toDigits (n : Nat) : splitSign (Nat.toDigits 10 n) = (false, Nat.toDigits 10 n) := by
  unfold splitSign
  split
  next rest heq =>
    have hminus : Text.isAsciiDigit '-' = true :=
      isAsciiDigit_of_mem_toDigits (n := n) (heq ▸ List.mem_cons_self)
    exact absurd hminus (by decide)
  next => rfl

/-- A signed whole number is read as its sign and its digits. -/
theorem readParts_toDigits {cs : List Char} {negative : Bool} {n : Nat}
    (h : splitSign cs = (negative, Nat.toDigits 10 n)) :
    readParts cs = .ok (⟨negative, Nat.toDigits 10 n, none, none⟩, []) := by
  refine readParts_eq_ok.mpr ⟨Nat.toDigits 10 n, [], none, [], none, ?_, rfl, rfl, ?_⟩
  · rw [h]
    exact readWhole_toDigits n
  · rw [h]

/-- Digits that stay below the largest integer are all collected. -/
theorem collectWhole_eq_ofDigitChars {count : Nat} (cs : List Char)
    (h : Nat.ofDigitChars 10 cs count ≤ Number.largestInt) :
    Number.collectWhole count cs = (Nat.ofDigitChars 10 cs count, 0) := by
  induction cs generalizing count with
  | nil => rfl
  | cons c cs ih =>
    rw [Nat.ofDigitChars_cons] at h ⊢
    -- the digits so far are no more than all of them
    have hnext : 10 * count + (c.toNat - 48) ≤ Number.largestInt := by
      refine le_trans ?_ h
      rw [Nat.ofDigitChars_eq_ofDigitChars_zero]
      have hpos : 1 ≤ 10 ^ cs.length := Nat.one_le_pow _ _ (by decide)
      exact le_add_right (Nat.le_mul_of_pos_left _ hpos)
    rw [Number.collectWhole]
    exact (if_pos hnext).trans (ih h)

/-- Collecting the digits of a number gives the number back. -/
theorem collectWhole_toDigits {n : Nat} (h : n ≤ Number.largestInt) :
    Number.collectWhole 0 (Nat.toDigits 10 n) = (n, 0) := by
  have hdigits : Nat.ofDigitChars 10 (Nat.toDigits 10 n) 0 = n := Nat.ofDigitChars_ten_toDigits
  rw [collectWhole_eq_ofDigitChars _ (by rwa [hdigits]), hdigits]

end Json

/-- A whole number in range is read back from its digits. -/
theorem Number.rereads_int {n : Int} (h : (Number.int n).InRange) : (Number.int n).Rereads := by
  obtain ⟨hlow, hhigh⟩ := h
  cases n with
  | ofNat n =>
    -- at most 2 ^ 64 - 1 without a sign
    have hn : n ≤ largestInt := Int.ofNat_le.mp hhigh
    refine ⟨⟨false, Nat.toDigits 10 n, none, none⟩, ?_, ?_⟩
    · have hencode : Json.encodeNumber (.int (Int.ofNat n)) = Nat.toDigits 10 n := Nat.toList_repr
      exact Json.readParts_toDigits (hencode ▸ Json.splitSign_toDigits n)
    · unfold ofParts?
      dsimp only
      rw [Json.collectWhole_toDigits hn]
      rfl
  | negSucc n =>
    -- at most 2 ^ 63 after a minus
    have hn : n + 1 ≤ 0x8000000000000000 := by omega
    have hlargest : largestInt = 2 ^ 64 - 1 := rfl
    refine ⟨⟨true, Nat.toDigits 10 (n + 1), none, none⟩, ?_, ?_⟩
    · have hencode : Json.encodeNumber (.int (Int.negSucc n)) = '-' :: Nat.toDigits 10 (n + 1) := by
        change ("-" ++ Nat.repr (n + 1)).toList = _
        rw [String.toList_append, Nat.toList_repr]
        rfl
      exact Json.readParts_toDigits (hencode ▸ rfl)
    · unfold ofParts?
      dsimp only
      rw [Json.collectWhole_toDigits (by omega)]
      rw [if_pos ⟨rfl, rfl, rfl⟩, if_neg (by simp), if_neg (by omega)]
      rfl

namespace Json

end Json

end Signalbox
