import Mathlib.Data.List.Basic
import Signalbox.Json.Number

/-!
# The characters of numbers

A text that is written for a number holds no character but digits and a few marks, whatever the number is and whatever
layout it has. So it holds no blank, no quotation mark and no newline, and what is written around it can be told from it.

Main results:

* `Layout.areMarks_write`: floats.
* `Number.areMarks_text`: numbers of documents.
-/

namespace Signalbox

/-- The characters that numbers are written with, those of `NaN` and `inf` among them. -/
def isMark (c : Char) : Bool :=
  c.isDigit || ['.', 'e', '+', '-', 'N', 'a', 'i', 'n', 'f'].contains c

/-- A text has no other characters than numbers have. -/
def AreMarks (cs : List Char) : Prop :=
  cs.all isMark = true

namespace AreMarks

variable {cs ds : List Char}

theorem isMark_of_mem (h : AreMarks cs) {c : Char} (hc : c ∈ cs) : isMark c = true :=
  List.all_eq_true.mp h c hc

theorem append (hcs : AreMarks cs) (hds : AreMarks ds) : AreMarks (cs ++ ds) := by
  rw [AreMarks, List.all_append, hcs, hds]
  rfl

theorem of_subset (hds : AreMarks ds) (h : cs ⊆ ds) : AreMarks cs :=
  List.all_eq_true.mpr fun _ hc => hds.isMark_of_mem (h hc)

/-- The digits of a number are marks. -/
theorem toDigits (n : Nat) : AreMarks (Nat.toDigits 10 n) := by
  refine List.all_eq_true.mpr fun c hc => ?_
  have hdigit : c.isDigit = true := Nat.isDigit_of_mem_toDigits (by decide) (by decide) hc
  rw [isMark, hdigit, Bool.true_or]

/-- Zeros are marks. -/
theorem zeros (n : Nat) : AreMarks (List.replicate n '0') := by
  refine List.all_eq_true.mpr fun c hc => ?_
  rw [(List.mem_replicate.mp hc).2]
  rfl

end AreMarks

namespace Decimal

variable {digits : List Char}

/-- The digits of a decimal are marks. -/
theorem areMarks_significand (d : Decimal) : AreMarks d.significand.1 := by
  unfold significand
  dsimp only
  split
  next => exact .zeros 1
  next =>
    refine (AreMarks.toDigits d.digits).of_subset fun c hc => ?_
    exact List.mem_reverse.mp ((List.dropWhile_sublist _).mem (List.mem_reverse.mp hc))

/-- So are digits with a point among them. -/
theorem areMarks_positional (h : AreMarks digits) (point : Int) (keepsFraction : Bool) :
    AreMarks (positional digits point keepsFraction) := by
  unfold positional
  split
  next =>
    have hpoint : AreMarks ['0', '.'] := rfl
    exact (hpoint.append (.zeros _)).append h
  next =>
    split
    next =>
      have hfraction : AreMarks (if keepsFraction then ['.', '0'] else []) := by
        cases keepsFraction <;> rfl
      exact (h.append (.zeros _)).append hfraction
    next =>
      have hpoint : AreMarks ['.'] := rfl
      exact ((h.of_subset (List.take_subset _ _)).append hpoint).append (h.of_subset (List.drop_subset _ _))

/-- So are digits with an exponent. -/
theorem areMarks_scientific (h : AreMarks digits) (point : Int) : AreMarks (scientific digits point) := by
  unfold scientific
  dsimp only
  refine (AreMarks.append ?_ ?_).append (.toDigits _)
  · match digits with
    | [] => exact h
    | [first] => exact h
    | first :: second :: others =>
      have hfirst : AreMarks [first, '.'] := by
        rw [AreMarks, List.all_cons, h.isMark_of_mem List.mem_cons_self]
        rfl
      exact hfirst.append (h.of_subset (List.subset_cons_self _ _))
  · split <;> rfl

/-- Whatever the layout, a decimal is written with marks. -/
theorem areMarks_write (layout : Layout) (d : Decimal) : AreMarks (d.write layout) := by
  unfold write
  split
  next => split <;> rfl
  next =>
    have hdigits := areMarks_significand d
    dsimp only
    split_ifs
    · exact areMarks_scientific hdigits _
    · exact areMarks_positional hdigits _ _

end Decimal

/-- So is a float. -/
theorem Layout.areMarks_write (layout : Layout) (x : Float) : AreMarks (layout.write x).toList := by
  unfold write
  split
  next => split_ifs <;> rfl
  next b _ =>
    rw [String.toList_ofList]
    have hsign : AreMarks (if isSigned x then ['-'] else []) := by
      split <;> rfl
    exact hsign.append (b.shortest.areMarks_write layout)

namespace Number

/-- A whole number is written with marks. -/
theorem areMarks_repr (n : Nat) : AreMarks (toString n).toList := by
  have hdigits : (toString n).toList = Nat.toDigits 10 n := String.toList_ofList
  rw [hdigits]
  exact .toDigits n

/-- So is every number of a document. -/
theorem areMarks_text (n : Number) : AreMarks n.text.toList := by
  cases n with
  | float x => exact Layout.document.areMarks_write x
  | int n =>
    cases n with
    | ofNat n => exact areMarks_repr n
    | negSucc n =>
      have hsign : (toString (Int.negSucc n)).toList = '-' :: (toString (n + 1)).toList := String.toList_append
      show AreMarks (toString (Int.negSucc n)).toList
      have hminus : AreMarks ['-'] := rfl
      rw [hsign]
      exact hminus.append (areMarks_repr (n + 1))

end Number

end Signalbox
