import Mathlib.Data.List.TakeWhile

/-!
# Where a row of characters ends

A reader that takes characters of a class as long as there are any stops where the text does not go on with one.
-/

namespace Signalbox.Text

/-- The text does not go on with a character of the class. -/
def Ends (p : Char → Bool) (cs : List Char) : Prop :=
  ∀ c ∈ cs.head?, p c = false

variable {p : Char → Bool} {cs rest : List Char}

theorem ends_cons {c : Char} (h : p c = false) (cs : List Char) : Ends p (c :: cs) := by
  intro c' hc'
  obtain rfl := Option.some.inj hc'
  exact h

theorem ends_append (hcs : cs ≠ []) (h : ∀ c ∈ cs, p c = false) (rest : List Char) : Ends p (cs ++ rest) := by
  cases cs with
  | nil => exact absurd rfl hcs
  | cons c cs => exact ends_cons (h c List.mem_cons_self) _

/-- Where the characters of a sort are dropped, their run has ended. -/
theorem ends_dropWhile (p : Char → Bool) (cs : List Char) : Ends p (cs.dropWhile p) := by
  induction cs with
  | nil => exact nofun
  | cons c cs ih =>
    by_cases hc : p c = true
    · rw [List.dropWhile_cons_of_pos hc]
      exact ih
    · rw [List.dropWhile_cons_of_neg hc]
      exact ends_cons (Bool.eq_false_iff.mpr hc) cs

/-- A row of characters of a class is taken as a whole when the text does not go on with one. -/
theorem takeWhile_of_ends (hcs : ∀ c ∈ cs, p c = true) (hrest : Ends p rest) : (cs ++ rest).takeWhile p = cs := by
  rw [List.takeWhile_append_of_pos hcs]
  cases rest with
  | nil => exact List.append_nil cs
  | cons c rest => rw [List.takeWhile_cons_of_neg (by rw [hrest c rfl]; exact Bool.false_ne_true), List.append_nil]

/-- Dropping the characters of a sort leaves what stands behind their run. -/
theorem dropWhile_of_ends (hcs : ∀ c ∈ cs, p c = true) (hrest : Ends p rest) : (cs ++ rest).dropWhile p = rest := by
  rw [List.dropWhile_append_of_pos hcs]
  cases rest with
  | nil => rfl
  | cons c rest => exact List.dropWhile_cons_of_neg (by rw [hrest c rfl]; exact Bool.false_ne_true)

end Signalbox.Text
