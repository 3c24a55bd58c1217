import Mathlib.Data.List.Nodup
import Mathlib.Data.List.Perm.Subperm
import Mathlib.Order.Bounds.Defs
import Signalbox.Program.Fresh

/-!
# New ids are new

The search for a new id goes through names that are all different, one more of them than there are ids in
use, so it ends at one that is not in use. The ids of dummies and of other blocks are not empty and never the
same.

Main results:

* `Program.isLeast_nextDummy`: the number of the next dummy is the least one that is left.
* `Program.dummyName_nextDummy_not_mem` / `Program.newId_not_mem`: a new id is not in use.
* `idOfNumber_ne_dummyName`: the two sorts of ids never meet.
-/

namespace Signalbox

/-! ## The search -/

/-- The search passes over names in use only, so it ends at the first name that is not in use, if one lies
within its reach. -/
theorem isLeast_firstUnused_of_exists {name : Nat → String} {used : List String} {fuel n : Nat}
    (h : ∃ k, n ≤ k ∧ k ≤ n + fuel ∧ name k ∉ used) :
    IsLeast {k | n ≤ k ∧ name k ∉ used} (firstUnused name used fuel n) := by
  induction fuel generalizing n with
  | zero =>
    obtain ⟨k, hlow, hhigh, hk⟩ := h
    obtain rfl : k = n := by omega
    exact ⟨⟨Nat.le_refl k, hk⟩, fun _ hm => hm.1⟩
  | succ fuel ih =>
    rw [firstUnused]
    by_cases hused : name n ∈ used
    · rw [if_pos hused]
      have hne {m : Nat} (hm : name m ∉ used) : m ≠ n := fun he => hm (he ▸ hused)
      obtain ⟨k, hlow, hhigh, hk⟩ := h
      have hkne := hne hk
      have hnext : IsLeast {k | n + 1 ≤ k ∧ name k ∉ used} (firstUnused name used fuel (n + 1)) :=
        ih ⟨k, by omega, by omega, hk⟩
      obtain ⟨⟨hfrom, hunused⟩, hleast⟩ := hnext
      refine ⟨⟨by omega, hunused⟩, fun m hm => hleast ⟨?_, hm.2⟩⟩
      -- the first name is in use, so it is another one that is not
      have hmne := hne hm.2
      have hmfrom := hm.1
      omega
    · rw [if_neg hused]
      exact ⟨⟨Nat.le_refl n, hused⟩, fun _ hm => hm.1⟩

/-- Of `used.length + 1` different names one is not in use. -/
theorem exists_name_not_mem {name : Nat → String} (hname : Function.Injective name) (used : List String)
    (n : Nat) : ∃ k, n ≤ k ∧ k ≤ n + used.length ∧ name k ∉ used := by
  by_contra hall
  push Not at hall
  -- otherwise all those names are ids in use
  have hsubset : (List.range' n (used.length + 1)).map name ⊆ used := by
    intro x hx
    obtain ⟨k, hk, rfl⟩ := List.mem_map.mp hx
    rw [List.mem_range'_1] at hk
    exact hall k hk.1 (by omega)
  have hnodup : ((List.range' n (used.length + 1)).map name).Nodup :=
    List.Nodup.map hname (List.nodup_range' 1 (by decide))
  -- pigeonhole
  have hlength := (List.subperm_of_subset hnodup hsubset).length_le
  rw [List.length_map, List.length_range'] at hlength
  omega

/-- The search for an unused name ends at the least number whose name is free. -/
theorem isLeast_firstUnused {name : Nat → String} (hname : Function.Injective name) (used : List String)
    (n : Nat) : IsLeast {k | n ≤ k ∧ name k ∉ used} (firstUnused name used used.length n) :=
  isLeast_firstUnused_of_exists (exists_name_not_mem hname used n)

/-! ## The names of dummies -/

/-- A holder's name is its stem and its number. -/
theorem dummyName_toList (n : Nat) :
    (dummyName n).toList = ['D', 'U', 'M', 'M', 'Y', '_'] ++ Nat.toDigits 10 n := by
  have h : dummyName n = "DUMMY_" ++ n.repr := by
    simp [dummyName, toString]
  rw [h, String.toList_append, Nat.toList_repr]
  rfl

/-- Holders with different numbers have different names. -/
theorem dummyName_injective : Function.Injective dummyName := by
  intro a b h
  have hdigits : Nat.toDigits 10 a = Nat.toDigits 10 b := by
    have hlist := congrArg String.toList h
    rw [dummyName_toList, dummyName_toList] at hlist
    exact List.append_cancel_left hlist
  rw [← Nat.ofDigitChars_ten_toDigits (n := a), hdigits, Nat.ofDigitChars_ten_toDigits]

/-- A holder's name is not empty. -/
theorem dummyName_ne_empty (n : Nat) : dummyName n ≠ "" := by
  intro h
  have hlist := congrArg String.toList h
  rw [dummyName_toList] at hlist
  exact absurd hlist (by simp)

/-! ## The names of other blocks -/

/-- Different digits are written with different characters. -/
theorem idDigits_getD_inj {a b : Nat} (ha : a < 36) (hb : b < 36)
    (h : idDigits.getD a '0' = idDigits.getD b '0') : a = b := by
  have hall : ∀ i j : Fin 36, idDigits.getD i '0' = idDigits.getD j '0' → i = j := by decide
  exact congrArg Fin.val (hall ⟨a, ha⟩ ⟨b, hb⟩ h)

theorem idDigitsOf_ne_nil (n : Nat) : idDigitsOf n ≠ [] := by
  rw [idDigitsOf]
  split <;> simp

/-- Different numbers have different digits. -/
theorem idDigitsOf_injective : Function.Injective idDigitsOf := by
  intro a
  induction a using Nat.strongRecOn with
  | ind a ih =>
    intro b h
    rw [idDigitsOf, idDigitsOf.eq_1 b] at h
    -- the last digits agree, then the numbers without them
    have hlast : a % 36 = b % 36 := by
      refine idDigits_getD_inj (Nat.mod_lt a (by decide)) (Nat.mod_lt b (by decide)) ?_
      split_ifs at h <;> exact (List.cons.inj h).1
    by_cases ha : a < 36
    · by_cases hb : b < 36
      · omega
      · rw [if_pos ha, if_neg hb] at h
        exact absurd (List.cons.inj h).2.symm (idDigitsOf_ne_nil (b / 36))
    · by_cases hb : b < 36
      · rw [if_neg ha, if_pos hb] at h
        exact absurd (List.cons.inj h).2 (idDigitsOf_ne_nil (a / 36))
      · rw [if_neg ha, if_neg hb] at h
        have hrest : a / 36 = b / 36 := ih (a / 36) (by omega) (List.cons.inj h).2
        omega

/-- Different numbers give different ids. -/
theorem idOfNumber_injective : Function.Injective idOfNumber := by
  intro a b h
  have hlist := congrArg String.toList h
  rw [idOfNumber, idOfNumber, String.toList_ofList, String.toList_ofList] at hlist
  exact idDigitsOf_injective (List.reverse_injective hlist)

/-- An id made of a number is not empty. -/
theorem idOfNumber_ne_empty (n : Nat) : idOfNumber n ≠ "" := by
  intro h
  have hlist := congrArg String.toList h
  rw [idOfNumber, String.toList_ofList] at hlist
  exact idDigitsOf_ne_nil n (List.reverse_eq_nil_iff.mp hlist)

/-- An id is written in the digits that ids have. -/
theorem mem_idDigits_of_mem_idDigitsOf {n : Nat} {c : Char} (h : c ∈ idDigitsOf n) : c ∈ idDigits := by
  induction n using Nat.strongRecOn with
  | ind n ih =>
    have hdigit : ∀ i : Fin 36, idDigits.getD i '0' ∈ idDigits := by decide
    have hlast := hdigit ⟨n % 36, Nat.mod_lt n (by decide)⟩
    rw [idDigitsOf] at h
    split_ifs at h with hn
    · rw [List.mem_singleton.mp h]
      exact hlast
    · rcases List.mem_cons.mp h with rfl | h
      · exact hlast
      · exact ih (n / 36) (by omega) h

/-- A dummy's id has a character that other ids are not written with. -/
theorem idOfNumber_ne_dummyName (n m : Nat) : idOfNumber n ≠ dummyName m := by
  intro h
  -- the capital letter of a dummy
  have hmem : 'D' ∈ (idOfNumber n).toList := by
    rw [h, dummyName_toList]
    exact List.mem_cons_self
  rw [idOfNumber, String.toList_ofList, List.mem_reverse] at hmem
  exact absurd (mem_idDigits_of_mem_idDigitsOf hmem) (by decide)

namespace Program

/-- The next dummy has the least number, from a count on, whose name no block has. -/
theorem isLeast_nextDummy (p : Program) (count : Nat) :
    IsLeast {n | count ≤ n ∧ dummyName n ∉ p.ids} (p.nextDummy count) :=
  isLeast_firstUnused dummyName_injective p.ids count

/-- The next holder's name is not in the program. -/
theorem dummyName_nextDummy_not_mem (p : Program) (count : Nat) :
    dummyName (p.nextDummy count) ∉ p.ids :=
  (p.isLeast_nextDummy count).1.2

/-- The search passes over one number for each block at most. -/
theorem nextDummy_le (p : Program) (count : Nat) : p.nextDummy count ≤ count + p.ids.length := by
  obtain ⟨n, hlow, hhigh, hn⟩ := exists_name_not_mem dummyName_injective p.ids count
  exact Nat.le_trans ((p.isLeast_nextDummy count).2 ⟨hlow, hn⟩) hhigh

/-- A new id is not in the program, whatever number was drawn. -/
theorem newId_not_mem (p : Program) (drawn : Nat) : p.newId drawn ∉ p.ids :=
  (isLeast_firstUnused idOfNumber_injective p.ids drawn).1.2

/-- A new id is not empty. -/
theorem newId_ne_empty (p : Program) (drawn : Nat) : p.newId drawn ≠ "" :=
  idOfNumber_ne_empty _

end Program

end Signalbox
