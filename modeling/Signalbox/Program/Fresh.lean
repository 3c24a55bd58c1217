import Signalbox.Program.Basic

/-!
# New ids

A new id is one that no block of the program has. Dummies are numbered in order, each number given out
once; other blocks get a number that was drawn at random, written with the digits and letters. Both
searches end because a program has finitely many ids.
-/

namespace Signalbox

/-- The id of a dummy with a number. -/
def dummyName (n : Nat) : String :=
  s!"DUMMY_{n}"

/-- The first number from `n` on whose name is not used. Of `fuel + 1` names one is not, where `fuel` is the
count of used ids. -/
def firstUnused (name : Nat → String) (used : List String) : (fuel : Nat) → (n : Nat) → Nat
  | 0, n => n
  | fuel + 1, n => if name n ∈ used then firstUnused name used fuel (n + 1) else n

/-- The digits and letters that ids are written with. -/
def idDigits : List Char :=
  "0123456789abcdefghijklmnopqrstuvwxyz".toList

/-- A number with its last digit first. -/
def idDigitsOf (n : Nat) : List Char :=
  let digit := idDigits.getD (n % 36) '0'
  if n < 36 then [digit] else digit :: idDigitsOf (n / 36)
termination_by n

/-- A number written with the digits and letters. -/
def idOfNumber (n : Nat) : String :=
  String.ofList (idDigitsOf n).reverse

/-- The numbers drawn for ids are below this. -/
def idSpace : Nat := 10000000000

namespace Program

/-- The number of the next dummy, from a count on. -/
def nextDummy (p : Program) (count : Nat) : Nat :=
  firstUnused dummyName p.ids p.ids.length count

/-- The id of a new block for a number drawn. -/
def newId (p : Program) (drawn : Nat) : String :=
  idOfNumber (firstUnused idOfNumber p.ids p.ids.length drawn)

end Program

end Signalbox
