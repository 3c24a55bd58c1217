import Signalbox.Decimal.Basic

/-!
# Shortest digits

A float stands for every real number that rounds to it. Of the decimals among those, `shortest`
takes one with the fewest digits, of these the nearest to the float, and of two that are equally near
the even one. Everything is decided on natural numbers: a decimal `d · 10 ^ k` and a binary number
`x · 2 ^ e` are compared after both are multiplied by the powers that clear the negative exponents.
-/

namespace Signalbox

namespace Decimal

/-- `d · 10 ^ k` and `x · 2 ^ e`, multiplied by one common factor that makes both natural numbers. -/
def onCommonScale (d : Nat) (k : Int) (x : Nat) (e : Int) : Nat × Nat :=
  (d * Nat.pow 10 k.toNat * Nat.pow 2 (-e).toNat, x * Nat.pow 2 e.toNat * Nat.pow 10 (-k).toNat)

end Decimal

namespace Binary

/-- Holds when `d · 10 ^ k` rounds to the number. The ends of the interval are quarters of a unit
away from `4 · mantissa`; they belong to it when the mantissa is even. -/
def admits (b : Binary) (d : Nat) (k : Int) : Bool :=
  let low := Decimal.onCommonScale d k (4 * b.mantissa - if b.closeBelow then 1 else 2) (b.exponent - 2)
  let high := Decimal.onCommonScale d k (4 * b.mantissa + 2) (b.exponent - 2)
  if b.mantissa % 2 = 0 then low.2 ≤ low.1 && high.1 ≤ high.2
  else low.2 < low.1 && high.1 < high.2

/-- The count of whole steps of `10 ^ k` in the number. -/
def steps (b : Binary) (k : Int) : Nat :=
  let (step, value) := Decimal.onCommonScale 1 k b.mantissa b.exponent
  value / step

/-- The decimal on the grid of the multiples of `10 ^ k` that rounds to the number and is nearest
to it, if there is one: no point of the grid is nearer than the two that enclose the number. -/
def nearestOnGrid? (b : Binary) (k : Int) : Option Decimal :=
  let below := b.steps k
  match b.admits below k, b.admits (below + 1) k with
  | false, false => none
  | true, false => some ⟨below, k⟩
  | false, true => some ⟨below + 1, k⟩
  | true, true =>
    let (middle, twice) := Decimal.onCommonScale (2 * below + 1) k (2 * b.mantissa) b.exponent
    if twice < middle || twice == middle && below % 2 == 0 then some ⟨below, k⟩
    else some ⟨below + 1, k⟩

/-- The least `e` with the number below `10 ^ e`, for a number that is not zero. -/
def magnitude (b : Binary) : Int :=
  let whole := b.mantissa * Nat.pow 2 b.exponent.toNat / Nat.pow 2 (-b.exponent).toNat
  if whole = 0 then
    1 - ((Nat.toDigits 10 (Nat.pow 2 (-b.exponent).toNat / b.mantissa)).length : Int)
  else (Nat.toDigits 10 whole).length

/-- The shortest decimal that rounds to the number. Seventeen digits always reach it. -/
def shortest (b : Binary) : Decimal :=
  if b.mantissa = 0 then ⟨0, 0⟩
  else
    let e := b.magnitude
    ((List.range 17).findSome? fun n => b.nearestOnGrid? (e - (n + 1 : Nat))).getD
      ⟨b.steps (e - 17), e - 17⟩

end Binary

end Signalbox
