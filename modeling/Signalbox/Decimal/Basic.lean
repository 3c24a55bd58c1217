/-!
# Decimal numbers

A number is written with decimal digits and kept in binary: `Decimal` is a count of a power of ten,
`Binary` a count of a power of two. `Binary.ofFloat?` opens a finite float.
-/

namespace Signalbox

/-- The number `digits · 10 ^ exponent`. -/
structure Decimal where
  digits : Nat
  exponent : Int
  deriving DecidableEq, Repr

/-- The number `mantissa · 2 ^ exponent`, as a float holds it. `closeBelow` says that the float next
below is half as far away as the float next above. -/
structure Binary where
  mantissa : Nat
  exponent : Int
  closeBelow : Bool
  deriving DecidableEq, Repr

namespace Binary

/-- The mantissas of all but the smallest floats count from here. -/
def hiddenBit : Nat := 0x10000000000000

/-- The magnitude of a finite float, `none` for a NaN and the infinities. -/
def ofFloat? (x : Float) : Option Binary :=
  let bits := x.toBits.toNat
  let fraction : Nat := bits % hiddenBit
  let scale : Nat := bits / hiddenBit % 2048
  if scale = 2047 then none
  else if scale = 0 then some ⟨fraction, -1074, false⟩
  else some ⟨hiddenBit + fraction, (scale : Int) - 1075, fraction = 0 && 1 < scale⟩

end Binary

/-- Holds of the floats whose sign bit is set, a negative zero among them. -/
def isSigned (x : Float) : Bool :=
  x.toBits.toNat / 0x8000000000000000 = 1

end Signalbox
