import Signalbox.Decimal.Shortest

/-!
# Writing floats

A float is written with its shortest digits. What else the text looks like is a `Layout`: between
which magnitudes the number is written without an exponent, and whether a whole number keeps a
fraction. The program documents and the outlines of programs have different layouts.
-/

namespace Signalbox

/-- How the digits of a float are laid out. -/
structure Layout where
  /-- Numbers below `10 ^ smallest` are written with an exponent. -/
  smallest : Option Int
  /-- Numbers from `10 ^ largest` on are written with an exponent. -/
  largest : Option Int
  /-- A whole number is written with `.0`. -/
  keepsFraction : Bool
  deriving DecidableEq, Repr

namespace Layout

/-- Documents write an exponent below `1e-5` and from `1e16` on, and a whole number with `.0`. -/
def document : Layout := ⟨some (-5), some 16, true⟩

/-- Outlines and conditions never write an exponent, and whole numbers as integers. -/
def plain : Layout := ⟨none, none, false⟩

/-- Messages about the configuration never write an exponent, and whole numbers with `.0`. -/
def pointed : Layout := ⟨none, none, true⟩

end Layout

namespace Decimal

/-- The digits of a decimal from the first to the last that is not zero, and the place of the
decimal point, counted from the first digit. -/
def significand (d : Decimal) : List Char × Int :=
  let all := Nat.toDigits 10 d.digits
  let kept := (all.reverse.dropWhile (· == '0')).reverse
  (if kept.isEmpty then ['0'] else kept, all.length + d.exponent)

/-- Digits with the point at a place, without an exponent. -/
def positional (digits : List Char) (point : Int) (keepsFraction : Bool) : List Char :=
  if point ≤ 0 then
    ['0', '.'] ++ List.replicate (-point).toNat '0' ++ digits
  else if digits.length ≤ point.toNat then
    digits ++ List.replicate (point.toNat - digits.length) '0' ++ (if keepsFraction then ['.', '0'] else [])
  else digits.take point.toNat ++ ['.'] ++ digits.drop point.toNat

/-- Digits with the point after the first one and an exponent, which has a sign. -/
def scientific (digits : List Char) (point : Int) : List Char :=
  let mantissa := match digits with
    | first :: [] => [first]
    | first :: others => first :: '.' :: others
    | [] => []
  let sign := if point - 1 < 0 then '-' else '+'
  mantissa ++ ['e', sign] ++ Nat.toDigits 10 (point - 1).natAbs

/-- A magnitude as a layout writes it. -/
def write (layout : Layout) (d : Decimal) : List Char :=
  if d.digits = 0 then
    if layout.keepsFraction then ['0', '.', '0'] else ['0']
  else
    let (digits, point) := d.significand
    let small := match layout.smallest with
      | some e => point ≤ e
      | none => false
    let large := match layout.largest with
      | some e => e < point
      | none => false
    if small || large then scientific digits point
    else positional digits point layout.keepsFraction

end Decimal

/-- A float as a layout writes it; what is not finite has a name. -/
def Layout.write (layout : Layout) (x : Float) : String :=
  match Binary.ofFloat? x with
  | none => if x.isNaN then "NaN" else if isSigned x then "-inf" else "inf"
  | some b =>
    String.ofList ((if isSigned x then ['-'] else []) ++ b.shortest.write layout)

end Signalbox
