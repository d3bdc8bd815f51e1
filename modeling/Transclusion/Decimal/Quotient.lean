import Transclusion.Decimal.Shortest

/-! Quotients.

A quotient of whole numbers is rounded once: to the nearest binary number, and of
two that are equally near to the even one. A quotient of binary numbers that is
rounded down goes with a remainder that has the sign of the divisor. The
remainder is exact: sizes are natural multiples of the least positive number. The
quotient is worked out from it in binary arithmetic, so it need not be the
greatest whole number below the real quotient; zero keeps the sign that the real
quotient has. -/
namespace Transclusion.Decimal

namespace Binary64

def isNaN (x : Binary64) : Bool := x.biased == 2047 && x.fraction != 0

def isInfinite (x : Binary64) : Bool := x.biased == 2047 && x.fraction == 0

/-- The word in the text of a number that has no digits. -/
def word? (x : Binary64) : Option String :=
  if x.isInfinite then some "inf" else if x.isNaN then some "nan" else none

/-- The size of a finite number, in units of the least positive one. -/
def size (x : Binary64) : Nat := x.significand * twoTo x.exponent

/-- The number of a size, in units of the least positive one; the size must be that of a number. -/
def ofSize (n : Nat) : Binary64 :=
  if n < twoTo 52 then ⟨UInt64.ofNat n⟩
  else
    let k := n.log2 - 52
    ⟨UInt64.ofNat ((k + 1) * twoTo 52 + (n / twoTo k - twoTo 52))⟩

/-- The number nearest to the quotient of two whole numbers, of which the second is not zero. -/
def ofQuotient (n d : Nat) : Binary64 :=
  let sizes := n * twoTo 1074
  let unit := twoTo ((sizes / d).log2 - 52)
  let units := sizes / (d * unit)
  let twice := 2 * (sizes % (d * unit))
  let isBelow := d * unit < twice || (d * unit == twice && units % 2 == 1)
  let size := (if isBelow then units + 1 else units) * unit
  if twoTo 2098 ≤ size then ⟨0x7ff0000000000000⟩ else ofSize size

/-- What is left of `x` when whole multiples of `y`, which is not zero, are taken off towards zero. -/
def remainder (x y : Binary64) : Binary64 :=
  if x.isNaN || y.isNaN || x.isInfinite then .ofFloat (0.0 / 0.0)
  else if y.isInfinite then x
  else (ofSize (x.size % y.size)).negatedIf x.isNegative

/-- A zero with the sign of a number. -/
def signedZero (x : Float) : Float := if (ofFloat x).isNegative then -0.0 else 0.0

/-- The quotient rounded down and its remainder; the divisor is not zero. -/
def floorDivide (x y : Binary64) : Float × Float :=
  let v := x.toFloat
  let w := y.toFloat
  let rest := (x.remainder y).toFloat
  let quotient := (v - rest) / w
  let (quotient, rest) :=
    if rest == 0 then (quotient, signedZero w)
    else if (w < 0) != (rest < 0) then (quotient - 1.0, rest + w)
    else (quotient, rest)
  if quotient == 0 then (signedZero (v / w), rest)
  else if quotient - quotient.floor > 0.5 then (quotient.floor + 1.0, rest)
  else (quotient.floor, rest)

end Binary64

end Transclusion.Decimal
