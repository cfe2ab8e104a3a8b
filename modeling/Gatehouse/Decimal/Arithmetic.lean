import Gatehouse.Decimal.Binary64

/-!
# Arithmetic of binary floating-point numbers

The result of an operation on finite numbers is the exact result, rounded to
the nearest number.  What is too large for a number is infinite, and what an
operation does not define is not a number.
-/

namespace Gatehouse.Decimal.Binary64

/-- The size of a finite number, as a ratio. -/
def ratio (number : Binary64) : Nat × Nat :=
  (number.significand * Nat.pow 2 number.scale.toNat,
    Nat.pow 2 (-number.scale).toNat)

/-- The numerator of a finite number with its sign. -/
def numerator (number : Binary64) : Int :=
  if number.isNegative then -(number.ratio.1 : Int) else number.ratio.1

/-- The number with the other sign. -/
def negate (number : Binary64) : Binary64 :=
  number.withSign !number.isNegative

/-- The sum; a zero is negative only if both numbers are. -/
def add (left right : Binary64) : Binary64 :=
  if left.isNaN || right.isNaN then notANumber
  else if !left.isFinite then
    if !right.isFinite && left.isNegative != right.isNegative then notANumber
    else left
  else if !right.isFinite then right
  else
    let total :=
      left.numerator * right.ratio.2 + right.numerator * left.ratio.2
    ofRatio (decide (total < 0) || (left.isNegative && right.isNegative))
      total.natAbs (left.ratio.2 * right.ratio.2)

/-- The difference. -/
def subtract (left right : Binary64) : Binary64 :=
  left.add right.negate

/-- The product. -/
def multiply (left right : Binary64) : Binary64 :=
  let negative := left.isNegative != right.isNegative
  if left.isNaN || right.isNaN then notANumber
  else if !left.isFinite || !right.isFinite then
    if left.isZero || right.isZero then notANumber
    else withSign infinity negative
  else
    ofRatio negative (left.ratio.1 * right.ratio.1)
      (left.ratio.2 * right.ratio.2)

/-- The quotient; what is not zero has infinite quotients by zero. -/
def divide (left right : Binary64) : Binary64 :=
  let negative := left.isNegative != right.isNegative
  if left.isNaN || right.isNaN then notANumber
  else if !left.isFinite then
    if !right.isFinite then notANumber else withSign infinity negative
  else if !right.isFinite then withSign ⟨0⟩ negative
  else if right.isZero then
    if left.isZero then notANumber else withSign infinity negative
  else
    ofRatio negative (left.ratio.1 * right.ratio.2)
      (left.ratio.2 * right.ratio.1)

/-- Where a number stands among all; its bits tell how far from zero. -/
def rank (number : Binary64) : Int :=
  if number.isNegative then Nat.pow 2 63 - (number.bits.toNat : Int)
  else number.bits.toNat

/-- Whether the first number is at most the second one. -/
def atMost (left right : Binary64) : Bool :=
  !left.isNaN && !right.isNaN && decide (left.rank ≤ right.rank)

end Gatehouse.Decimal.Binary64
