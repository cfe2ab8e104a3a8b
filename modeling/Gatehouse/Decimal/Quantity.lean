import Gatehouse.Decimal.Arithmetic

/-!
# Quantities

The arithmetic that counts tokens and seconds.  What is counted in binary
floating-point numbers when a server runs can be read as counting in exact
fractions: a definition over any `Quantity` serves both.
-/

namespace Gatehouse.Decimal

/-- Numbers that tokens and seconds are counted in. -/
class Quantity (Number : Type) where
  /-- A whole number. -/
  whole : Nat → Number
  /-- A stretch of time in seconds, given in nanoseconds. -/
  seconds : Nat → Number
  add : Number → Number → Number
  subtract : Number → Number → Number
  multiply : Number → Number → Number
  divide : Number → Number → Number
  /-- Whether the first number is at least the second one. -/
  covers : Number → Number → Bool
  /--
  A time in seconds as a clock measures it, in nanoseconds, unless a clock
  cannot measure that time.
  -/
  measure : Number → Option Nat
  /-- The least natural number that is at least a number. -/
  roundUp : Number → Nat

namespace Quantity

variable {Number : Type} [Quantity Number]

/-- The smaller of two numbers. -/
def lesser (left right : Number) : Number :=
  if covers right left then left else right

/--
The least whole number of seconds that is at least one and lasts for a time
as a clock measures it, as far as it has 64 bits.
-/
def patience (time : Number) : Option Nat :=
  (measure time).map fun measured =>
    max 1 (min (UInt64.size - 1) (roundUp (seconds measured : Number)))

end Quantity

/-- How many nanoseconds a second has. -/
def nanosecond : Nat := 1000000000

/-- The quotient of two natural numbers, rounded up. -/
def divideUp (numerator denominator : Nat) : Nat :=
  (numerator + denominator - 1) / denominator

/--
The nanoseconds in a ratio of seconds, a half going to the even neighbour.
A clock measures less than `2 ^ 64` seconds.
-/
def nanoseconds? (numerator denominator : Nat) : Option Nat :=
  if UInt64.size * denominator ≤ numerator then none
  else some (Binary64.divideToNearest (numerator * nanosecond) denominator)

/-- Exact fractions. -/
instance : Quantity Rat where
  whole count := count
  seconds time := (time : Rat) / (nanosecond : Rat)
  add left right := left + right
  subtract left right := left - right
  multiply left right := left * right
  divide left right := left / right
  covers left right := decide (right ≤ left)
  measure time :=
    if time < 0 then none else nanoseconds? time.num.toNat time.den
  roundUp number := number.ceil.toNat

namespace Binary64

/-- A stretch of time in seconds: whole seconds, then the rest of one. -/
def ofNanoseconds (time : Nat) : Binary64 :=
  add (ofInt (time / nanosecond))
    (divide (ofInt (time % nanosecond)) (ofInt nanosecond))

/-- A time in seconds as a clock measures it. -/
def measure (time : Binary64) : Option Nat :=
  if time.isZero then some 0
  else if time.isNegative || !time.isFinite then none
  else nanoseconds? time.ratio.1 time.ratio.2

end Binary64

/-- Binary floating-point numbers. -/
instance : Quantity Binary64 where
  whole count := Binary64.ofInt count
  seconds := Binary64.ofNanoseconds
  add := Binary64.add
  subtract := Binary64.subtract
  multiply := Binary64.multiply
  divide := Binary64.divide
  covers left right := right.atMost left
  measure := Binary64.measure
  roundUp number := divideUp number.ratio.1 number.ratio.2

end Gatehouse.Decimal
