/-!
# Binary floating-point numbers by their bits

A number in the 64-bit binary format is held as its bit pattern, so equality
and printing are decidable and no machine operation is hidden behind them.
`Binary64.ofRatio` rounds an exact ratio to the nearest representable number,
a half going to the even neighbour; the value of a finite number is
`significand · 2 ^ scale`.
-/

namespace Gatehouse.Decimal

/-- A 64-bit binary floating-point number, by its bit pattern. -/
structure Binary64 where
  bits : UInt64
  deriving DecidableEq, Repr, Inhabited

namespace Binary64

/-- The positive infinity. -/
def infinity : Binary64 := ⟨0x7FF0000000000000⟩

/-- The quiet not-a-number with no sign. -/
def notANumber : Binary64 := ⟨0x7FF8000000000000⟩

/-- Whether the sign bit is set. -/
def isNegative (number : Binary64) : Bool :=
  decide (Nat.pow 2 63 ≤ number.bits.toNat)

/-- The eleven exponent bits as a number. -/
def exponentField (number : Binary64) : Nat :=
  number.bits.toNat / Nat.pow 2 52 % Nat.pow 2 11

/-- The fifty-two fraction bits as a number. -/
def fractionField (number : Binary64) : Nat :=
  number.bits.toNat % Nat.pow 2 52

/-- Neither infinite nor a not-a-number. -/
def isFinite (number : Binary64) : Bool :=
  number.exponentField != 2047

/-- A bit pattern that stands for no number. -/
def isNaN (number : Binary64) : Bool :=
  number.exponentField == 2047 && number.fractionField != 0

/-- One of the two zeros. -/
def isZero (number : Binary64) : Bool :=
  number.exponentField == 0 && number.fractionField == 0

/-- The integer part of the representation of a finite number. -/
def significand (number : Binary64) : Nat :=
  if number.exponentField = 0 then number.fractionField
  else Nat.pow 2 52 + number.fractionField

/-- The power of two that scales the significand of a finite number. -/
def scale (number : Binary64) : Int :=
  if number.exponentField = 0 then -1074
  else (number.exponentField : Int) - 1075

/-- The number with its sign bit set or cleared. -/
def withSign (number : Binary64) (negative : Bool) : Binary64 :=
  let magnitude := number.bits.toNat % Nat.pow 2 63
  ⟨UInt64.ofNat (if negative then Nat.pow 2 63 + magnitude else magnitude)⟩

/-- The quotient rounded to the nearest integer, a half to the even one. -/
def divideToNearest (numerator denominator : Nat) : Nat :=
  let quotient := numerator / denominator
  let twice := 2 * (numerator % denominator)
  if twice < denominator then quotient
  else if denominator < twice then quotient + 1
  else if quotient % 2 = 0 then quotient
  else quotient + 1

/--
The exponent of the last place of a positive ratio: with it the significand
needs at most fifty-three bits, or the ratio is in the subnormal range.
-/
def lastPlace (numerator denominator : Nat) : Int :=
  let guess : Int := (numerator.log2 : Int) - denominator.log2 - 52
  let tooLarge : Bool :=
    if 0 ≤ guess then
      decide (numerator < Nat.pow 2 52 * (denominator * Nat.pow 2 guess.toNat))
    else
      decide (numerator * Nat.pow 2 (-guess).toNat < Nat.pow 2 52 * denominator)
  max (-1074) (if tooLarge then guess - 1 else guess)

/--
The nearest number to the ratio of two naturals, a half going to the even
significand and anything past the largest finite number to infinity.
-/
def ofRatio (negative : Bool) (numerator denominator : Nat) : Binary64 :=
  if numerator = 0 then withSign ⟨0⟩ negative
  else
    let place := lastPlace numerator denominator
    let rounded :=
      if 0 ≤ place then
        divideToNearest numerator (denominator * Nat.pow 2 place.toNat)
      else
        divideToNearest (numerator * Nat.pow 2 (-place).toNat) denominator
    let carried := rounded == Nat.pow 2 53
    let significand := if carried then Nat.pow 2 52 else rounded
    let place := if carried then place + 1 else place
    if 971 < place then withSign infinity negative
    else if significand < Nat.pow 2 52 then
      withSign ⟨UInt64.ofNat significand⟩ negative
    else
      withSign
        ⟨UInt64.ofNat ((place + 1075).toNat * Nat.pow 2 52 +
          (significand - Nat.pow 2 52))⟩
        negative

/--
The nearest number to `digits · 10 ^ exponent`.  Exponents far outside the
representable range are decided by the number of digits alone.
-/
def ofDecimal (negative : Bool) (digits : Nat) (exponent : Int) : Binary64 :=
  if digits = 0 then withSign ⟨0⟩ negative
  else
    let magnitude := exponent + (Nat.toDigits 10 digits).length
    if 310 < magnitude then withSign infinity negative
    else if magnitude < -330 then withSign ⟨0⟩ negative
    else if 0 ≤ exponent then
      ofRatio negative (digits * Nat.pow 10 exponent.toNat) 1
    else
      ofRatio negative digits (Nat.pow 10 (-exponent).toNat)

/-- The nearest number to an integer. -/
def ofInt (value : Int) : Binary64 :=
  ofRatio (decide (value < 0)) value.natAbs 1

/--
Two bit patterns that compare equal as numbers, a not-a-number being equal to
itself and the two zeros to each other.
-/
def sameNumber (left right : Binary64) : Bool :=
  left == right || (left.isNaN && right.isNaN) || (left.isZero && right.isZero)

end Binary64

end Gatehouse.Decimal
