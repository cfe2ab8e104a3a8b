import Gatehouse.Decimal.Binary64

/-!
# Shortest decimal digits

The digits of a binary number are the fewest that read back as the same
number, and of those the nearest to it.  The search runs over the decimal
grids with one, two, up to seventeen digits: on each grid only the two
neighbours of the number can lie among the reals that round to it, and they
are tested in exact arithmetic.
-/

namespace Gatehouse.Decimal

/-- Digits without trailing zeros, and the power of ten that scales them. -/
structure Digits where
  digits : Nat
  exponent : Int
  deriving DecidableEq, Repr

namespace Digits

/-- The characters of the digits. -/
def characters (number : Digits) : List Char :=
  Nat.toDigits 10 number.digits

/-- Trailing zeros moved into the exponent, at most `fuel` of them. -/
def normalize (digits : Nat) (exponent : Int) : Nat → Digits
  | 0 => ⟨digits, exponent⟩
  | fuel + 1 =>
    if digits ≠ 0 ∧ digits % 10 = 0 then
      normalize (digits / 10) (exponent + 1) fuel
    else ⟨digits, exponent⟩

end Digits

/-- The number of decimal digits of a natural number, one for zero. -/
def digitCount (number : Nat) : Nat :=
  (Nat.toDigits 10 number).length

/-- The exponent of ten of the leading digit of a positive ratio. -/
def leadingExponent (numerator denominator : Nat) : Int :=
  if denominator ≤ numerator then
    (digitCount (numerator / denominator) : Int) - 1
  else
    -(digitCount ((denominator + numerator - 1) / numerator - 1) : Int)

/--
The reals that round to a positive number, in quarters of its last place:
the number itself, the two ends, and whether the ends belong to it.
-/
structure Interval where
  low : Nat
  middle : Nat
  high : Nat
  closed : Bool
  deriving DecidableEq, Repr

/--
The interval of a finite positive number.  Below a power of two the next
number is half as far away, which shortens the lower side.
-/
def Interval.of (number : Binary64) : Interval :=
  let significand := number.significand
  let narrow := number.fractionField == 0 && decide (1 < number.exponentField)
  { low := 4 * significand - (if narrow then 1 else 2)
    middle := 4 * significand
    high := 4 * significand + 2
    closed := significand % 2 == 0 }

/--
The neighbour of the number on the grid of spacing `10 ^ exponent` that
rounds to it, if there is one: the nearer of two, of equals the even one.
-/
def gridPoint? (interval : Interval) (scale exponent : Int) : Option Nat :=
  let factor := Nat.pow 2 scale.toNat * Nat.pow 10 (-exponent).toNat
  let divisor := Nat.pow 2 (-scale).toNat * Nat.pow 10 exponent.toNat
  let inside (candidate : Nat) : Bool :=
    let point := candidate * divisor
    let low := interval.low * factor
    let high := interval.high * factor
    if interval.closed then low ≤ point && point ≤ high
    else low < point && point < high
  let below := interval.middle * factor / divisor
  let twice := 2 * (interval.middle * factor)
  let halfway := (2 * below + 1) * divisor
  let preferBelow := twice < halfway || (twice == halfway && below % 2 == 0)
  match inside below && below != 0, inside (below + 1) with
  | true, true => some (if preferBelow then below else below + 1)
  | true, false => some below
  | false, true => some (below + 1)
  | false, false => none

/-- The first grid with a hit, from `count` digits on. -/
def shortestFrom (interval : Interval) (scale leading : Int)
    (count : Nat) : Nat → Digits
  | 0 => ⟨0, 0⟩
  | fuel + 1 =>
    let exponent := leading - count + 1
    match gridPoint? interval scale exponent with
    | some digits => Digits.normalize digits exponent 20
    | none => shortestFrom interval scale leading (count + 1) fuel

/-- The fewest digits that read back as a finite number, its sign apart. -/
def shortest (number : Binary64) : Digits :=
  if number.significand = 0 then ⟨0, 0⟩
  else
    let interval := Interval.of number
    let scale := number.scale - 2
    let leading :=
      leadingExponent (interval.middle * Nat.pow 2 scale.toNat)
        (Nat.pow 2 (-scale).toNat)
    shortestFrom interval scale leading 1 17

/-- How a format writes binary numbers. -/
structure Layout where
  /-- The least place of the decimal point that is written positionally. -/
  lowestPoint : Option Int
  /-- The greatest place of the decimal point that is written positionally. -/
  highestPoint : Option Int
  /-- Whether a whole number written positionally keeps one decimal. -/
  keepsDecimal : Bool
  /-- Whether a power of ten that is not negative has a sign. -/
  signsExponent : Bool := false
  infinity : String
  negativeInfinity : String
  notANumber : String
  deriving Repr

/-- Digits with the decimal point after the first `point` of them. -/
def positional (keepsDecimal : Bool) (digits : List Char)
    (point : Int) : List Char :=
  if point ≤ 0 then
    ['0', '.'] ++ List.replicate (-point).toNat '0' ++ digits
  else
    let whole := point.toNat
    if digits.length ≤ whole then
      digits ++ List.replicate (whole - digits.length) '0' ++
        (if keepsDecimal then ['.', '0'] else [])
    else digits.take whole ++ '.' :: digits.drop whole

/-- Digits with a point after the first one and a power of ten. -/
def scientific (signsExponent : Bool) (digits : List Char)
    (point : Int) : List Char :=
  let mantissa :=
    match digits with
    | first :: second :: rest => first :: '.' :: second :: rest
    | short => short
  let exponent := point - 1
  let written :=
    (if exponent < 0 then ['-'] else if signsExponent then ['+'] else []) ++
      Nat.toDigits 10 exponent.natAbs
  mantissa ++ 'e' :: written

/-- The text of a binary number in a layout. -/
def Layout.render (layout : Layout) (number : Binary64) : String :=
  if number.isNaN then layout.notANumber
  else if !number.isFinite then
    if number.isNegative then layout.negativeInfinity else layout.infinity
  else
    let sign := if number.isNegative then ['-'] else []
    if number.isZero then
      String.ofList (sign ++ (if layout.keepsDecimal then ['0', '.', '0'] else ['0']))
    else
      let found := shortest number
      let digits := found.characters
      let point := found.exponent + digits.length
      let isPositional :=
        layout.lowestPoint.all (· ≤ point) && layout.highestPoint.all (point ≤ ·)
      String.ofList (sign ++
        (if isPositional then positional layout.keepsDecimal digits point
         else scientific layout.signsExponent digits point))

end Gatehouse.Decimal
