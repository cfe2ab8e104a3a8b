import Gatehouse.Decimal.Binary64

/-!
# How numbers are spelled

Natural numbers by their digits in a radix, and binary numbers in decimal
notation: digits with an optional point among them, and an optional power of
ten behind them.
-/

namespace Gatehouse.Decimal

/-- The value of a digit in a radix up to sixteen. -/
def digitValue? (radix : Nat) (character : Char) : Option Nat :=
  let value :=
    if '0' ≤ character && character ≤ '9' then some (character.toNat - 48)
    else if 'a' ≤ character && character ≤ 'f' then some (character.toNat - 87)
    else if 'A' ≤ character && character ≤ 'F' then some (character.toNat - 55)
    else none
  value.filter (· < radix)

/-- The value of a run of digits, continuing from `start`. -/
def digitsValue? (radix : Nat) : List Char → Nat → Option Nat
  | [], start => some start
  | character :: rest, start =>
    match digitValue? radix character with
    | some digit => digitsValue? radix rest (radix * start + digit)
    | none => none

/-- The natural number written with at least one digit of the radix. -/
def natural? (radix : Nat) (digits : List Char) : Option Nat :=
  if digits.isEmpty then none else digitsValue? radix digits 0

/-- A decimal number by its digits and the power of ten that scales them. -/
structure DecimalText where
  digits : Nat
  exponent : Int
  deriving DecidableEq, Repr

/-- The exponent part: nothing, or `e`, an optional sign and digits. -/
def exponentPart? : List Char → Option Int
  | [] => some 0
  | mark :: rest =>
    if mark = 'e' ∨ mark = 'E' then
      match rest with
      | '-' :: digits => (natural? 10 digits).map fun value => -(value : Int)
      | '+' :: digits => (natural? 10 digits).map fun value => (value : Int)
      | digits => (natural? 10 digits).map fun value => (value : Int)
    else none

/-- Digits with an optional point among them and an optional exponent. -/
def decimalText? (characters : List Char) : Option DecimalText :=
  let whole := characters.takeWhile Char.isDigit
  let afterWhole := characters.dropWhile Char.isDigit
  let (fraction, afterFraction) :=
    match afterWhole with
    | '.' :: rest => (rest.takeWhile Char.isDigit, rest.dropWhile Char.isDigit)
    | rest => ([], rest)
  if whole.isEmpty && fraction.isEmpty then none
  else
    match digitsValue? 10 (whole ++ fraction) 0, exponentPart? afterFraction with
    | some digits, some exponent => some ⟨digits, exponent - fraction.length⟩
    | _, _ => none

/-- Whether a minus stands in front, and the characters behind the sign. -/
def cutSign : List Char → Bool × List Char
  | '-' :: rest => (true, rest)
  | '+' :: rest => (false, rest)
  | rest => (false, rest)

/-- A number in decimal notation, with an optional sign, infinite if great. -/
def signedDecimal? (characters : List Char) : Option Binary64 :=
  let (negative, unsigned) := cutSign characters
  (decimalText? unsigned).map fun decimal =>
    Binary64.ofDecimal negative decimal.digits decimal.exponent

end Gatehouse.Decimal
