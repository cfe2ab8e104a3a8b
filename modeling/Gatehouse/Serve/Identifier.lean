import Gatehouse.Text.Quoted

/-!
# Random identifiers

Numbers of 128 bits that no two requests share.  Six of the bits say that
the others are random.  An identifier is written as thirty-two hexadecimal
digits, with or without hyphens between groups of them.
-/

namespace Gatehouse.Serve

/-- A random number of 128 bits. -/
structure Identifier where
  number : Nat
  deriving DecidableEq, Repr

namespace Identifier

/--
The identifier that is made of random bits: four bits say that it is random,
two bits which family it belongs to.
-/
def ofRandom (bits : Nat) : Identifier :=
  let high := bits / Nat.pow 2 74 % Nat.pow 2 48
  let middle := bits / Nat.pow 2 62 % Nat.pow 2 12
  let low := bits % Nat.pow 2 62
  ⟨high * Nat.pow 2 80 + (4 * Nat.pow 2 12 + middle) * Nat.pow 2 64 +
    (2 * Nat.pow 2 62 + low)⟩

/-- The lowest hexadecimal digits of a number, as many as asked for. -/
def hexadecimal : Nat → Nat → List Char
  | 0, _ => []
  | count + 1, number =>
    hexadecimal count (number / 16) ++ [Nat.digitChar (number % 16)]

/-- The thirty-two digits of an identifier. -/
def digits (identifier : Identifier) : List Char :=
  hexadecimal 32 identifier.number

/-- The digits without hyphens. -/
def compact (identifier : Identifier) : String :=
  String.ofList identifier.digits

/-- The digits in five groups with hyphens between. -/
def hyphenated (identifier : Identifier) : String :=
  let digits := identifier.digits
  let group (start length : Nat) : String :=
    String.ofList ((digits.drop start).take length)
  "-".intercalate
    [group 0 8, group 8 4, group 12 4, group 16 4, group 20 12]

@[simp]
theorem length_hexadecimal (count number : Nat) :
    (hexadecimal count number).length = count := by
  induction count generalizing number with
  | zero => rfl
  | succ count ih => simp [hexadecimal, ih]

end Identifier

end Gatehouse.Serve
