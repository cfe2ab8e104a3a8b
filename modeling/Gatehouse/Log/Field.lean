import Gatehouse.Decimal.Shortest
import Gatehouse.Log.Pattern

/-!
# Conditions on fields

A directive of a filter may demand a field, and a value for it.  A value is
a boolean or a number if its text is one, and otherwise a pattern.  The
order of conditions has no meaning of its own; it decides which of two
directives with equally many conditions goes first.
-/

namespace Gatehouse.Log

open Gatehouse.Decimal
open Gatehouse.Text

/-- What the value of a field is compared with. -/
inductive ValueMatch where
  | bool (value : Bool)
  | float (value : Binary64)
  | notANumber
  | natural (value : Nat)
  | integer (value : Int)
  | pattern (text : String)
  deriving DecidableEq, Repr

namespace ValueMatch

/-- The natural number of 64 bits that characters spell. -/
def natural? (characters : List Char) : Option Nat :=
  let digits :=
    match characters with
    | '+' :: rest => rest
    | _ => characters
  (Decimal.natural? 10 digits).filter (· < UInt64.size)

/-- The integer of 64 bits that characters spell. -/
def integer? (characters : List Char) : Option Int :=
  let (negative, digits) := cutSign characters
  let value := (Decimal.natural? 10 digits).map fun (size : Nat) =>
    if negative then -(size : Int) else (size : Int)
  value.filter fun number => -(Nat.pow 2 63) ≤ number && number < Nat.pow 2 63

/-- The floating-point number that characters spell, in digits or by name. -/
def float? (characters : List Char) : Option ValueMatch :=
  let (negative, unsigned) := cutSign characters
  let name := lowercased (String.ofList unsigned)
  if name = "nan" then some .notANumber
  else if name = "inf" || name = "infinity" then
    some (.float (Binary64.infinity.withSign negative))
  else (signedDecimal? characters).map .float

/-- The value that a text stands for, unless it is a pattern out of order. -/
def parse? (text : String) : Option ValueMatch :=
  let characters := text.toList
  if text = "true" then some (.bool true)
  else if text = "false" then some (.bool false)
  else
    match natural? characters, integer? characters, float? characters with
    | some value, _, _ => some (.natural value)
    | none, some value, _ => some (.integer value)
    | none, none, some value => some value
    | none, none, none => if isPattern text then some (.pattern text) else none

/-- How numbers are written: always by their digits alone. -/
def numberLayout : Layout where
  lowestPoint := none
  highestPoint := none
  keepsDecimal := false
  infinity := "inf"
  negativeInfinity := "-inf"
  notANumber := "NaN"

/-- The text of a value. -/
def text : ValueMatch → String
  | bool value => toString value
  | float value => numberLayout.render value
  | notANumber => numberLayout.notANumber
  | natural value => toString value
  | integer value => toString value
  | pattern text => text

/-- The place of a number among all numbers; both zeros have the same one. -/
def placeOf (number : Binary64) : Int :=
  let magnitude := ((number.withSign false).bits.toNat : Int)
  if number.isNegative then -magnitude else magnitude

/-- The place of a kind of values among all kinds. -/
def kind : ValueMatch → Nat
  | bool _ => 0
  | float _ => 1
  | notANumber => 2
  | natural _ => 3
  | integer _ => 4
  | pattern _ => 5

/-- The order of values: first by kind. -/
def order (left right : ValueMatch) : Ordering :=
  match left, right with
  | bool left, bool right => compare left.toNat right.toNat
  | float left, float right => compare (placeOf left) (placeOf right)
  | natural left, natural right => compare left right
  | integer left, integer right => compare left right
  | pattern left, pattern right => compare left right
  | left, right => compare left.kind right.kind

end ValueMatch

/-- A condition on a field: that it is there, and perhaps on its value. -/
structure FieldMatch where
  name : String
  value : Option ValueMatch
  deriving DecidableEq, Repr

namespace FieldMatch

/-- The condition that a text stands for. -/
def parse? (text : String) : Option FieldMatch :=
  match pieces '=' text with
  | name :: value :: _ =>
    (ValueMatch.parse? value).map fun value => ⟨name, some value⟩
  | [name] => some ⟨name, none⟩
  | [] => none

/-- The text of a condition. -/
def text (field : FieldMatch) : String :=
  field.name ++ field.value.elim "" fun value => "=" ++ value.text

/-- The order of two values, either of which may be absent. -/
def valueOrder : Option ValueMatch → Option ValueMatch → Ordering
  | some left, some right => left.order right
  | left, right => compare left.isSome.toNat right.isSome.toNat

/-- The order of conditions: those on values last, then by name. -/
def order (left right : FieldMatch) : Ordering :=
  (compare left.value.isSome.toNat right.value.isSome.toNat).then
    ((compare left.name right.name).then (valueOrder left.value right.value))

end FieldMatch

end Gatehouse.Log
