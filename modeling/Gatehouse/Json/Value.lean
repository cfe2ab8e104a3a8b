import Gatehouse.Yaml.Layout

/-!
# JSON values

The data that JSON can write.  Numbers are those of YAML, so that integers
of any size stay exact, and the members of an object are ordered by name.
A YAML value has a JSON form unless one of its mappings has a key without a
text: strings, booleans and finite numbers have one.
-/

namespace Gatehouse.Json

open Gatehouse.Decimal
open Gatehouse.Yaml (Number)

/-- A JSON value. -/
inductive Value where
  | null
  | bool (value : Bool)
  | number (value : Number)
  | string (text : String)
  | array (items : List Value)
  /-- Members ordered by their names, which differ. -/
  | object (members : List (String × Value))
  deriving Repr, Inhabited

/-- How JSON writes floating-point numbers. -/
def numberLayout : Layout where
  lowestPoint := some (-4)
  highestPoint := some 16
  keepsDecimal := true
  signsExponent := true
  infinity := "null"
  negativeInfinity := "null"
  notANumber := "null"

/-- The text of a number. -/
def numberText : Number → String
  | .int value => toString value
  | .float value => numberLayout.render value

/-- Set the member of a name in an ordered list of members. -/
def putMember (name : String) (value : Value) :
    List (String × Value) → List (String × Value)
  | [] => [(name, value)]
  | (first, held) :: rest =>
    if name = first then (name, value) :: rest
    else if name < first then (name, value) :: (first, held) :: rest
    else (first, held) :: putMember name value rest

/-- The object with some members; of equal names the last one counts. -/
def objectOf (members : List (String × Value)) : Value :=
  .object (members.foldl (fun found member => putMember member.1 member.2 found)
    [])

/-- The text of a mapping key. -/
def keyText? : Yaml.Value → Option String
  | .string text => some text
  | .bool value => some (toString value)
  | .number (.int value) => some (toString value)
  | .number (.float value) =>
    if value.isFinite then some (numberLayout.render value) else none
  | _ => none

/-- A finite number, or null. -/
def ofNumber (number : Number) : Value :=
  match number with
  | .float value => if value.isFinite then .number number else .null
  | .int _ => .number number

mutual

/-- The JSON form of a YAML value. -/
def ofYaml? : Yaml.Value → Option Value
  | .null => some .null
  | .bool value => some (.bool value)
  | .number value => some (ofNumber value)
  | .string text => some (.string text)
  | .sequence items => (ofItems? items).map .array
  | .mapping entries => (ofEntries? entries).map objectOf
  | .tagged tag value =>
    (ofYaml? value).map fun held => .object [(Yaml.tagLabel tag, held)]

/-- The JSON forms of items. -/
def ofItems? : List Yaml.Value → Option (List Value)
  | [] => some []
  | item :: rest => do
    let first ← ofYaml? item
    let others ← ofItems? rest
    return first :: others

/-- The members that entries of a mapping become. -/
def ofEntries? : List (Yaml.Value × Yaml.Value) → Option (List (String × Value))
  | [] => some []
  | (key, value) :: rest => do
    let name ← keyText? key
    let held ← ofYaml? value
    let others ← ofEntries? rest
    return (name, held) :: others

end

end Gatehouse.Json
