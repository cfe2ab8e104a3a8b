import Gatehouse.Text.Quoted
import Gatehouse.Yaml.Layout

/-!
# Typed readings of a value

Readers that turn a value into a typed setting.  A tag in front of a value
is ignored, and null counts as an empty list or an empty mapping where one
is expected.  A record is read field by field in the order of the value, and
the first failure wins.
-/

namespace Gatehouse.Yaml

open Gatehouse.Decimal
open Gatehouse.Text

/-- Why a value is no reading of the expected type. -/
inductive DecodeError where
  /-- A value of another kind than expected. -/
  | wrongType (found : Value) (expected : String)
  /-- An integer outside the range of the expected type. -/
  | outOfRange (found : Int) (expected : String)
  | unknownField (name : String) (expected : List String)
  | unknownVariant (name : String) (expected : List String)
  | repeatedField (name : String)
  deriving Repr

namespace DecodeError

/-- How messages show a floating-point number: always positionally. -/
def floatLayout : Layout where
  lowestPoint := none
  highestPoint := none
  keepsDecimal := true
  infinity := "inf"
  negativeInfinity := "-inf"
  notANumber := "NaN"

/-- How messages name what was found. -/
def describe : Value → String
  | .null => "unit value"
  | .bool value => "boolean `" ++ toString value ++ "`"
  | .number (.int value) => "integer `" ++ toString value ++ "`"
  | .number (.float value) =>
    "floating point `" ++ floatLayout.render value ++ "`"
  | .string text => "string " ++ quoted text
  | .sequence _ => "sequence"
  | .mapping _ => "map"
  | .tagged _ _ => "enum"

/-- A choice of names in words. -/
def oneOf : List String → String
  | [] => "nothing"
  | [only] => "`" ++ only ++ "`"
  | [first, second] => "`" ++ first ++ "` or `" ++ second ++ "`"
  | names =>
    "one of " ++ ", ".intercalate (names.map fun name => "`" ++ name ++ "`")

def message : DecodeError → String
  | .wrongType found expected =>
    "invalid type: " ++ describe found ++ ", expected " ++ expected
  | .outOfRange found expected =>
    "invalid value: integer `" ++ toString found ++ "`, expected " ++ expected
  | .unknownField name expected =>
    if expected.isEmpty then
      "unknown field `" ++ name ++ "`, there are no fields"
    else "unknown field `" ++ name ++ "`, expected " ++ oneOf expected
  | .unknownVariant name expected =>
    if expected.isEmpty then
      "unknown variant `" ++ name ++ "`, there are no variants"
    else "unknown variant `" ++ name ++ "`, expected " ++ oneOf expected
  | .repeatedField name => "duplicate field `" ++ name ++ "`"

end DecodeError

/-- A reader of values. -/
abbrev Decoder (Result : Type) : Type :=
  Value → Except DecodeError Result

namespace Decode

/-- A text. -/
def text : Decoder String := fun value =>
  match value.untagged with
  | .string text => .ok text
  | other => .error (.wrongType other "a string")

/-- A boolean. -/
def bool : Decoder Bool := fun value =>
  match value.untagged with
  | .bool value => .ok value
  | other => .error (.wrongType other "a boolean")

/-- A natural number below a bound, which messages name by its type. -/
def natural (bound : Nat) (name : String) : Decoder Nat := fun value =>
  match value.untagged with
  | .number (.int number) =>
    if 0 ≤ number && number < bound then .ok number.toNat
    else .error (.outOfRange number name)
  | other => .error (.wrongType other name)

/-- A floating-point number; integers are rounded to one. -/
def float : Decoder Binary64 := fun value =>
  match value.untagged with
  | .number (.int number) => .ok (Binary64.ofInt number)
  | .number (.float number) => .ok number
  | other => .error (.wrongType other "f64")

/-- Something that may be null. -/
def optional {Result : Type} (decoder : Decoder Result) :
    Decoder (Option Result)
  | .null => .ok none
  | value => (decoder value).map some

/-- A list of things of one kind. -/
def list {Result : Type} (decoder : Decoder Result) :
    Decoder (List Result) := fun value =>
  match value.untagged with
  | .sequence items => items.mapM decoder
  | .null => .ok []
  | other => .error (.wrongType other "a sequence")

/-- The entries of a mapping. -/
def entries (expected : String) : Decoder Mapping := fun value =>
  match value.untagged with
  | .mapping entries => .ok entries
  | .null => .ok []
  | other => .error (.wrongType other expected)

/-- Set the text of a name in a table ordered by the octets of its names. -/
def insertSorted (name value : String) :
    List (String × String) → List (String × String)
  | [] => [(name, value)]
  | (first, held) :: rest =>
    if name = first then (name, value) :: rest
    else if name < first then (name, value) :: (first, held) :: rest
    else (first, held) :: insertSorted name value rest

/-- A table of texts, ordered by name; of equal names the last one counts. -/
def textTable : Decoder (List (String × String)) := fun value => do
  let found ← entries "a map" value
  List.foldlM
    (fun table (entry : Value × Value) => do
      let name ← text entry.1
      let value ← text entry.2
      return insertSorted name value table)
    [] found

/-- One of several names, which may also be given as a tag. -/
def choice {Result : Type} (variants : List (String × Result)) :
    Decoder Result := fun value =>
  let pick (name : String) (payload : Value) : Except DecodeError Result :=
    match variants.lookup name with
    | some result =>
      if payload.isNull then .ok result
      else .error (.wrongType payload "unit")
    | none => .error (.unknownVariant name (variants.map Prod.fst))
  match value with
  | .string name => pick name .null
  | .tagged tag payload => pick tag payload
  | other => .error (.wrongType other "a Value::Tagged enum")

/-- A field of a record: its name and what its value does to the record. -/
structure Field (Settings : Type) where
  name : String
  apply : Value → Settings → Except DecodeError Settings

/-- A field whose value is read and then stored. -/
def Field.of {Settings Result : Type} (name : String)
    (decoder : Decoder Result) (store : Result → Settings → Settings) :
    Field Settings where
  name := name
  apply value settings := (decoder value).map fun result => store result settings

/-- Read the fields of a record one after the other. -/
def readFields {Settings : Type} (fields : List (Field Settings))
    (strict : Bool) :
    Mapping → List String → Settings → Except DecodeError Settings
  | [], _, settings => .ok settings
  | (key, value) :: rest, seen, settings =>
    match key.untagged with
    | .string name =>
      match fields.find? (·.name == name) with
      | some field =>
        if seen.contains name then .error (.repeatedField name)
        else do
          let settings ← field.apply value settings
          readFields fields strict rest (name :: seen) settings
      | none =>
        if strict then .error (.unknownField name (fields.map (·.name)))
        else readFields fields strict rest seen settings
    | other => .error (.wrongType other "field identifier")

/--
A record whose fields all have defaults.  Unknown fields are ignored unless
the record is strict.
-/
def record {Settings : Type} (name : String) (fields : List (Field Settings))
    (defaults : Settings) (strict : Bool) : Decoder Settings := fun value => do
  let found ← entries ("struct " ++ name) value
  readFields fields strict found [] defaults

end Decode

end Gatehouse.Yaml
