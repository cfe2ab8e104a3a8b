import Gatehouse.Text.Quoted
import Gatehouse.Yaml.Layout

/-!
# Values in messages

The form in which messages show a value, with the kind of every part spelled
out.  Keys of a mapping that are strings, numbers or booleans go without
their kind.
-/

namespace Gatehouse.Yaml.Value

open Gatehouse.Text

mutual

/-- A value as messages show it. -/
def inspect : Value → String
  | .null => "Null"
  | .bool value => "Bool(" ++ toString value ++ ")"
  | .number value => "Number(" ++ value.text ++ ")"
  | .string text => "String(" ++ quoted text ++ ")"
  | .sequence items => "Sequence [" ++ inspectItems items ++ "]"
  | .mapping entries => "Mapping \x7b" ++ inspectEntries entries ++ "\x7d"
  | .tagged tag value =>
    "TaggedValue \x7b tag: " ++ tagLabel tag ++ ", value: " ++
      inspect value ++ " \x7d"

/-- The items of a sequence, with commas between. -/
def inspectItems : List Value → String
  | [] => ""
  | [item] => inspect item
  | item :: rest => inspect item ++ ", " ++ inspectItems rest

/-- The entries of a mapping, with commas between. -/
def inspectEntries : List (Value × Value) → String
  | [] => ""
  | [(key, value)] => inspectKey key ++ ": " ++ inspect value
  | (key, value) :: rest =>
    inspectKey key ++ ": " ++ inspect value ++ ", " ++ inspectEntries rest

/-- A key of a mapping, without its kind where that is plain. -/
def inspectKey : Value → String
  | .bool value => toString value
  | .number value => value.text
  | .string text => quoted text
  | .null => "Null"
  | .sequence items => "Sequence [" ++ inspectItems items ++ "]"
  | .mapping entries => "Mapping \x7b" ++ inspectEntries entries ++ "\x7d"
  | .tagged tag value =>
    "TaggedValue \x7b tag: " ++ tagLabel tag ++ ", value: " ++
      inspect value ++ " \x7d"

end

end Gatehouse.Yaml.Value
