import Gatehouse.Config.Error
import Gatehouse.Text.Blank
import Gatehouse.Yaml.Read
import Gatehouse.Yaml.Render

/-!
# Variables in a document

Every string of a document is a template.  A string that is one variable and
nothing else is read again once its text is known, so that a number or a
boolean from outside becomes one; every other string stays a string.  Keys
are never templates.  The path of the string at fault is part of a refusal.
-/

namespace Gatehouse.Config

open Gatehouse.Yaml

/-- How a key is shown in the path of a setting. -/
def keyLabel : Value → String
  | .string text => text
  | key =>
    match Yaml.render key with
    | .ok text => Text.trimmedEnd text
    | .error _ => "?"

/-- The boolean or number that a text spells. -/
def scalarOf? (text : String) : Option Value :=
  match Yaml.read text with
  | .ok (.bool value) => some (.bool value)
  | .ok (.number value) => some (.number value)
  | _ => none

/-- What a string of a document stands for. -/
def resolveString (lookup : Variables) (text : String) :
    Except TemplateFault Value :=
  if text.toList.contains '$' then do
    let rendered ← Template.render lookup text
    if Template.isSingleVariable text then
      return (scalarOf? rendered).getD (.string rendered)
    else return .string rendered
  else .ok (.string text)

mutual

/-- A value with its templates filled in. -/
def interpolate (lookup : Variables) (keyPath : String) :
    Value → Except Error Value
  | .string text =>
    (resolveString lookup text).mapError (Error.ofTemplate keyPath)
  | .sequence items => do
    return .sequence (← interpolateItems lookup keyPath 0 items)
  | .mapping entries => do
    return .mapping (← interpolateEntries lookup (keyPath ++ ".") entries)
  | .tagged tag value => do
    return .tagged tag (← interpolate lookup keyPath value)
  | .null => .ok .null
  | .bool value => .ok (.bool value)
  | .number value => .ok (.number value)

/-- The items of a sequence with their templates filled in. -/
def interpolateItems (lookup : Variables) (keyPath : String) :
    Nat → List Value → Except Error (List Value)
  | _, [] => .ok []
  | index, item :: rest => do
    let item ← interpolate lookup
      (keyPath ++ "[" ++ toString index ++ "]") item
    let items ← interpolateItems lookup keyPath (index + 1) rest
    return item :: items

/-- The entries of a mapping with their templates filled in. -/
def interpolateEntries (lookup : Variables) (outer : String) :
    List (Value × Value) → Except Error (List (Value × Value))
  | [] => .ok []
  | (key, value) :: rest => do
    let value ← interpolate lookup (outer ++ keyLabel key) value
    let entries ← interpolateEntries lookup outer rest
    return (key, value) :: entries

end

/-- A document with its templates filled in. -/
def interpolateDocument (lookup : Variables) (entries : Mapping) :
    Except Error Mapping :=
  interpolateEntries lookup "" entries

end Gatehouse.Config
