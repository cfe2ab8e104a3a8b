import Gatehouse.Decimal.Binary64

/-!
# YAML values

The data a YAML document stands for: scalars, sequences, mappings that keep
the order of their entries, and values marked with a local tag.

Two values name the same mapping key when their *key codes* agree.  A key
code forgets what equality of keys ignores: the order of the entries of a
mapping, the sign of a zero, and which not-a-number is meant.  `Mapping.put`
replaces the value of an equal key in place and otherwise appends, so an
overlay keeps the positions of the lower mapping and adds new keys in the
order of the upper one.
-/

namespace Gatehouse.Yaml

open Gatehouse.Decimal

/-- An integer or a binary floating-point number. -/
inductive Number where
  | int (value : Int)
  | float (value : Binary64)
  deriving DecidableEq, Repr, Inhabited

/--
A YAML value.  A mapping lists its entries in document order, and a tag is
held without its exclamation mark.
-/
inductive Value where
  | null
  | bool (value : Bool)
  | number (value : Number)
  | string (text : String)
  | sequence (items : List Value)
  | mapping (entries : List (Value × Value))
  | tagged (tag : String) (value : Value)
  deriving Repr, Inhabited

/-- The entries of a mapping, in order. -/
abbrev Mapping : Type := List (Value × Value)

namespace Value

/-- An integer value. -/
def int (value : Int) : Value :=
  .number (.int value)

/-- A text, or null. -/
def optionalText (text : Option String) : Value :=
  text.elim .null .string

/-- A list of texts. -/
def texts (items : List String) : Value :=
  .sequence (items.map .string)

/-- A mapping with the given names as keys. -/
def recordOf (fields : List (String × Value)) : Value :=
  .mapping (fields.map fun field => (.string field.1, field.2))

/-- A mapping of texts to texts. -/
def textTable (table : List (String × String)) : Value :=
  recordOf (table.map fun entry => (entry.1, .string entry.2))

/-- The text of a string value. -/
def text? : Value → Option String
  | .string text => some text
  | _ => none

/-- The value behind all tags. -/
def untagged : Value → Value
  | .tagged _ value => untagged value
  | value => value

/-- The text of a string value, whatever tags it has. -/
def label? (value : Value) : Option String :=
  value.untagged.text?

/-- The entries of a mapping value. -/
def entries? : Value → Option Mapping
  | .mapping entries => some entries
  | _ => none

/-- Whether the value is the null value. -/
def isNull : Value → Bool
  | .null => true
  | _ => false

/-- A list of numbers that comes before another one, item by item. -/
def codeBefore : List Nat → List Nat → Bool
  | [], _ => true
  | _ :: _, [] => false
  | left :: lefts, right :: rights =>
    if left < right then true
    else if right < left then false
    else codeBefore lefts rights

/-- Insert a code into an ordered list of codes. -/
def insertCode (code : List Nat) : List (List Nat) → List (List Nat)
  | [] => [code]
  | first :: rest =>
    if codeBefore code first then code :: first :: rest
    else first :: insertCode code rest

/-- The code of a text: its length and its characters. -/
def textCode (text : String) : List Nat :=
  text.length :: text.toList.map Char.toNat

/-- The code of a number; floats that compare equal share one. -/
def numberCode : Number → List Nat
  | .int value => [2, if value < 0 then 1 else 0, value.natAbs]
  | .float value =>
    if value.isNaN then [3, 0]
    else if value.isZero then [3, 1]
    else [3, 2, value.bits.toNat]

mutual

/-- What is left of a value when it is compared as a key. -/
def keyCode : Value → List Nat
  | .null => [0]
  | .bool value => [1, if value then 1 else 0]
  | .number value => numberCode value
  | .string text => 4 :: textCode text
  | .sequence items => 5 :: items.length :: itemsCode items
  | .mapping entries =>
    6 :: entries.length ::
      ((entryCodes entries).foldr insertCode []).flatten
  | .tagged tag value => 7 :: (textCode tag ++ keyCode value)

/-- The codes of the items of a sequence, one after the other. -/
def itemsCode : List Value → List Nat
  | [] => []
  | item :: rest => keyCode item ++ itemsCode rest

/-- One code for each entry of a mapping. -/
def entryCodes : List (Value × Value) → List (List Nat)
  | [] => []
  | (key, value) :: rest => (keyCode key ++ keyCode value) :: entryCodes rest

end

/-- Whether two values name the same key. -/
def sameKey (left right : Value) : Bool :=
  match left, right with
  | .string first, .string second => first == second
  | _, _ => left.keyCode == right.keyCode

end Value

namespace Mapping

/-- The value of a key. -/
def find? (entries : Mapping) (key : Value) : Option Value :=
  (List.find? (fun entry => entry.1.sameKey key) entries).map Prod.snd

/-- The value of a string key. -/
def get? (entries : Mapping) (key : String) : Option Value :=
  find? entries (.string key)

/-- Whether a string key is present. -/
def has (entries : Mapping) (key : String) : Bool :=
  (get? entries key).isSome

/-- Set the value of a key, in its place or at the end. -/
def put : Mapping → Value → Value → Mapping
  | [], key, value => [(key, value)]
  | entry :: rest, key, value =>
    if entry.1.sameKey key then (entry.1, value) :: rest
    else entry :: put rest key value

/-- The entries without the one of a string key. -/
def drop (entries : Mapping) (key : String) : Mapping :=
  List.filter (fun entry => !entry.1.sameKey (.string key)) entries

/-- The lower mapping with every entry of the upper one set in it. -/
def overlay (lower upper : Mapping) : Mapping :=
  List.foldl (fun entries entry => put entries entry.1 entry.2) lower upper

/-- The string keys in order. -/
def textKeys (entries : Mapping) : List String :=
  List.filterMap (fun entry => entry.1.text?) entries

@[simp]
theorem overlay_nil (lower : Mapping) : overlay lower [] = lower := rfl

@[simp]
theorem overlay_cons (lower upper : Mapping) (entry : Value × Value) :
    overlay lower (entry :: upper) =
      overlay (put lower entry.1 entry.2) upper := rfl

theorem overlay_append (lower upper more : Mapping) :
    overlay lower (upper ++ more) = overlay (overlay lower upper) more := by
  simp [overlay]

end Mapping

end Gatehouse.Yaml
