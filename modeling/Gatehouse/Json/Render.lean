import Gatehouse.Json.Value
import Gatehouse.Text.Quoted

/-!
# Writing JSON

Two forms of a value: one on a single line without blanks, and one with a
line for each item and member, indented by two blanks for each level.
-/

namespace Gatehouse.Json

/-- A control character as a code of four digits. -/
def controlCode (character : Char) : List Char :=
  let digits := Text.hexDigits character.toNat
  ['\\', 'u'] ++ List.replicate (4 - digits.length) '0' ++ digits

/-- A character as it appears between the quotes. -/
def escapeCharacter (character : Char) : List Char :=
  if character = '"' then ['\\', '"']
  else if character = '\\' then ['\\', '\\']
  else if character = '\n' then ['\\', 'n']
  else if character = '\r' then ['\\', 'r']
  else if character = '\t' then ['\\', 't']
  else if character = '\x08' then ['\\', 'b']
  else if character = '\x0c' then ['\\', 'f']
  else if character.toNat < 32 then controlCode character
  else [character]

/-- A text in double quotes. -/
def quoted (text : String) : String :=
  String.ofList ('"' :: (text.toList.flatMap escapeCharacter ++ ['"']))

mutual

/-- A value on a single line. -/
def compact : Value → String
  | .null => "null"
  | .bool value => toString value
  | .number value => numberText value
  | .string text => quoted text
  | .array items => "[" ++ ",".intercalate (compactItems items) ++ "]"
  | .object members =>
    "\x7b" ++ ",".intercalate (compactMembers members) ++ "\x7d"

/-- Items on a single line each. -/
def compactItems : List Value → List String
  | [] => []
  | item :: rest => compact item :: compactItems rest

/-- Members on a single line each. -/
def compactMembers : List (String × Value) → List String
  | [] => []
  | (name, value) :: rest =>
    (quoted name ++ ":" ++ compact value) :: compactMembers rest

end

/-- A line break and the blanks in front of a level. -/
def lineStart (level : Nat) : String :=
  String.ofList ('\n' :: List.replicate (2 * level) ' ')

/-- Lines between brackets; brackets alone if there are none. -/
def block (level : Nat) (opening closing : String) (lines : List String) :
    String :=
  if lines.isEmpty then opening ++ closing
  else
    opening ++ lineStart (level + 1) ++
      ("," ++ lineStart (level + 1)).intercalate lines ++
      lineStart level ++ closing

mutual

/-- A value with indented lines, at a level. -/
def indentedAt (level : Nat) : Value → String
  | .null => "null"
  | .bool value => toString value
  | .number value => numberText value
  | .string text => quoted text
  | .array items => block level "[" "]" (indentedItems (level + 1) items)
  | .object members =>
    block level "\x7b" "\x7d" (indentedMembers (level + 1) members)

/-- Items with indented lines. -/
def indentedItems (level : Nat) : List Value → List String
  | [] => []
  | item :: rest => indentedAt level item :: indentedItems level rest

/-- Members with indented lines. -/
def indentedMembers (level : Nat) : List (String × Value) → List String
  | [] => []
  | (name, value) :: rest =>
    (quoted name ++ ": " ++ indentedAt level value) ::
      indentedMembers level rest

end

/-- A value with indented lines. -/
def indented (value : Value) : String :=
  indentedAt 0 value

end Gatehouse.Json
