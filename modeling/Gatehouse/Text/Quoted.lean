import Gatehouse.Text.Printable

/-!
# Quoted text for messages

The form in which messages show a text: double quotes around it, named
escapes for the common control characters, and a braced hexadecimal code for
every other character that would not be seen.
-/

namespace Gatehouse.Text

/-- The lowercase hexadecimal digits of a number, at least one. -/
def hexDigits (number : Nat) : List Char :=
  Nat.toDigits 16 number

/-- A character as it appears between the quotes. -/
def escapeCharacter (character : Char) : List Char :=
  if character = '\x00' then ['\\', '0']
  else if character = '\t' then ['\\', 't']
  else if character = '\r' then ['\\', 'r']
  else if character = '\n' then ['\\', 'n']
  else if character = '"' then ['\\', '"']
  else if character = '\\' then ['\\', '\\']
  else if extendsGrapheme character || !isPrintable character then
    ['\\', 'u', '\x7b'] ++ hexDigits character.toNat ++ ['\x7d']
  else [character]

/-- The text in double quotes, with everything invisible escaped. -/
def quoted (text : String) : String :=
  String.ofList ('"' :: (text.toList.flatMap escapeCharacter ++ ['"']))

/-- Texts in brackets, each quoted, with a comma and a space between. -/
def quotedList (texts : List String) : String :=
  "[" ++ ", ".intercalate (texts.map quoted) ++ "]"

end Gatehouse.Text
