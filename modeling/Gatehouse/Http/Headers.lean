import Gatehouse.Text.Octets

/-!
# Headers

Headers are a list of names with values.  One name may have several values,
whose order counts; the order of different names does not.  Names are held
in lowercase letters, so names that differ in case are one name, and values
are octets, which need not be text.
-/

namespace Gatehouse.Http

open Gatehouse.Text

/-- A character of a header name. -/
def isNameCharacter (character : Char) : Bool :=
  character.isAlphanum || "!#$%&'*+-.^_`|~".toList.contains character

/-- How long a header name may be, in characters. -/
def nameLimit : Nat := 65535

/-- The header name that a text spells, in lowercase letters. -/
def headerName? (text : String) : Option String :=
  let characters := text.toList
  if !characters.isEmpty && characters.length ≤ nameLimit &&
      characters.all isNameCharacter then
    some (String.ofList (characters.map Char.toLower))
  else none

/-- An octet of a header value: a tab, or none of the control characters. -/
def isValueOctet (octet : UInt8) : Bool :=
  octet == 9 || (32 ≤ octet && octet != 127)

/-- The header value that a text spells. -/
def headerValue? (text : String) : Option Octets :=
  let content := octets text
  if content.all isValueOctet then some content else none

/-- An octet of a value that can be read as text. -/
def isVisibleOctet (octet : UInt8) : Bool :=
  octet == 9 || (32 ≤ octet && octet < 127)

/-- The text of a value without any octet outside the visible range. -/
def visibleText? (value : Octets) : Option String :=
  if value.all isVisibleOctet then
    some (String.ofList (value.map fun octet => Char.ofNat octet.toNat))
  else none

/-- A header: its name in lowercase letters and its value. -/
structure Header where
  name : String
  value : Octets
  deriving DecidableEq, Repr

/-- Headers in the order in which they were set. -/
abbrev Headers : Type := List Header

namespace Headers

/-- The values of a name, in order. -/
def values (headers : Headers) (name : String) : List Octets :=
  (headers.filter (·.name == name)).map Header.value

/-- The first value of a name. -/
def first? (headers : Headers) (name : String) : Option Octets :=
  (headers.values name).head?

/-- The first value of a name, if it can be read as text. -/
def text? (headers : Headers) (name : String) : Option String :=
  (headers.first? name).bind visibleText?

/-- Whether a name has a value. -/
def has (headers : Headers) (name : String) : Bool :=
  headers.any (·.name == name)

/-- One more value of a name. -/
def append (headers : Headers) (name : String) (value : Octets) : Headers :=
  headers ++ [⟨name, value⟩]

/-- The only value of a name. -/
def set (headers : Headers) (name : String) (value : Octets) : Headers :=
  append (headers.filter (·.name != name)) name value

/-- A value of a name that has none yet. -/
def fill (headers : Headers) (name : String) (value : Octets) : Headers :=
  if headers.has name then headers else headers.append name value

theorem values_append (headers : Headers) (name other : String)
    (value : Octets) :
    (headers.append name value).values other =
      headers.values other ++ if name = other then [value] else [] := by
  by_cases same : name = other <;>
    simp [values, append, List.filter_append, same]

theorem has_append (headers : Headers) (name other : String)
    (value : Octets) :
    (headers.append name value).has other =
      (headers.has other || name == other) := by
  simp [has, append]

end Headers

end Gatehouse.Http
