import Gatehouse.Decimal.Shortest
import Gatehouse.Yaml.Value

/-!
# How numbers and tags are written

The text of numbers and tags inside a YAML document.  Numbers have the
fewest digits that read back, positional from five places behind the point
to sixteen in front of it.
-/

namespace Gatehouse.Yaml

open Gatehouse.Decimal

/-- How a YAML document writes floating-point numbers. -/
def numberLayout : Layout where
  lowestPoint := some (-4)
  highestPoint := some 16
  keepsDecimal := true
  infinity := ".inf"
  negativeInfinity := "-.inf"
  notANumber := ".nan"

/-- The text of a number. -/
def Number.text : Number → String
  | .int value => toString value
  | .float value => numberLayout.render value

/-- A character that a tag shows as it is. -/
def isTagText (character : Char) : Bool :=
  character.isAlphanum || "-_;/?:@&=+$,.~*'()[]".contains character

/-- An octet as two uppercase hexadecimal digits behind a percent sign. -/
def percentEncoded (octet : UInt8) : List Char :=
  let digit (value : Nat) : Char :=
    Char.ofNat (if value < 10 then 48 + value else 55 + value)
  ['%', digit (octet.toNat / 16), digit (octet.toNat % 16)]

/-- The text of a tag, with octets escaped that a tag cannot show. -/
def tagContent (tag : String) : List Char :=
  tag.toList.flatMap fun character =>
    if isTagText character then [character]
    else (String.singleton character).toUTF8.toList.flatMap percentEncoded

/-- A tag as a document writes it. -/
def tagText (tag : String) : List Char :=
  if tag = "!" then ['!', '<'] ++ tagContent tag ++ ['>']
  else '!' :: tagContent tag

/-- A tag as messages show it. -/
def tagLabel (tag : String) : String :=
  "!" ++ tag

end Gatehouse.Yaml
