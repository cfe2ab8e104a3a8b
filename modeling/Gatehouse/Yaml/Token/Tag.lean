import Gatehouse.Text.Octets
import Gatehouse.Yaml.Cursor
import Gatehouse.Yaml.Token

/-!
# Tags, anchors and directives in a text

The tokens that begin with an exclamation mark, an ampersand, an asterisk or
a percent sign.  A tag is kept as octets, because percent escapes in it may
spell octets that are no text.
-/

namespace Gatehouse.Yaml

/-- A character of a tag; those that close flow collections only in full ones. -/
def isTagCharacter (full : Bool) (character : Char) : Bool :=
  isWordCharacter character || ";/?:@&=+$.%!~*'()".contains character ||
    (full && (character == ',' || character == '[' || character == ']'))

/-- The value of the two hexadecimal digits of a percent escape. -/
def percentOctet? : List Char → Option Nat
  | '%' :: high :: low :: _ => do
    let value (character : Char) : Option Nat :=
      if '0' ≤ character && character ≤ '9' then some (character.toNat - 48)
      else if 'a' ≤ character && character ≤ 'f' then some (character.toNat - 87)
      else if 'A' ≤ character && character ≤ 'F' then some (character.toNat - 55)
      else none
    let high ← value high
    let low ← value low
    return 16 * high + low
  | _ => none

/-- How many octets a character takes that begins with this one. -/
def octetWidth? (octet : Nat) : Option Nat :=
  if octet < 0x80 then some 1
  else if octet / 0x20 = 0x06 then some 2
  else if octet / 0x10 = 0x0E then some 3
  else if octet / 0x08 = 0x1E then some 4
  else none

/-- The octets after the first of a character spelled by percent escapes. -/
def trailingOctets? : Nat → List Char → Option (List UInt8)
  | 0, _ => some []
  | count + 1, characters => do
    let octet ← percentOctet? characters
    if octet / 0x40 = 0x02 then
      let rest ← trailingOctets? count (characters.drop 3)
      return UInt8.ofNat octet :: rest
    else none

/-- The octets of one character spelled by percent escapes. -/
def percentEscape? (characters : List Char) : Option (List UInt8) := do
  let octet ← percentOctet? characters
  let width ← octetWidth? octet
  let rest ← trailingOctets? (width - 1) (characters.drop 3)
  return UInt8.ofNat octet :: rest

/-- The octets of a tag and how many characters spell them. -/
def tagOctets (full : Bool) :
    Nat → List Char → Except ReadError (List UInt8 × Nat)
  | 0, _ => .ok ([], 0)
  | fuel + 1, characters =>
    match characters with
    | [] => .ok ([], 0)
    | character :: rest =>
      if !isTagCharacter full character then .ok ([], 0)
      else if character == '%' then
        match percentEscape? characters with
        | none => .error .invalidTag
        | some spelled => do
          let length := 3 * spelled.length
          let (more, count) ← tagOctets full fuel (characters.drop length)
          return (spelled ++ more, count + length)
      else do
        let (more, count) ← tagOctets full fuel rest
        return (Text.octets (String.singleton character) ++ more, count + 1)

/-- Octets up to the first zero, where a tag ends. -/
def upToZero (bytes : List UInt8) : List UInt8 :=
  bytes.takeWhile (· != 0)

/-- The tag at the cursor, which stands on its exclamation mark. -/
def Cursor.tag (cursor : Cursor) (inFlow : Bool) :
    Except ReadError (Token × Cursor) := do
  let (token, behind) ←
    if cursor.rest[1]? == some '<' then do
      let body := cursor.skip 2
      let (bytes, count) ← tagOctets true body.rest.length body.rest
      let behind := body.skip count
      if count == 0 || behind.rest.head? != some '>' then
        throw .invalidTag
      pure (Token.tag [] (upToZero bytes), behind.skip 1)
    else do
      let (word, afterWord) := (cursor.skip 1).span isWordCharacter
      if afterWord.rest.head? == some '!' then do
        let body := afterWord.skip 1
        let (bytes, count) ← tagOctets false body.rest.length body.rest
        if count == 0 then
          throw .invalidTag
        pure (Token.tag ('!' :: word ++ ['!']) (upToZero bytes), body.skip count)
      else do
        let (bytes, count) ← tagOctets false afterWord.rest.length afterWord.rest
        let bytes := upToZero (Text.octets (String.ofList word) ++ bytes)
        pure
          (if bytes.isEmpty then Token.tag [] (Text.octets "!")
           else Token.tag ['!'] bytes,
           afterWord.skip count)
  if endsWord behind.rest || (inFlow && behind.rest.head? == some ',') then
    return (token, behind)
  else throw .invalidTag

/-- The name behind an ampersand or an asterisk. -/
def Cursor.anchorName (cursor : Cursor) :
    Except ReadError (String × Cursor) :=
  let (name, behind) := (cursor.skip 1).span isWordCharacter
  let ends :=
    endsWord behind.rest ||
      behind.rest.head?.any fun character => "?:,]\x7d%@`".contains character
  if name.isEmpty || !ends then .error .invalidAnchor
  else .ok (String.ofList name, behind)

/-- A number of a version directive: one to nine digits. -/
def versionNumber (characters : List Char) :
    Except ReadError (Nat × List Char) :=
  let digits := characters.takeWhile Char.isDigit
  if digits.isEmpty || 9 < digits.length then .error .invalidDirective
  else
    .ok (digits.foldl (fun value digit => 10 * value + (digit.toNat - 48)) 0,
      characters.dropWhile Char.isDigit)

/-- The two numbers of a version directive. -/
def versionValue (characters : List Char) :
    Except ReadError (Token × List Char) := do
  let (major, rest) ← versionNumber (characters.dropWhile isSpacing)
  match rest with
  | '.' :: rest =>
    let (minor, rest) ← versionNumber rest
    return (.versionDirective major minor, rest)
  | _ => throw .invalidDirective

/-- The handle and the meaning of a tag directive. -/
def tagDirectiveValue (characters : List Char) :
    Except ReadError (Token × List Char) := do
  match characters.dropWhile isSpacing with
  | '!' :: rest =>
    let word := rest.takeWhile isWordCharacter
    let (handle, rest) ←
      match rest.dropWhile isWordCharacter with
      | '!' :: rest => pure ('!' :: word ++ ['!'], rest)
      | rest =>
        if word.isEmpty then pure (['!'], rest) else throw .invalidDirective
    if !rest.head?.any isSpacing then
      throw .invalidDirective
    let rest := rest.dropWhile isSpacing
    let (bytes, count) ← tagOctets true rest.length rest
    let behind := rest.drop count
    if count == 0 || !endsWord behind then
      throw .invalidDirective
    return (.tagDirective handle (upToZero bytes), behind)
  | _ => throw .invalidDirective

/-- The directive at the cursor, which stands on its percent sign. -/
def Cursor.directive (cursor : Cursor) :
    Except ReadError (Token × Cursor) := do
  let line := cursor.rest.takeWhile fun character => !isLineBreak character
  let body := line.drop 1
  let name := body.takeWhile isWordCharacter
  let rest := body.dropWhile isWordCharacter
  if name.isEmpty || !endsWord rest then
    throw .invalidDirective
  let (token, rest) ←
    if name = ['Y', 'A', 'M', 'L'] then versionValue rest
    else if name = ['T', 'A', 'G'] then tagDirectiveValue rest
    else throw .invalidDirective
  let rest := rest.dropWhile isSpacing
  if rest.isEmpty || rest.head? == some '#' then
    return (token, cursor.skipLineRest.skipBreak)
  else throw .invalidDirective

end Gatehouse.Yaml
