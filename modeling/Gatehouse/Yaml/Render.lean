import Gatehouse.Yaml.Cursor
import Gatehouse.Yaml.Layout
import Gatehouse.Yaml.Mark
import Gatehouse.Yaml.Scalar

/-!
# Writing a YAML document

Values are written in block style: one entry or item a line, sequences
inside mappings without indentation of their own.  A string is written
plain when the plain form reads back as the same string, as a literal block
when it has several lines, and in quotes otherwise.  A few values with
mappings of one entry cannot be written.
-/

namespace Gatehouse.Yaml

/-- How a string is written. -/
inductive Quoting where
  | plain
  | single
  | double
  | literal
  deriving DecidableEq, Repr

/-- A character that a document shows as it is. -/
def isShown (character : Char) : Bool :=
  let code := character.toNat
  code == 0x0A || (0x20 ≤ code && code ≤ 0x7E) ||
    (0xA0 ≤ code && code ≤ 0xFFFD && code != 0xFEFF) || 0x10000 ≤ code

/-- What decides how a string may be written. -/
structure ScalarShape where
  multiline : Bool
  plainAllowed : Bool
  singleAllowed : Bool
  blockAllowed : Bool
  deriving DecidableEq, Repr

/-- Whether an indicator at the front keeps a string from being plain. -/
def startsWithIndicator (character : Char) (rest : List Char) : Bool :=
  "#,[]\x7b\x7d&*!|>'\"%@`".contains character ||
    ("?:-".contains character && endsWord rest)

/-- Whether an indicator behind the front keeps a string from being plain. -/
def holdsIndicator : List Char → Bool
  | before :: character :: rest =>
    (character == ':' && endsWord rest) ||
      (character == '#' && (isSpacing before || isLineBreak before)) ||
      holdsIndicator (character :: rest)
  | _ => false

/-- Whether a character of the first class is followed by one of the second. -/
def hasPair (first second : Char → Bool) : List Char → Bool
  | left :: right :: rest =>
    (first left && second right) || hasPair first second (right :: rest)
  | _ => false

/-- The shape of a string. -/
def ScalarShape.of (characters : List Char) : ScalarShape :=
  match characters with
  | [] => ⟨false, true, true, false⟩
  | first :: rest =>
    let isSpace := (· == ' ')
    let last := characters.getLast?
    let edgeSpace := isSpace first || last.any isSpace
    let edgeBreak := isLineBreak first || last.any isLineBreak
    let multiline := characters.any isLineBreak
    let hidden := characters.any fun character => !isShown character
    let breakSpace := hasPair isLineBreak isSpace characters
    let spaceBreak := hasPair isSpace isLineBreak characters
    let marker :=
      ['-', '-', '-'].isPrefixOf characters || ['.', '.', '.'].isPrefixOf characters
    let indicator :=
      marker || startsWithIndicator first rest || holdsIndicator characters
    let broken := spaceBreak || hidden
    { multiline := multiline
      plainAllowed :=
        !(edgeSpace || edgeBreak || breakSpace || broken || multiline || indicator)
      singleAllowed := !(breakSpace || broken)
      blockAllowed := !(last.any isSpace || broken) }

/-- Whether the plain form of a string reads back as something else. -/
def readsOtherwise (text : String) : Bool :=
  Scalar.hasLeadingZero text.toList ||
    match Scalar.read text with
    | .value (.string _) => false
    | _ => true

/-- How a string is written, as a key on the line of its value or elsewhere. -/
def Quoting.of (text : String) (asKey : Bool) : Quoting :=
  let shape := ScalarShape.of text.toList
  let quoted := if shape.singleAllowed then single else double
  if asKey && shape.multiline then double
  else if text.contains '\n' then
    if shape.blockAllowed && !asKey then literal else double
  else if readsOtherwise text || !shape.plainAllowed then quoted
  else plain

/-- Spaces up to a column. -/
def spaces (count : Nat) : List Char :=
  List.replicate count ' '

/--
The content of a string in single quotes, with lines indented, the last one
even if nothing but the quote stands on it.
-/
def singleQuoted (indent : Nat) : List Char → Bool → List Char
  | [], afterBreak => if afterBreak then spaces indent else []
  | character :: rest, afterBreak =>
    if character == ' ' then character :: singleQuoted indent rest false
    else if isLineBreak character then
      character :: singleQuoted indent rest true
    else
      (if afterBreak then spaces indent else []) ++
        (if character == '\'' then ['\'', '\''] else [character]) ++
        singleQuoted indent rest false

/-- A number in uppercase hexadecimal digits, padded with zeros. -/
def paddedHex (width code : Nat) : List Char :=
  let digits := (Nat.toDigits 16 code).map Char.toUpper
  List.replicate (width - digits.length) '0' ++ digits

/-- A character as it appears between double quotes. -/
def doubleQuotedCharacter (character : Char) : List Char :=
  if isShown character && !isLineBreak character && character != '"' &&
      character != '\\' then [character]
  else
    let code := character.toNat
    '\\' ::
      (if code = 0x00 then ['0']
      else if code = 0x07 then ['a']
      else if code = 0x08 then ['b']
      else if code = 0x09 then ['t']
      else if code = 0x0A then ['n']
      else if code = 0x0B then ['v']
      else if code = 0x0C then ['f']
      else if code = 0x0D then ['r']
      else if code = 0x1B then ['e']
      else if code = 0x22 then ['"']
      else if code = 0x5C then ['\\']
      else if code = 0x85 then ['N']
      else if code = 0xA0 then ['_']
      else if code = 0x2028 then ['L']
      else if code = 0x2029 then ['P']
      else if code ≤ 0xFF then 'x' :: paddedHex 2 code
      else if code ≤ 0xFFFF then 'u' :: paddedHex 4 code
      else 'U' :: paddedHex 8 code)

/-- The header of a literal block: an indentation and a chomping indicator. -/
def literalHeader (characters : List Char) : List Char :=
  let hint :=
    if characters.head?.any fun first => first == ' ' || isLineBreak first then
      ['2']
    else []
  let chomping :=
    match characters.reverse with
    | [] => ['-']
    | last :: before =>
      if !isLineBreak last then ['-']
      else if before.head?.all isLineBreak then ['+']
      else []
  '|' :: (hint ++ chomping)

/-- The lines of a literal block. -/
def literalLines (indent : Nat) : List Char → Bool → List Char
  | [], _ => []
  | character :: rest, atStart =>
    if isLineBreak character then character :: literalLines indent rest true
    else
      (if atStart then spaces indent else []) ++
        character :: literalLines indent rest false

/-- A string in a given quoting, with continuation lines indented. -/
def quotedText (quoting : Quoting) (indent : Nat) (text : String) :
    List Char :=
  let characters := text.toList
  match quoting with
  | .plain => characters
  | .single => '\'' :: (singleQuoted indent characters false ++ ['\''])
  | .double => '"' :: (characters.flatMap doubleQuotedCharacter ++ ['"'])
  | .literal =>
    literalHeader characters ++ '\n' :: literalLines indent characters true

/-- Where a value is about to be written. -/
structure Place where
  /-- The indentation of the surrounding collection, none at the top. -/
  indent : Option Nat
  /-- Whether a space has to come first. -/
  spaced : Bool
  /-- Whether the surrounding collection is a mapping. -/
  inMapping : Bool
  /-- Whether only indentation and indicators precede it on the line. -/
  fresh : Bool

namespace Place

/-- The top of a document. -/
def top : Place :=
  ⟨none, false, false, true⟩

/-- The place behind a tag. -/
def afterTag (place : Place) : Place :=
  { place with spaced := true, fresh := false }

/-- The separating space, where one is needed. -/
def gap (place : Place) : List Char :=
  if place.spaced then [' '] else []

/-- The indentation of the lines of a scalar. -/
def scalarIndent (place : Place) : Nat :=
  match place.indent with
  | none => 2
  | some indent => indent + 2

/-- The indentation of the entries of a mapping. -/
def entryIndent (place : Place) : Nat :=
  match place.indent with
  | none => 0
  | some indent => indent + 2

/-- The indentation of the items of a sequence. -/
def itemIndent (place : Place) : Nat :=
  match place.indent with
  | none => 0
  | some indent =>
    if place.inMapping && !place.fresh then indent else indent + 2

/-- What leads from the place to the first line of a collection. -/
def opening (place : Place) (indent : Nat) : List Char :=
  if place.fresh then
    spaces (indent - (match place.indent with
      | none => 0
      | some outer => outer + 1))
  else '\n' :: spaces indent

end Place

/-- What leads from written text to the next line of a collection. -/
def nextLine (written : List Char) (indent : Nat) : List Char :=
  if written.getLast?.any isLineBreak then spaces indent
  else '\n' :: spaces indent

/-- Lines joined so that each but the first begins on a line of its own. -/
def joinLines (indent : Nat) : List (List Char) → List Char
  | [] => []
  | [line] => line
  | line :: rest => line ++ nextLine line indent ++ joinLines indent rest

/-- The text of a scalar that needs no quotes, if the value is one. -/
def bareScalar? : Value → Option (List Char)
  | .null => some "null".toList
  | .bool value => some (if value then "true".toList else "false".toList)
  | .number value => some value.text.toList
  | .sequence [] => some ['[', ']']
  | .mapping [] => some ['\x7b', '\x7d']
  | _ => none

/-- The text of a key that stands on the line of its value, if it can. -/
def simpleKey? : Value → Option (List Char)
  | .tagged tag value =>
    (simpleKey? value).map fun text => tagText tag ++ ' ' :: text
  | .string text =>
    if (ScalarShape.of text.toList).multiline then none
    else some (quotedText (Quoting.of text true) 0 text)
  | value => bareScalar? value

/-- How long a key may be that stands on the line of its value. -/
def simpleKeyLimit : Nat := 128

/-- The length that decides about a key: octets of its tag and its content. -/
def keyLength : Value → Nat
  | .tagged tag value => tag.utf8ByteSize + 1 + keyLength value
  | .string text => text.utf8ByteSize
  | .sequence _ | .mapping _ => 0
  | value => ((bareScalar? value).getD []).length

/-- The simple form of a key, unless it is too long for it. -/
def keyLine? (key : Value) : Option (List Char) :=
  if keyLength key ≤ simpleKeyLimit then simpleKey? key else none

mutual

/-- A value from a place on, ending at the last character that belongs to it. -/
def renderAt (place : Place) : Value → List Char
  | .tagged tag value =>
    place.gap ++ tagText tag ++ renderAt place.afterTag value
  | .string text =>
    place.gap ++ quotedText (Quoting.of text false) place.scalarIndent text
  | .sequence (item :: items) =>
    let indent := place.itemIndent
    place.opening indent ++ joinLines indent (itemLines indent (item :: items))
  | .mapping (entry :: entries) =>
    let indent := place.entryIndent
    place.opening indent ++
      joinLines indent (entryLines indent (entry :: entries))
  | .null => place.gap ++ "null".toList
  | .bool value =>
    place.gap ++ (if value then "true".toList else "false".toList)
  | .number value => place.gap ++ value.text.toList
  | .sequence [] => place.gap ++ ['[', ']']
  | .mapping [] => place.gap ++ ['\x7b', '\x7d']

/-- The lines of the items of a sequence. -/
def itemLines (indent : Nat) : List Value → List (List Char)
  | [] => []
  | item :: rest =>
    ('-' :: renderAt ⟨some indent, true, false, true⟩ item) ::
      itemLines indent rest

/-- The lines of the entries of a mapping. -/
def entryLines (indent : Nat) : List (Value × Value) → List (List Char)
  | [] => []
  | (key, value) :: rest =>
    (match keyLine? key with
    | some line =>
      line ++ ':' :: renderAt ⟨some indent, true, true, false⟩ value
    | none =>
      let keyText := '?' :: renderAt ⟨some indent, true, true, true⟩ key
      keyText ++ nextLine keyText indent ++
        ':' :: renderAt ⟨some indent, true, true, true⟩ value) ::
      entryLines indent rest

end

/-- The text of a document that holds a value. -/
def render (value : Value) : Except MarkFault String := do
  checkMarks value
  let text := renderAt Place.top value
  return String.ofList
    (if text.getLast?.any isLineBreak then text else text ++ ['\n'])

end Gatehouse.Yaml
