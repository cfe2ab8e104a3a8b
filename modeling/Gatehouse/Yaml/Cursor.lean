import Gatehouse.Yaml.ReadError

/-!
# A place in a text

A cursor is the rest of the text together with the place reached: how many
characters lie before it, how many line breaks, and the column.  The
classes of characters that the grammar of YAML distinguishes stand beside
it.
-/

namespace Gatehouse.Yaml

/-- A character that ends a line. -/
def isLineBreak (character : Char) : Bool :=
  character == '\n' || character == '\r' || character == '\u0085' ||
    character == '\u2028' || character == '\u2029'

/-- A space or a tab. -/
def isSpacing (character : Char) : Bool :=
  character == ' ' || character == '\t'

/-- A character of a name: a letter, a digit, a dash or an underscore. -/
def isWordCharacter (character : Char) : Bool :=
  character.isAlphanum || character == '_' || character == '-'

/-- A character that a YAML text may hold. -/
def isAllowed (character : Char) : Bool :=
  let code := character.toNat
  code == 0x09 || code == 0x0A || code == 0x0D ||
    (0x20 ≤ code && code ≤ 0x7E) || code == 0x85 ||
    (0xA0 ≤ code && code ≤ 0xD7FF) || (0xE000 ≤ code && code ≤ 0xFFFD) ||
    0x10000 ≤ code

/-- The first characters are a space, a tab, a line break or nothing. -/
def endsWord : List Char → Bool
  | [] => true
  | character :: _ => isSpacing character || isLineBreak character

/-- The first characters are a line break or nothing. -/
def endsLine : List Char → Bool
  | [] => true
  | character :: _ => isLineBreak character

/-- The rest of a text and the place at which it begins. -/
structure Cursor where
  rest : List Char
  index : Nat
  line : Nat
  column : Nat
  deriving Repr

namespace Cursor

/-- The start of a text. -/
def start (characters : List Char) : Cursor :=
  ⟨characters, 0, 0, 0⟩

/-- Past some characters of one line. -/
def skip (cursor : Cursor) (count : Nat) : Cursor :=
  { cursor with
    rest := cursor.rest.drop count
    index := cursor.index + count
    column := cursor.column + count }

/-- The leading characters of a class, none of which ends a line. -/
def span (cursor : Cursor) (inClass : Char → Bool) : List Char × Cursor :=
  let taken := cursor.rest.takeWhile inClass
  (taken, cursor.skip taken.length)

/-- Past the leading characters of a class, none of which ends a line. -/
def skipWhile (cursor : Cursor) (inClass : Char → Bool) : Cursor :=
  (cursor.span inClass).2

/-- Past what is left of the line. -/
def skipLineRest (cursor : Cursor) : Cursor :=
  cursor.skipWhile fun character => !isLineBreak character

/--
The line break at the cursor as it counts in a scalar, and the cursor behind
it.  A carriage return with a line feed is one break, and all breaks but the
two separators count as a line feed.
-/
def takeBreak (cursor : Cursor) : List Char × Cursor :=
  match cursor.rest with
  | '\r' :: '\n' :: rest =>
    (['\n'], ⟨rest, cursor.index + 2, cursor.line + 1, 0⟩)
  | character :: rest =>
    if isLineBreak character then
      (if character == '\u2028' || character == '\u2029' then [character]
       else ['\n'],
       ⟨rest, cursor.index + 1, cursor.line + 1, 0⟩)
    else ([], cursor)
  | [] => ([], cursor)

/-- Past a line break, if there is one. -/
def skipBreak (cursor : Cursor) : Cursor :=
  cursor.takeBreak.2

/-- Whether a document marker made of three such characters begins here. -/
def atMarker (cursor : Cursor) (character : Char) : Bool :=
  cursor.column == 0 &&
    match cursor.rest with
    | first :: second :: third :: rest =>
      first == character && second == character && third == character &&
        endsWord rest
    | _ => false

/-- Whether a document start or a document end begins here. -/
def atDocumentMarker (cursor : Cursor) : Bool :=
  cursor.atMarker '-' || cursor.atMarker '.'

end Cursor

end Gatehouse.Yaml
