import Gatehouse.Yaml.Token.Folding

/-!
# Plain scalars in a text

A plain scalar runs over words and gaps until a comment, a document marker,
a colon before white space, an indicator of a surrounding flow collection,
or a line that is not indented enough.
-/

namespace Gatehouse.Yaml

/-- A character that ends a plain scalar inside a flow collection. -/
def isFlowIndicator (character : Char) : Bool :=
  character == ',' || character == '[' || character == ']' ||
    character == '\x7b' || character == '\x7d'

/-- A character that may not follow a colon inside a flow collection. -/
def isForbiddenAfterColon (character : Char) : Bool :=
  isFlowIndicator character || character == '?'

/-- The leading word of a plain scalar, up to white space or an indicator. -/
def plainWord (inFlow : Bool) : List Char → Except ReadError (List Char)
  | [] => .ok []
  | character :: rest =>
    if isSpacing character || isLineBreak character then .ok []
    else if inFlow && character == ':' && rest.head?.any isForbiddenAfterColon then
      .error .strayColon
    else if character == ':' && endsWord rest then .ok []
    else if inFlow && isFlowIndicator character then .ok []
    else (plainWord inFlow rest).map (character :: ·)

/-- A plain scalar as it is read. -/
structure PlainScalar where
  text : List Char
  /-- Whether white space behind the scalar crosses a line end. -/
  crossesLine : Bool
  cursor : Cursor
  deriving Repr

/--
The words and gaps of a plain scalar from the cursor on, where `gap` is the
white space since the last word.
-/
def plainWords (inFlow : Bool) (indent : Nat) :
    Nat → Cursor → Gap → List Char → Except ReadError PlainScalar
  | 0, cursor, gap, text => .ok ⟨text, gap.crossesLine, cursor⟩
  | fuel + 1, cursor, gap, text =>
    if cursor.atDocumentMarker || cursor.rest.head? == some '#' then
      .ok ⟨text, gap.crossesLine, cursor⟩
    else do
      let word ← plainWord inFlow cursor.rest
      let behind := cursor.skip word.length
      let (text, gap) :=
        if word.isEmpty then (text, gap)
        else (text ++ gap.folded ++ word, Gap.empty)
      if behind.rest.isEmpty || !endsWord behind.rest then
        .ok ⟨text, gap.crossesLine, behind⟩
      else
        let (gap, next) ← behind.takeGap indent behind.rest.length gap
        if !inFlow && next.column < indent then
          .ok ⟨text, gap.crossesLine, next⟩
        else plainWords inFlow indent fuel next gap text

/-- The plain scalar at the cursor. -/
def Cursor.plainScalar (cursor : Cursor) (inFlow : Bool) (indent : Nat) :
    Except ReadError PlainScalar :=
  plainWords inFlow indent (cursor.rest.length + 1) cursor Gap.empty []

end Gatehouse.Yaml
