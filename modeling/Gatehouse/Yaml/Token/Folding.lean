import Gatehouse.Yaml.Cursor

/-!
# White space inside flow scalars

Between two words of a plain or quoted scalar stands a gap.  A gap without a
line break counts as written; in a gap with line breaks the blanks go, a
single line feed becomes a space and further breaks are kept.
-/

namespace Gatehouse.Yaml

/-- White space between two words of a scalar. -/
inductive Gap where
  | blanks (characters : List Char)
  /-- The first line break, possibly escaped away, and the ones after it. -/
  | breaks (first : List Char) (more : List Char)
  deriving DecidableEq, Repr

namespace Gap

/-- No white space at all. -/
def empty : Gap :=
  .blanks []

/-- Whether the gap crosses a line end. -/
def crossesLine : Gap → Bool
  | .blanks _ => false
  | .breaks _ _ => true

/-- What a gap contributes to the scalar. -/
def folded : Gap → List Char
  | .blanks characters => characters
  | .breaks first more =>
    if first = ['\n'] then
      if more = [] then [' '] else more
    else first ++ more

/-- The gap with one more blank in it. -/
def withBlank : Gap → Char → Gap
  | .blanks characters, character => .blanks (characters ++ [character])
  | gap, _ => gap

/-- The gap with one more line break in it. -/
def withBreak : Gap → List Char → Gap
  | .blanks _, lineBreak => .breaks lineBreak []
  | .breaks first more, lineBreak => .breaks first (more ++ lineBreak)

@[simp]
theorem folded_empty : empty.folded = [] := rfl

end Gap

/--
The white space at the cursor, added to a gap.  Past a line end no tab may
stand left of `indent`.  The fuel bounds the number of characters read.
-/
def Cursor.takeGap (indent : Nat) :
    Nat → Cursor → Gap → Except ReadError (Gap × Cursor)
  | 0, cursor, gap => .ok (gap, cursor)
  | fuel + 1, cursor, gap =>
    match cursor.rest with
    | [] => .ok (gap, cursor)
    | character :: _ =>
      if isSpacing character then
        if gap.crossesLine && cursor.column < indent && character == '\t' then
          .error .tabIndentation
        else takeGap indent fuel (cursor.skip 1) (gap.withBlank character)
      else if isLineBreak character then
        let (lineBreak, next) := cursor.takeBreak
        takeGap indent fuel next (gap.withBreak lineBreak)
      else .ok (gap, cursor)

end Gatehouse.Yaml
