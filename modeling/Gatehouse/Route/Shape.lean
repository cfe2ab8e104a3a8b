import Gatehouse.Text.Cut

/-!
# The shape of paths

A route answers at all paths of one shape: text that stands for itself,
parameters in braces, each of which takes the rest of one segment, and
`{*name}` at the end, which takes the rest of the path.  A doubled brace
stands for itself.  Names of parameters do not count when shapes are
compared.  A path may have several shapes; then text that stands for itself
goes before a parameter at the first place where the shapes differ.
-/

namespace Gatehouse.Route

/-- A part of a shape. -/
inductive ShapePart where
  | literal (character : Char)
  /--
  Everything up to the next slash.  The path may not end in front of a
  parameter, but a slash may follow at once.
  -/
  | parameter
  /-- At least one character, and all that follow. -/
  | remainder
  deriving DecidableEq, Repr

/-- Why a text is no shape, or cannot be added to others. -/
inductive ShapeFault where
  /-- No slash at the beginning. -/
  | notRooted
  /-- A segment that starts with a colon or an asterisk. -/
  | oldForm
  /-- Braces that do not enclose a name. -/
  | badParameter
  /-- Text behind a parameter in its segment. -/
  | partialSegment
  /-- Anything behind the rest of a path. -/
  | innerRemainder
  /-- Another shape that cannot be told from this one. -/
  | conflict
  deriving DecidableEq, Repr

/-- The shape of paths. -/
structure Shape where
  /-- The text that spells the shape. -/
  text : String
  parts : List ShapePart
  deriving DecidableEq, Repr

namespace Shape

/-- The characters of a text, with a mark at those that were doubled braces. -/
def unescape : List Char → List (Char × Bool)
  | '\x7b' :: '\x7b' :: rest => ('\x7b', true) :: unescape rest
  | '\x7d' :: '\x7d' :: rest => ('\x7d', true) :: unescape rest
  | character :: rest => (character, false) :: unescape rest
  | [] => []

/--
The part that a name in braces stands for, the name being in front of the
characters given.
-/
def partOf (name : List Char) : Option ShapePart :=
  match name with
  | [] | ['*'] => none
  | '*' :: _ => some .remainder
  | _ => some .parameter

/-- A character that cannot stand behind the first one of a name. -/
def breaksName (character : Char) : Bool :=
  character == '*' || character == '/'

/-- The parts of a shape; `name` holds the open braces' name, reversed. -/
def partsOf :
    Option (List Char) → List (Char × Bool) → Except ShapeFault (List ShapePart)
  | none, [] => .ok []
  | some _, [] => .error .badParameter
  | none, (character, escaped) :: rest =>
    if character = '\x7d' ∧ !escaped then .error .badParameter
    else if character = '\x7b' ∧ !escaped then partsOf (some []) rest
    else (partsOf none rest).map (.literal character :: ·)
  | some name, (character, escaped) :: rest =>
    if character = '\x7d' ∧ (!escaped ∨ name = []) then
      match partOf name.reverse, rest with
      | none, _ => .error .badParameter
      | some part, [] => .ok [part]
      | some .parameter, ('/', _) :: _ =>
        (partsOf none rest).map (.parameter :: ·)
      | some .remainder, ('/', _) :: _ => .error .innerRemainder
      | some _, _ => .error .partialSegment
    else if !name.isEmpty ∧ breaksName character then .error .badParameter
    else partsOf (some (character :: name)) rest

/-- Whether a segment has a form that is no longer understood. -/
def isOldForm (segment : String) : Bool :=
  match segment.toList with
  | ':' :: _ | '*' :: _ => true
  | _ => false

/-- The shape that a text spells. -/
def parse (text : String) : Except ShapeFault Shape :=
  if text.toList.head? ≠ some '/' then .error .notRooted
  else if (Text.pieces '/' text).any isOldForm then .error .oldForm
  else (partsOf none (unescape text.toList)).map (Shape.mk text)

/-- Whether a path has the shape that some parts make up. -/
def accepts : List ShapePart → List Char → Bool
  | [], path => path.isEmpty
  | .literal character :: parts, next :: path =>
    character == next && accepts parts path
  | .literal _ :: _, [] => false
  | .parameter :: parts, path =>
    !path.isEmpty && accepts parts (path.dropWhile (· != '/'))
  | .remainder :: _, path => !path.isEmpty

/-- Whether a path has the shape. -/
def «matches» (shape : Shape) (path : String) : Bool :=
  accepts shape.parts path.toList

/-- Whether two shapes cannot be told apart. -/
def partsConflict : List ShapePart → List ShapePart → Bool
  | [], [] => true
  | .parameter :: _, .remainder :: _ | .remainder :: _, .parameter :: _ => true
  | left :: lefts, right :: rights => left == right && partsConflict lefts rights
  | _, _ => false

/-- Whether two shapes cannot both be in use. -/
def conflicts (left right : Shape) : Bool :=
  partsConflict left.parts right.parts

/-- Whether the first shape goes before the second one. -/
def partsBefore : List ShapePart → List ShapePart → Bool
  | .literal _ :: lefts, .literal _ :: rights => partsBefore lefts rights
  | .literal _ :: _, _ => true
  | _, .literal _ :: _ => false
  | _ :: lefts, _ :: rights => partsBefore lefts rights
  | _, _ => false

/-- Whether a shape goes before another one that a path has as well. -/
def before (left right : Shape) : Bool :=
  partsBefore left.parts right.parts

end Shape

end Gatehouse.Route
