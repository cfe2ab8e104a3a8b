import Gatehouse.Yaml.Cursor

/-!
# Block scalars in a text

A literal or folded scalar: a header with an optional indentation and an
optional treatment of the final line breaks, then the lines that are
indented enough.
-/

namespace Gatehouse.Yaml

/-- What happens to the line breaks at the end of a block scalar. -/
inductive Chomping where
  | strip
  | clip
  | keep
  deriving DecidableEq, Repr

/-- The header of a block scalar. -/
structure BlockHeader where
  chomping : Chomping
  /-- The stated indentation relative to the surrounding block. -/
  increment : Option Nat
  deriving DecidableEq, Repr

/-- The chomping that an indicator asks for. -/
def chomping? : Char → Option Chomping
  | '+' => some .keep
  | '-' => some .strip
  | _ => none

/-- The stated indentation at the front of a header, which is never zero. -/
def increment? (characters : List Char) :
    Except ReadError (Option Nat × List Char) :=
  match characters with
  | character :: rest =>
    if character == '0' then .error .invalidBlockHeader
    else if character.isDigit then .ok (some (character.toNat - 48), rest)
    else .ok (none, characters)
  | [] => .ok (none, [])

/-- The indicators behind the opening mark of a block scalar. -/
def blockHeader (characters : List Char) :
    Except ReadError (BlockHeader × Nat) :=
  match characters.head?.bind chomping? with
  | some chomping => do
    let (increment, _) ← increment? (characters.drop 1)
    return (⟨chomping, increment⟩, if increment.isSome then 2 else 1)
  | none => do
    let (increment, rest) ← increment? characters
    match increment, rest.head?.bind chomping? with
    | some _, some chomping => return (⟨chomping, increment⟩, 2)
    | some _, none => return (⟨.clip, increment⟩, 1)
    | none, _ => return (⟨.clip, none⟩, 0)

/-- Empty lines of a block scalar, and how far the deepest one is indented. -/
structure BlankLines where
  breaks : List Char
  deepest : Nat
  cursor : Cursor
  deriving Repr

/-- Past the spaces left of `indent`, or past all of them if it is open. -/
def Cursor.skipIndent (cursor : Cursor) (indent : Option Nat) : Cursor :=
  let spaces := (cursor.rest.takeWhile (· == ' ')).length
  match indent with
  | none => cursor.skip spaces
  | some indent => cursor.skip (min spaces (indent - cursor.column))

/-- Empty lines from the cursor on, with indentation up to `indent`. -/
def blankLines (indent : Option Nat) :
    Nat → Cursor → List Char → Nat → Except ReadError BlankLines
  | 0, cursor, breaks, deepest => .ok ⟨breaks, deepest, cursor⟩
  | fuel + 1, cursor, breaks, deepest =>
    let cursor := cursor.skipIndent indent
    let deepest := max deepest cursor.column
    if indent.all (cursor.column < ·) && cursor.rest.head? == some '\t' then
      .error .tabIndentation
    else if !cursor.rest.isEmpty && endsLine cursor.rest then
      let (lineBreak, next) := cursor.takeBreak
      blankLines indent fuel next (breaks ++ lineBreak) deepest
    else .ok ⟨breaks, deepest, cursor⟩

/-- The text read so far, with the line breaks that are not decided yet. -/
structure BlockText where
  text : List Char
  leadingBreak : List Char
  trailingBreaks : List Char
  /-- Whether the last line began with white space. -/
  afterBlank : Bool
  deriving Repr

/-- The text with its undecided line breaks settled by the next line. -/
def BlockText.joined (block : BlockText) (literal nextBlank : Bool) :
    List Char :=
  let folds :=
    !literal && block.leadingBreak == ['\n'] && !block.afterBlank && !nextBlank
  if folds then
    block.text ++ (if block.trailingBreaks.isEmpty then [' '] else []) ++
      block.trailingBreaks
  else block.text ++ block.leadingBreak ++ block.trailingBreaks

/-- The lines of a block scalar that are indented by `indent`. -/
def blockLines (literal : Bool) (indent : Nat) :
    Nat → Cursor → BlockText → Except ReadError (BlockText × Cursor)
  | 0, cursor, block => .ok (block, cursor)
  | fuel + 1, cursor, block =>
    if cursor.column == indent && !cursor.rest.isEmpty then do
      let startsBlank := cursor.rest.head?.any isSpacing
      let joined := block.joined literal startsBlank
      let (line, behind) := cursor.span fun character => !isLineBreak character
      let (lineBreak, next) := behind.takeBreak
      let blank ← blankLines (some indent) (next.rest.length + 1) next [] 0
      blockLines literal indent fuel blank.cursor
        ⟨joined ++ line, lineBreak, blank.breaks, startsBlank⟩
    else .ok (block, cursor)

/--
The block scalar whose mark is at the cursor, inside a block indented by
`parent`, which is negative at the top.
-/
def Cursor.blockScalar (cursor : Cursor) (literal : Bool) (parent : Int) :
    Except ReadError (List Char × Cursor) := do
  let (header, length) ← blockHeader (cursor.rest.drop 1)
  let behind := (cursor.skip (1 + length)).skipWhile isSpacing
  let behind :=
    if behind.rest.head? == some '#' then behind.skipLineRest else behind
  if !endsLine behind.rest then
    throw .invalidBlockHeader
  let first := behind.skipBreak
  let stated := header.increment.map fun increment =>
    if 0 ≤ parent then parent.toNat + increment else increment
  let blank ← blankLines stated (first.rest.length + 1) first [] 0
  let indent := stated.getD (max blank.deepest (max (parent + 1).toNat 1))
  let (block, next) ←
    blockLines literal indent (blank.cursor.rest.length + 1) blank.cursor
      ⟨[], [], blank.breaks, false⟩
  let text :=
    match header.chomping with
    | .strip => block.text
    | .clip => block.text ++ block.leadingBreak
    | .keep => block.text ++ block.leadingBreak ++ block.trailingBreaks
  return (text, next)

end Gatehouse.Yaml
