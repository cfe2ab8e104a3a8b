import Gatehouse.Yaml.Token.Block
import Gatehouse.Yaml.Token.Plain
import Gatehouse.Yaml.Token.Quoted
import Gatehouse.Yaml.Token.Tag

/-!
# From a text to its tokens

The lexer makes the block structure explicit.  A token that may turn out to
be a mapping key is remembered as a *candidate*; when its colon follows on
the same line, within 1024 characters, a key token goes in front of it.
Indentation opens and closes block collections.
-/

namespace Gatehouse.Yaml

/-- A place where a mapping key without a mark of its own may have begun. -/
structure KeyCandidate where
  /-- How many tokens precede the candidate. -/
  position : Nat
  index : Nat
  line : Nat
  column : Nat
  /-- Whether the line can be nothing but a key. -/
  required : Bool
  deriving Repr

/-- The state of reading tokens. -/
structure Lexer where
  cursor : Cursor
  tokens : Array Token
  /-- The candidate of each open flow collection, innermost first. -/
  flowCandidates : List (Option KeyCandidate)
  /-- The candidate outside the open flow collections. -/
  candidate : Option KeyCandidate
  /-- The column of the open block collection, `-1` outside all of them. -/
  indent : Int
  /-- The columns of the surrounding block collections, innermost first. -/
  outerIndents : List Int
  /-- Whether a key may begin at the cursor. -/
  keyAllowed : Bool
  finished : Bool

namespace Lexer

/-- Before the first token of a text. -/
def start (characters : List Char) : Lexer where
  cursor := Cursor.start characters
  tokens := #[]
  flowCandidates := []
  candidate := none
  indent := -1
  outerIndents := []
  keyAllowed := true
  finished := false

/-- Whether the cursor is inside a flow collection. -/
def inFlow (lexer : Lexer) : Bool :=
  !lexer.flowCandidates.isEmpty

/-- The candidate at the innermost level. -/
def current (lexer : Lexer) : Option KeyCandidate :=
  match lexer.flowCandidates with
  | innermost :: _ => innermost
  | [] => lexer.candidate

/-- Put a candidate at the innermost level. -/
def withCurrent (lexer : Lexer) (candidate : Option KeyCandidate) : Lexer :=
  match lexer.flowCandidates with
  | _ :: outer => { lexer with flowCandidates := candidate :: outer }
  | [] => { lexer with candidate := candidate }

/-- Append a token. -/
def emit (lexer : Lexer) (token : Token) : Lexer :=
  { lexer with tokens := lexer.tokens.push token }

/-- Put a token before the one at a position. -/
def emitAt (lexer : Lexer) (position : Nat) (token : Token) : Lexer :=
  { lexer with
    tokens :=
      (lexer.tokens.take position).push token ++ lexer.tokens.drop position }

/-- Append a token that takes some characters. -/
def emitSkip (lexer : Lexer) (token : Token) (length : Nat) : Lexer :=
  { lexer.emit token with cursor := lexer.cursor.skip length }

/-- Whether a candidate is too far away to become a key. -/
def isStale (lexer : Lexer) (candidate : KeyCandidate) : Bool :=
  candidate.line < lexer.cursor.line ||
    candidate.index + 1024 < lexer.cursor.index

/-- A candidate unless it is stale, which a required one must not be. -/
def freshCandidate (lexer : Lexer) :
    Option KeyCandidate → Except ReadError (Option KeyCandidate)
  | none => .ok none
  | some candidate =>
    if lexer.isStale candidate then
      if candidate.required then .error .missingColon else .ok none
    else .ok (some candidate)

/-- Give up all candidates that are too far away. -/
def dropStale (lexer : Lexer) : Except ReadError Lexer := do
  let flowCandidates ← lexer.flowCandidates.mapM lexer.freshCandidate
  let candidate ← lexer.freshCandidate lexer.candidate
  return { lexer with
    flowCandidates := flowCandidates
    candidate := candidate }

/-- Give up the innermost candidate. -/
def dropCurrent (lexer : Lexer) : Except ReadError Lexer :=
  if lexer.current.any (·.required) then .error .missingColon
  else .ok (lexer.withCurrent none)

/-- Remember that a key may begin here, where one is allowed. -/
def saveCandidate (lexer : Lexer) : Except ReadError Lexer :=
  if lexer.keyAllowed then do
    let lexer ← lexer.dropCurrent
    let cursor := lexer.cursor
    return lexer.withCurrent (some
      { position := lexer.tokens.size
        index := cursor.index
        line := cursor.line
        column := cursor.column
        required := !lexer.inFlow && lexer.indent == cursor.column })
  else .ok lexer

/-- Close the block collections that are indented deeper than a column. -/
def closeBlocks (lexer : Lexer) (column : Int) : Lexer :=
  if lexer.inFlow then lexer
  else close lexer lexer.outerIndents
where
  /-- Close blocks while the indentation is too deep. -/
  close (lexer : Lexer) : List Int → Lexer
    | [] => lexer
    | outer :: rest =>
      if column < lexer.indent then
        close { lexer.emit .blockEnd with indent := outer, outerIndents := rest }
          rest
      else lexer

/-- Open a block collection at a column, unless one is open there. -/
def openBlock (lexer : Lexer) (column : Nat) (token : Token)
    (position : Option Nat) : Lexer :=
  if !lexer.inFlow && lexer.indent < column then
    let opened :=
      match position with
      | some position => lexer.emitAt position token
      | none => lexer.emit token
    { opened with
      indent := column
      outerIndents := lexer.indent :: lexer.outerIndents }
  else lexer

/-- Past white space, comments and line ends. -/
def skipSpace (lexer : Lexer) : Nat → Lexer
  | 0 => lexer
  | fuel + 1 =>
    let cursor := lexer.cursor
    let cursor :=
      if cursor.column == 0 && cursor.rest.head? == some '\ufeff' then
        cursor.skip 1
      else cursor
    let tabs := lexer.inFlow || !lexer.keyAllowed
    let cursor := cursor.skipWhile fun character =>
      character == ' ' || (tabs && character == '\t')
    let cursor :=
      if cursor.rest.head? == some '#' then cursor.skipLineRest else cursor
    if !cursor.rest.isEmpty && endsLine cursor.rest then
      skipSpace
        { lexer with
          cursor := cursor.skipBreak
          keyAllowed := lexer.keyAllowed || !lexer.inFlow }
        fuel
    else { lexer with cursor := cursor }

/-- The end of the text. -/
def atEnd (lexer : Lexer) : Except ReadError Lexer := do
  let lexer ← (lexer.closeBlocks (-1)).dropCurrent
  return { lexer.emit .streamEnd with keyAllowed := false, finished := true }

/-- A directive. -/
def atDirective (lexer : Lexer) : Except ReadError Lexer := do
  let lexer ← (lexer.closeBlocks (-1)).dropCurrent
  let (token, cursor) ← lexer.cursor.directive
  return { lexer.emit token with cursor := cursor, keyAllowed := false }

/-- A document start or a document end. -/
def atMarker (lexer : Lexer) (token : Token) : Except ReadError Lexer := do
  let lexer ← (lexer.closeBlocks (-1)).dropCurrent
  return { lexer.emitSkip token 3 with keyAllowed := false }

/-- The opening bracket of a flow collection. -/
def atFlowStart (lexer : Lexer) (token : Token) : Except ReadError Lexer := do
  let lexer ← lexer.saveCandidate
  return { lexer.emitSkip token 1 with
    flowCandidates := none :: lexer.flowCandidates
    keyAllowed := true }

/-- The closing bracket of a flow collection. -/
def atFlowEnd (lexer : Lexer) (token : Token) : Except ReadError Lexer := do
  let lexer ← lexer.dropCurrent
  return { lexer.emitSkip token 1 with
    flowCandidates := lexer.flowCandidates.drop 1
    keyAllowed := false }

/-- The comma between the entries of a flow collection. -/
def atFlowEntry (lexer : Lexer) : Except ReadError Lexer := do
  let lexer ← lexer.dropCurrent
  return { lexer.emitSkip .flowEntry 1 with keyAllowed := true }

/-- The dash before an item of a block sequence. -/
def atBlockEntry (lexer : Lexer) : Except ReadError Lexer := do
  if !lexer.inFlow && !lexer.keyAllowed then
    throw .misplacedIndicator
  let lexer := lexer.openBlock lexer.cursor.column .blockSequenceStart none
  let lexer ← lexer.dropCurrent
  return { lexer.emitSkip .blockEntry 1 with keyAllowed := true }

/-- The question mark before a key. -/
def atKey (lexer : Lexer) : Except ReadError Lexer := do
  if !lexer.inFlow && !lexer.keyAllowed then
    throw .misplacedIndicator
  let lexer := lexer.openBlock lexer.cursor.column .blockMappingStart none
  let lexer ← lexer.dropCurrent
  return { lexer.emitSkip .key 1 with keyAllowed := !lexer.inFlow }

/-- The colon before a value. -/
def atValue (lexer : Lexer) : Except ReadError Lexer := do
  match lexer.current with
  | some candidate =>
    let lexer := lexer.emitAt candidate.position .key
    let lexer :=
      lexer.openBlock candidate.column .blockMappingStart candidate.position
    let lexer := lexer.withCurrent none
    return { lexer.emitSkip .value 1 with keyAllowed := false }
  | none =>
    if !lexer.inFlow && !lexer.keyAllowed then
      throw .misplacedIndicator
    let lexer := lexer.openBlock lexer.cursor.column .blockMappingStart none
    return { lexer.emitSkip .value 1 with keyAllowed := !lexer.inFlow }

/-- An anchor or a reference to one. -/
def atAnchor (lexer : Lexer) (token : String → Token) :
    Except ReadError Lexer := do
  let lexer ← lexer.saveCandidate
  let (name, cursor) ← lexer.cursor.anchorName
  return { lexer.emit (token name) with cursor := cursor, keyAllowed := false }

/-- A tag. -/
def atTag (lexer : Lexer) : Except ReadError Lexer := do
  let lexer ← lexer.saveCandidate
  let (token, cursor) ← lexer.cursor.tag lexer.inFlow
  return { lexer.emit token with cursor := cursor, keyAllowed := false }

/-- A literal or folded scalar. -/
def atBlockScalar (lexer : Lexer) (literal : Bool) :
    Except ReadError Lexer := do
  let lexer ← lexer.dropCurrent
  let (text, cursor) ← lexer.cursor.blockScalar literal lexer.indent
  return { lexer.emit (.scalar (String.ofList text) .block) with
    cursor := cursor
    keyAllowed := true }

/-- A scalar in single or double quotes. -/
def atQuotedScalar (lexer : Lexer) (single : Bool) :
    Except ReadError Lexer := do
  let lexer ← lexer.saveCandidate
  let (text, cursor) ← lexer.cursor.quotedScalar single
  return { lexer.emit (.scalar (String.ofList text) .quoted) with
    cursor := cursor
    keyAllowed := false }

/-- A plain scalar. -/
def atPlainScalar (lexer : Lexer) : Except ReadError Lexer := do
  let lexer ← lexer.saveCandidate
  let scalar ←
    lexer.cursor.plainScalar lexer.inFlow (lexer.indent + 1).toNat
  return { lexer.emit (.scalar (String.ofList scalar.text) .plain) with
    cursor := scalar.cursor
    keyAllowed := scalar.crossesLine }

/-- Whether a plain scalar may begin with these characters. -/
def startsPlain (inFlow : Bool) (character : Char) (rest : List Char) : Bool :=
  let indicator := "-?:,[]\x7b\x7d#&*!|>'\"%@`".contains character
  !(indicator || isSpacing character || isLineBreak character) ||
    (character == '-' && !rest.head?.any isSpacing) ||
    (!inFlow && (character == '?' || character == ':') && !endsWord rest)

/-- Read the token that begins with a character. -/
def next (lexer : Lexer) (character : Char) (rest : List Char) :
    Except ReadError Lexer :=
  let inFlow := lexer.inFlow
  if lexer.cursor.column == 0 && character == '%' then lexer.atDirective
  else if lexer.cursor.atMarker '-' then lexer.atMarker .documentStart
  else if lexer.cursor.atMarker '.' then lexer.atMarker .documentEnd
  else if character == '[' then lexer.atFlowStart .flowSequenceStart
  else if character == '\x7b' then lexer.atFlowStart .flowMappingStart
  else if character == ']' then lexer.atFlowEnd .flowSequenceEnd
  else if character == '\x7d' then lexer.atFlowEnd .flowMappingEnd
  else if character == ',' then lexer.atFlowEntry
  else if character == '-' && endsWord rest then lexer.atBlockEntry
  else if character == '?' && (inFlow || endsWord rest) then lexer.atKey
  else if character == ':' && (inFlow || endsWord rest) then lexer.atValue
  else if character == '*' then lexer.atAnchor .reference
  else if character == '&' then lexer.atAnchor .anchor
  else if character == '!' then lexer.atTag
  else if character == '|' && !inFlow then lexer.atBlockScalar true
  else if character == '>' && !inFlow then lexer.atBlockScalar false
  else if character == '\'' then lexer.atQuotedScalar true
  else if character == '"' then lexer.atQuotedScalar false
  else if startsPlain inFlow character rest then lexer.atPlainScalar
  else .error .strayCharacter

/-- Read one token and the block structure in front of it. -/
def step (lexer : Lexer) : Except ReadError Lexer := do
  let lexer := lexer.skipSpace (lexer.cursor.rest.length + 1)
  let lexer ← lexer.dropStale
  let lexer := lexer.closeBlocks lexer.cursor.column
  match lexer.cursor.rest with
  | [] => lexer.atEnd
  | character :: rest => lexer.next character rest

/-- Read tokens until the text ends, at most `fuel` of them. -/
def run : Nat → Lexer → Except ReadError Lexer
  | 0, lexer => .ok lexer
  | fuel + 1, lexer =>
    if lexer.finished then .ok lexer
    else do
      let lexer ← lexer.step
      run fuel lexer

end Lexer

/-- The tokens of a text. -/
def tokenize (characters : List Char) : Except ReadError (List Token) :=
  if characters.all isAllowed then do
    let lexer ← Lexer.run (characters.length + 2) (Lexer.start characters)
    return lexer.tokens.toList
  else .error .forbiddenCharacter

end Gatehouse.Yaml
