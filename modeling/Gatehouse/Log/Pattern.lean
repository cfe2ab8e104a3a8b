import Gatehouse.Decimal.Notation
import Gatehouse.Text.Alphabet
import Gatehouse.Text.Blank
import Gatehouse.Text.Cut

/-!
# Patterns for values

A filter may ask that the value of a field matches a regular expression.
Here it is only decided which texts are such expressions.

Classes that need tables of characters are not available: unless a flag
turns to octets, an expression has no `\d`, `\s` or `\w`, no boundaries of
words, no `\p`, and no letters whose case is ignored.  If a flag does turn
to octets, whatever could match a part of a character is refused.  Braces
behind an item always lack their partner, because a field of a filter ends
at the first closing brace.
-/

namespace Gatehouse.Log

namespace Pattern

open Gatehouse.Decimal
open Gatehouse.Text

/-- The flags that decide what may be written. -/
structure Mode where
  ignoresCase : Bool := false
  /-- Whether characters are matched, not octets. -/
  unicode : Bool := true
  /-- Whether blanks and comments are skipped. -/
  spaced : Bool := false
  deriving DecidableEq, Repr

namespace Mode

/-- Whether the case of letters would have to be looked up. -/
def foldsCase (mode : Mode) : Bool :=
  mode.ignoresCase && mode.unicode

/-- The mode with a flag set or cleared. -/
def set (mode : Mode) (flag : Char) (value : Bool) : Mode :=
  if flag = 'i' then { mode with ignoresCase := value }
  else if flag = 'u' then { mode with unicode := value }
  else if flag = 'x' then { mode with spaced := value }
  else mode

/-- Drop blanks and comments; the flag says that a comment has begun. -/
def dropSpace : Bool → List Char → List Char
  | _, [] => []
  | true, character :: rest => dropSpace (character != '\n') rest
  | false, character :: rest =>
    if isBlank character then dropSpace false rest
    else if character = '#' then dropSpace true rest
    else character :: rest

/-- The characters from the next one that counts. -/
def next (mode : Mode) (characters : List Char) : List Char :=
  if mode.spaced then dropSpace false characters else characters

end Mode

/-- What a backslash and the characters behind it mean. -/
inductive Escape where
  | literal (code : Nat)
  /-- A class of characters. -/
  | charClass
  /-- A place between characters. -/
  | place
  deriving DecidableEq, Repr

/-- The code of a number in digits, and the characters behind them. -/
def digits? (mode : Mode) : Nat → Nat → List Char → Option (Nat × List Char)
  | 0, code, rest => some (code, rest)
  | count + 1, code, characters =>
    match mode.next characters with
    | [] => none
    | digit :: rest =>
      (digitValue? 16 digit).bind fun value =>
        digits? mode count (16 * code + value) rest

/-- A character by the digits of its code. -/
def spelledCode? (mode : Mode) (count : Nat) (characters : List Char) :
    Option (Escape × List Char) :=
  (digits? mode count 0 characters).bind fun (code, rest) =>
    if !code.isValidChar || (count = 2 && !mode.unicode && 0x80 ≤ code) then none
    else some (.literal code, rest)

/-- The characters that letters behind a backslash stand for. -/
def namedCodes : List (Char × Nat) :=
  [('a', 0x07), ('f', 0x0C), ('t', 0x09), ('n', 0x0A), ('r', 0x0D),
    ('v', 0x0B)]

/-- Whether a character stands for itself behind a backslash. -/
def isEscapable (character : Char) : Bool :=
  character.toNat < 0x80 && !character.isAlphanum && character != '<' &&
    character != '>'

/-- Read what stands behind a backslash. -/
def escape? (mode : Mode) : List Char → Option (Escape × List Char)
  | [] => none
  | letter :: rest =>
    if letter = 'x' then spelledCode? mode 2 rest
    else if letter = 'u' then spelledCode? mode 4 rest
    else if letter = 'U' then spelledCode? mode 8 rest
    else if "dsw".contains letter then
      if mode.unicode then none else some (.charClass, rest)
    else if "Az".contains letter then some (.place, rest)
    else if "bB<>".contains letter then
      if mode.unicode then none else some (.place, rest)
    else if isEscapable letter then some (.literal letter.toNat, rest)
    else (namedCodes.lookup letter).map fun code => (.literal code, rest)

/-! ### Classes in brackets -/

/-- The names of classes in brackets of their own. -/
def classNames : List String :=
  ["alnum", "alpha", "ascii", "blank", "cntrl", "digit", "graph", "lower",
    "print", "punct", "space", "upper", "word", "xdigit"]

/--
A named class behind its first bracket: whether it is turned around, and the
characters behind its last bracket.
-/
def namedClass? (characters : List Char) : Option (Bool × List Char) :=
  match characters with
  | ':' :: rest =>
    let turned := rest.head? == some '^'
    match cutCharacters? ':' (if turned then rest.drop 1 else rest) with
    | some (name, ']' :: behind) =>
      if classNames.contains (String.ofList name) then some (turned, behind)
      else none
    | _ => none
  | _ => none

/-- Drop hyphens at the front, and what does not count behind each. -/
def dropHyphens (mode : Mode) : Nat → List Char → List Char
  | fuel + 1, '-' :: rest => dropHyphens mode fuel (mode.next rest)
  | _, characters => characters

/--
The characters behind what opens a class: a bracket, then perhaps a mark
that turns the class around, hyphens, or a bracket that stands for itself.
-/
def openClass? (mode : Mode) (characters : List Char) : Option (List Char) :=
  let characters := mode.next characters
  let turned := characters.head? == some '^'
  if turned && !mode.unicode then none
  else
    let content := if turned then mode.next (characters.drop 1) else characters
    match content with
    | ']' :: rest => some (mode.next rest)
    | _ => some (dropHyphens mode content.length content)

/-- A single item of a class. -/
def classItem? (mode : Mode) : List Char → Option (Escape × List Char)
  | [] => none
  | '\\' :: rest => escape? mode rest
  | character :: rest => some (.literal character.toNat, rest)

/-- Whether an item may stand in a class. -/
def inClass (mode : Mode) : Escape → Bool
  | .literal code => mode.unicode || code < 0x80
  | .charClass => true
  | .place => false

/-- An item of a class or a range, and the characters behind it. -/
def classRange? (mode : Mode) (characters : List Char) :
    Option (List Char) := do
  let (first, rest) ← classItem? mode characters
  let rest := mode.next rest
  let single := if inClass mode first then some rest else none
  match rest with
  | '-' :: behind =>
    match mode.next behind with
    | ']' :: _ | '-' :: _ => single
    | behind =>
      let (last, rest) ← classItem? mode behind
      match first, last with
      | .literal low, .literal high =>
        if low ≤ high && inClass mode first && inClass mode last then some rest
        else none
      | _, _ => none
  | _ => single

/--
The characters behind a class, given how many classes are open around its
content.
-/
def closeClass? (mode : Mode) : Nat → Nat → List Char → Option (List Char)
  | 0, _, _ => none
  | fuel + 1, depth, characters =>
    match mode.next characters with
    | [] => none
    | '[' :: rest =>
      match namedClass? rest with
      | some (turned, behind) =>
        if turned && !mode.unicode then none
        else closeClass? mode fuel depth behind
      | none =>
        (openClass? mode rest).bind (closeClass? mode fuel (depth + 1))
    | ']' :: rest =>
      match depth with
      | 0 => some rest
      | depth + 1 => closeClass? mode fuel depth rest
    | '&' :: '&' :: rest | '-' :: '-' :: rest | '~' :: '~' :: rest =>
      closeClass? mode fuel depth rest
    | characters =>
      (classRange? mode characters).bind (closeClass? mode fuel depth)

/-- The characters behind a class, given those behind its first bracket. -/
def charClass? (mode : Mode) (characters : List Char) : Option (List Char) :=
  if mode.foldsCase then none
  else
    (openClass? mode characters).bind
      (closeClass? mode characters.length 0)

/-! ### Groups -/

/-- Read flags up to the colon or the parenthesis that ends them. -/
def flags? (seen : List Char) : Mode → List Char → Option (Mode × List Char)
  | _, [] => none
  | mode, character :: rest =>
    if character = ':' ∨ character = ')' then
      if seen.head? == some '-' then none else some (mode, character :: rest)
    else if seen.contains character || !"-imsUuRx".contains character then none
    else flags? (character :: seen) (mode.set character (!seen.contains '-')) rest

/-- Whether a character may stand in the name of a group. -/
def isNameCharacter (character : Char) : Bool :=
  "_.[]".contains character || isLetterOrNumeral character

/-- Whether characters are the name of a group. -/
def isGroupName : List Char → Bool
  | [] => false
  | first :: rest =>
    (first == '_' || isLetter first) && rest.all isNameCharacter

/-- What an open parenthesis begins. -/
inductive Group where
  /-- A group that closes later; it may have a name and flags of its own. -/
  | scope (name : Option (List Char)) (mode : Mode)
  /-- Flags from here on. -/
  | flags (mode : Mode)
  deriving DecidableEq, Repr

/-- A group with a name, given the characters behind the angle bracket. -/
def namedGroup? (mode : Mode) (characters : List Char) :
    Option (Group × List Char) :=
  (cutCharacters? '>' characters).bind fun (name, rest) =>
    if isGroupName name then some (.scope (some name) mode, rest) else none

/-- Read what stands behind an open parenthesis. -/
def group? (mode : Mode) (characters : List Char) :
    Option (Group × List Char) :=
  match mode.next characters with
  | '?' :: '=' :: _ | '?' :: '!' :: _ => none
  | '?' :: '<' :: '=' :: _ | '?' :: '<' :: '!' :: _ => none
  | '?' :: 'P' :: '<' :: rest | '?' :: '<' :: rest => namedGroup? mode rest
  | '?' :: ')' :: _ => none
  | '?' :: rest =>
    (flags? [] mode rest).map fun (inner, behind) =>
      (if behind.head? == some ':' then .scope none inner else .flags inner,
        behind.drop 1)
  | rest => some (.scope none mode, rest)

/-! ### Expressions -/

/-- What is known in the middle of an expression. -/
structure State where
  mode : Mode := {}
  /-- The modes outside the open groups, the innermost first. -/
  outer : List Mode := []
  /-- The names of groups so far. -/
  names : List (List Char) := []
  /-- Whether something stands in front that may be repeated. -/
  repeatable : Bool := false
  deriving Repr

/-- The state behind an item that may be repeated. -/
def State.item (state : State) : State :=
  { state with repeatable := true }

/-- The state behind an open parenthesis and what it begins. -/
def State.enter? (state : State) : Group → Option State
  | .flags mode => some { state with mode := mode, repeatable := false }
  | .scope name mode =>
    if name.any state.names.contains then none
    else
      some
        { mode := mode
          outer := state.mode :: state.outer
          names := name.toList ++ state.names }

/-- The state behind a closing parenthesis. -/
def State.leave? (state : State) : Option State :=
  match state.outer with
  | [] => none
  | mode :: outer =>
    some { state with mode := mode, outer := outer, repeatable := true }

/-- The state behind a character that stands for itself. -/
def State.literal? (state : State) : Option State :=
  if state.mode.foldsCase then none else some state.item

/-- The state behind one part of an expression, and what follows. -/
def step? (state : State) : List Char → Option (State × List Char)
  | [] => none
  | character :: rest =>
    match character with
    | '(' => do
      let (group, rest) ← group? state.mode rest
      return (← state.enter? group, rest)
    | ')' => state.leave?.map fun state => (state, rest)
    | '|' => some ({ state with repeatable := false }, rest)
    | '[' => (charClass? state.mode rest).map fun rest => (state.item, rest)
    | '?' | '*' | '+' =>
      if !state.repeatable then none
      else some (state, if rest.head? == some '?' then rest.drop 1 else rest)
    | '\x7b' => none
    | '\\' => do
      match ← escape? state.mode rest with
      | (.literal _, rest) => return (← state.literal?, rest)
      | (_, rest) => return (state.item, rest)
    | '.' => if state.mode.unicode then some (state.item, rest) else none
    | '^' | '$' => some (state.item, rest)
    | _ => state.literal?.map fun state => (state, rest)

/-- Whether the rest of an expression is in order. -/
def continues : Nat → State → List Char → Bool
  | 0, _, _ => false
  | fuel + 1, state, characters =>
    match state.mode.next characters with
    | [] => state.outer.isEmpty
    | characters =>
      match step? state characters with
      | some (state, rest) => continues fuel state rest
      | none => false

end Pattern

/-- Whether a text is a regular expression that can be matched. -/
def isPattern (text : String) : Bool :=
  Pattern.continues (text.length + 1) {} text.toList

end Gatehouse.Log
