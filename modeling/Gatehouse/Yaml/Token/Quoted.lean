import Gatehouse.Yaml.Token.Folding

/-!
# Quoted scalars in a text

Single quotes keep everything but a doubled quote; double quotes know
escapes, among them one for the end of a line.  Inside both, white space is
folded as in plain scalars.
-/

namespace Gatehouse.Yaml

/-- The character of an escape that has a name of one character. -/
def namedEscape? : Char → Option Char
  | '0' => some '\x00'
  | 'a' => some '\x07'
  | 'b' => some '\x08'
  | 't' => some '\t'
  | '\t' => some '\t'
  | 'n' => some '\n'
  | 'v' => some '\x0b'
  | 'f' => some '\x0c'
  | 'r' => some '\r'
  | 'e' => some '\x1b'
  | ' ' => some ' '
  | '"' => some '"'
  | '/' => some '/'
  | '\\' => some '\\'
  | 'N' => some '\u0085'
  | '_' => some '\u00a0'
  | 'L' => some '\u2028'
  | 'P' => some '\u2029'
  | _ => none

/-- How many hexadecimal digits follow the mark of a numeric escape. -/
def escapeWidth? : Char → Option Nat
  | 'x' => some 2
  | 'u' => some 4
  | 'U' => some 8
  | _ => none

/-- The value of a hexadecimal digit. -/
def hexValue? (character : Char) : Option Nat :=
  if '0' ≤ character && character ≤ '9' then some (character.toNat - 48)
  else if 'a' ≤ character && character ≤ 'f' then some (character.toNat - 87)
  else if 'A' ≤ character && character ≤ 'F' then some (character.toNat - 55)
  else none

/-- The value of exactly `count` hexadecimal digits at the front. -/
def hexNumber? : Nat → List Char → Nat → Option Nat
  | 0, _, value => some value
  | _ + 1, [], _ => none
  | count + 1, character :: rest, value =>
    match hexValue? character with
    | some digit => hexNumber? count rest (16 * value + digit)
    | none => none

/-- The character with a code, if the code names one. -/
def charOfCode? (code : Nat) : Option Char :=
  if code.isValidChar then some (Char.ofNat code) else none

/-- The character that an escape stands for, and the escape's length. -/
def escaped? : List Char → Option (Char × Nat)
  | mark :: rest =>
    match namedEscape? mark, escapeWidth? mark with
    | some character, _ => some (character, 2)
    | none, some width =>
      (hexNumber? width rest 0).bind fun code =>
        (charOfCode? code).map fun character => (character, width + 2)
    | none, none => none
  | [] => none

/-- A run of a quoted scalar: its text, and whether a line end is escaped. -/
structure QuotedRun where
  text : List Char
  escapesLine : Bool
  cursor : Cursor
  deriving Repr

/-- The run up to white space, the closing quote or an escaped line end. -/
def quotedRun (single : Bool) :
    Nat → Cursor → List Char → Except ReadError QuotedRun
  | 0, cursor, text => .ok ⟨text, false, cursor⟩
  | fuel + 1, cursor, text =>
    match cursor.rest with
    | [] => .ok ⟨text, false, cursor⟩
    | character :: rest =>
      if isSpacing character || isLineBreak character then
        .ok ⟨text, false, cursor⟩
      else if single then
        if character == '\'' then
          if rest.head? == some '\'' then
            quotedRun single fuel (cursor.skip 2) (text ++ ['\''])
          else .ok ⟨text, false, cursor⟩
        else quotedRun single fuel (cursor.skip 1) (text ++ [character])
      else if character == '"' then .ok ⟨text, false, cursor⟩
      else if character == '\\' then
        if rest.head?.any isLineBreak then
          .ok ⟨text, true, (cursor.skip 1).skipBreak⟩
        else
          match escaped? rest with
          | some (meant, length) =>
            quotedRun single fuel (cursor.skip length) (text ++ [meant])
          | none => .error .invalidEscape
      else quotedRun single fuel (cursor.skip 1) (text ++ [character])

/-- The runs and gaps of a quoted scalar behind its opening quote. -/
def quotedRuns (single : Bool) :
    Nat → Cursor → List Char → Except ReadError (List Char × Cursor)
  | 0, _, _ => .error .unclosedQuote
  | fuel + 1, cursor, text =>
    if cursor.atDocumentMarker then .error .markerInQuote
    else if cursor.rest.isEmpty then .error .unclosedQuote
    else do
      let run ← quotedRun single cursor.rest.length cursor []
      let text := text ++ run.text
      let closing := if single then '\'' else '"'
      if run.cursor.rest.head? == some closing then
        .ok (text, run.cursor.skip 1)
      else
        let gap := if run.escapesLine then Gap.breaks [] [] else Gap.empty
        let (gap, next) ← run.cursor.takeGap 0 run.cursor.rest.length gap
        quotedRuns single fuel next (text ++ gap.folded)

/-- The quoted scalar whose opening quote is at the cursor. -/
def Cursor.quotedScalar (cursor : Cursor) (single : Bool) :
    Except ReadError (List Char × Cursor) :=
  quotedRuns single (cursor.rest.length + 1) (cursor.skip 1) []

end Gatehouse.Yaml
