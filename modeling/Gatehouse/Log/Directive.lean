import Gatehouse.Log
import Gatehouse.Log.Field
import Gatehouse.Text.Octets

/-!
# Directives for events

A directive is a level, or a target with a level behind `=`.  Behind the
target a pair of brackets may hold the name of a span and, in braces, a
condition on a field.  Without a level everything is let through.

Blanks around a directive do not count while its parts are told apart, but
the parts are then taken from the text with its blanks, at the same
distances from its start.  A part may therefore be shifted, and it may even
begin or end inside a character.
-/

namespace Gatehouse.Log

open Gatehouse.Text

/-- The least important level that is let through, or none at all. -/
abbrev Bound : Type := Option Level

/-- The name of a bound. -/
def boundName (bound : Bound) : String :=
  bound.elim "off" Level.name

/-- The bounds by their numbers. -/
def numberedBounds : List Bound :=
  none :: Level.all.reverse.map some

/-- The number that digits spell, with an optional plus sign. -/
def number? (text : String) : Option Nat :=
  match text.toList with
  | '+' :: digits => Decimal.natural? 10 digits
  | digits => Decimal.natural? 10 digits

/-- The bound that a text names, in letters of either case or by number. -/
def bound? (text : String) : Option Bound :=
  match number? text with
  | some number => numberedBounds[number]?
  | none => numberedBounds.find? (boundName · == lowercased text)

/-- Why a text is no directive. -/
inductive DirectiveFault where
  | malformed
  /-- A part of the text begins or ends inside a character. -/
  | divided
  deriving DecidableEq, Repr

/-- One directive of a filter. -/
structure Directive where
  /-- The start of the targets that are meant. -/
  target : Option String
  span : Option String
  field : Option FieldMatch
  bound : Bound
  deriving DecidableEq, Repr

/-- How many octets characters take. -/
def width : List Char → Nat
  | [] => 0
  | character :: rest => character.utf8Size + width rest

@[simp]
theorem width_nil : width [] = 0 := rfl

@[simp]
theorem width_cons (character : Char) (rest : List Char) :
    width (character :: rest) = character.utf8Size + width rest := rfl

@[simp]
theorem width_append (front back : List Char) :
    width (front ++ back) = width front + width back := by
  induction front with
  | nil => simp
  | cons character rest ih => simp [ih, Nat.add_assoc]

/-- The part of a text between two places, counted in octets. -/
def part (text : String) (start stop : Nat) :
    Except DirectiveFault String :=
  let content := octets text
  let isInside (place : Nat) : Bool := content[place]?.any isContinuation
  if isInside start || isInside stop then .error .divided
  else
    match spelled? ((content.take stop).drop start) with
    | some found => .ok found
    | none => .error .divided

namespace Directive

/-- A character that a target can start with. -/
def startsTarget (character : Char) : Bool :=
  "-:_".contains character || isLetterOrNumeral character

/-- Whether a character ends a target. -/
def endsTarget (character : Char) : Bool :=
  character == '=' || character == '['

/-- Whether a character ends the name of a span. -/
def endsSpan (character : Char) : Bool :=
  character == ']' || character == '\x7b'

/-- The bound that a text has from a place on. -/
def boundFrom (text : String) (start : Nat) : Except DirectiveFault Bound := do
  let name ← part text start text.utf8ByteSize
  if name.isEmpty then return some .trace
  match bound? name with
  | some bound => return bound
  | none => throw .malformed

/-- A directive whose brackets end at a place, in front of some characters. -/
def withBound (directive : Directive) (text : String) (place : Nat) :
    List Char → Except DirectiveFault Directive
  | [] => .ok directive
  | '=' :: _ =>
    (boundFrom text (place + 1)).map fun bound =>
      { directive with bound := bound }
  | _ => .error .malformed

/-- A directive whose braces open in front of a place and some characters. -/
def ofField (target span : Option String) (text : String) (start : Nat)
    (characters : List Char) : Except DirectiveFault Directive := do
  let some (content, behind) := cutCharacters? '\x7d' characters
    | throw .malformed
  let stop := start + width content
  let condition ← part text start stop
  let some field := if condition.isEmpty then none else FieldMatch.parse? condition
    | throw .malformed
  match behind with
  | ']' :: rest =>
    withBound ⟨target, span, some field, some .trace⟩ text (stop + 2) rest
  | _ => throw .malformed

/-- A directive whose brackets open in front of a place and some characters. -/
def ofSpan (target : Option String) (text : String) (start : Nat)
    (characters : List Char) : Except DirectiveFault Directive := do
  let name := characters.takeWhile (!endsSpan ·)
  let stop := start + width name
  match characters.drop name.length with
  | [] => throw .malformed
  | ']' :: rest =>
    let span ← part text start stop
    withBound ⟨target, some span, none, some .trace⟩ text (stop + 1) rest
  | _ :: rest =>
    let span ← part text start stop
    ofField target (if span.isEmpty then none else some span) text (stop + 1)
      rest

/-- A directive without brackets and without a sign. -/
def ofName (text : String) : Directive :=
  match bound? text with
  | some bound => ⟨none, none, none, bound⟩
  | none => ⟨some text, none, none, some .trace⟩

/-- The directive that a text spells. -/
def parse (text : String) : Except DirectiveFault Directive := do
  match trimBlanks text.toList with
  | [] => throw .malformed
  | '[' :: rest => ofSpan none text 1 rest
  | first :: rest =>
    if !startsTarget first then throw .malformed
    let name := (first :: rest).takeWhile (!endsTarget ·)
    let stop := width name
    match (first :: rest).drop name.length with
    | [] => return ofName text
    | '=' :: _ =>
      let target ← part text 0 stop
      return ⟨some target, none, none, ← boundFrom text (stop + 1)⟩
    | _ :: rest =>
      let target ← part text 0 stop
      ofSpan (some target) text (stop + 1) rest

/-- Whether a directive looks at the spans around an event. -/
def isDynamic (directive : Directive) : Bool :=
  directive.span.isSome || directive.field.isSome

/-- Whether a directive can be decided for an event by itself. -/
def isStatic (directive : Directive) : Bool :=
  directive.span.isNone && directive.field.all (·.value.isNone)

/-- The text of a directive. -/
def text (directive : Directive) : String :=
  let condition := directive.field.elim "" fun field =>
    "\x7b" ++ field.text ++ "\x7d"
  let brackets :=
    if directive.isDynamic then
      "[" ++ directive.span.getD "" ++ condition ++ "]"
    else ""
  let scope := directive.target.getD "" ++ brackets
  (if scope.isEmpty then "" else scope ++ "=") ++ boundName directive.bound

/-- What is compared first: whether there is a target, and its length. -/
def targetSize (directive : Directive) : Nat :=
  directive.target.elim 0 fun target => target.utf8ByteSize + 1

/-- The order of conditions, either of which may be absent. -/
def fieldOrder : Option FieldMatch → Option FieldMatch → Ordering
  | some left, some right => left.order right
  | left, right => compare left.isSome.toNat right.isSome.toNat

/--
The order of directives, the most specific one last: by the length of their
targets, then by whether they name a span and a field, then by their texts.
-/
def order (left right : Directive) : Ordering :=
  (compare left.targetSize right.targetSize).then
    ((compare left.span.isSome.toNat right.span.isSome.toNat).then
      ((compare left.field.isSome.toNat right.field.isSome.toNat).then
        ((compare (left.target.getD "") (right.target.getD "")).then
          ((compare (left.span.getD "") (right.span.getD "")).then
            (fieldOrder left.field right.field)))))

end Directive

end Gatehouse.Log
