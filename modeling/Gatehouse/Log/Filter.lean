import Gatehouse.Log.Directive

/-!
# Filters for events

A filter is a list of directives with commas between.  The most specific
directive that fits an event decides about it.  Directives that look at the
spans around an event are kept apart from the others; one that only demands
a field counts among both.
-/

namespace Gatehouse.Log

open Gatehouse.Text

/-- A filter: directives of two kinds, the most specific ones first. -/
structure Filter where
  plain : List Directive
  dynamic : List Directive
  deriving DecidableEq, Repr

namespace Filter

/-- The filter without directives. -/
def empty : Filter :=
  ⟨[], []⟩

/-- Set a directive in a list that is ordered. -/
def put (directive : Directive) : List Directive → List Directive
  | [] => [directive]
  | first :: rest =>
    match directive.order first with
    | .eq => directive :: rest
    | .gt => directive :: first :: rest
    | .lt => first :: put directive rest

/-- The ordered list of directives, the last of equal ones. -/
def ordered (directives : List Directive) : List Directive :=
  directives.foldl (fun found directive => put directive found) []

/-- The filter that directives make up. -/
def ofDirectives (directives : List Directive) : Filter :=
  let (dynamic, plain) := directives.partition Directive.isDynamic
  ⟨ordered (plain ++ dynamic.filter Directive.isStatic), ordered dynamic⟩

/-- The filter that a text spells. -/
def parse (text : String) : Except DirectiveFault Filter := do
  let texts := (pieces ',' text).filter fun piece => !piece.isEmpty
  return ofDirectives (← texts.mapM Directive.parse)

/-- The filter when a text spells none. -/
def fallback : Filter :=
  ⟨[⟨none, none, none, some .info⟩], []⟩

/--
The filter for a configured level.  There is none if a directive would have
to be cut inside a character.
-/
def ofLevel (text : String) : Option Filter :=
  match parse text with
  | .ok filter => some filter
  | .error .malformed => some fallback
  | .error .divided => none

/-- The text of a filter. -/
def text (filter : Filter) : String :=
  ",".intercalate ((filter.plain ++ filter.dynamic).map Directive.text)

/-- Whether a directive fits an event of a target. -/
def fits (target : String) (event : Event) (directive : Directive) : Bool :=
  let names := "message" :: event.fields.map Prod.fst
  directive.target.all (fun start => start.toList.isPrefixOf target.toList) &&
    directive.field.all fun field => names.contains field.name

/-- Whether an event of a target is let through outside all spans. -/
def lets (filter : Filter) (target : String) (event : Event) : Bool :=
  match filter.plain.find? (fits target event) with
  | some directive => directive.bound.any (·.rank ≤ event.level.rank)
  | none => false

@[simp]
theorem text_empty : empty.text = "" := rfl

@[simp]
theorem lets_empty (target : String) (event : Event) :
    empty.lets target event = false := rfl

end Filter

end Gatehouse.Log
