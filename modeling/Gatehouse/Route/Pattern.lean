import Gatehouse.Text.Blank

/-!
# Route patterns

A pattern means one path, all paths below a path, or every path.  Only a
whole final segment can be a wildcard, and one trailing slash never counts
in a path that is meant exactly.
-/

namespace Gatehouse.Route

/-- What a set of route settings applies to. -/
inductive Pattern where
  /-- One path, without a trailing slash. -/
  | exact (path : String)
  /-- Every path with this start, which is empty or ends in a slash. -/
  | below (start : String)
  deriving DecidableEq, Repr

/-- Why a text is no pattern. -/
inductive PatternFault where
  | noSlash
  | partialWildcard
  | severalWildcards
  | innerWildcard
  deriving DecidableEq, Repr

def PatternFault.message : PatternFault → String
  | .noSlash => "patterns must start with `/`"
  | .partialWildcard =>
    "a wildcard must be a whole final segment (`/prefix/*`)"
  | .severalWildcards => "only one trailing wildcard is supported"
  | .innerWildcard => "wildcards are only supported as a trailing `/*`"

/-- The characters of a path without one trailing slash, the root apart. -/
def withoutTrailingSlash (path : List Char) : List Char :=
  if 1 < path.length ∧ path.getLast? = some '/' then path.dropLast else path

/-- A path without one trailing slash, the root apart. -/
def normalized (path : String) : String :=
  String.ofList (withoutTrailingSlash path.toList)

namespace Pattern

/-- The pattern that some characters without blanks around them spell. -/
def ofCharacters (characters : List Char) : Except PatternFault Pattern :=
  if characters = ['*'] then .ok (.below "")
  else if characters.head? ≠ some '/' then .error .noSlash
  else if characters.getLast? = some '*' then
    let start := characters.dropLast
    if start.getLast? ≠ some '/' then .error .partialWildcard
    else if start.contains '*' then .error .severalWildcards
    else .ok (.below (String.ofList start))
  else if characters.contains '*' then .error .innerWildcard
  else .ok (.exact (String.ofList (withoutTrailingSlash characters)))

/-- The pattern that a text spells. -/
def parse (text : String) : Except PatternFault Pattern :=
  ofCharacters (Text.trimBlanks text.toList)

/-- Whether a path is meant. -/
def «matches» : Pattern → String → Bool
  | .exact path, candidate => normalized candidate == path
  | .below start, candidate => start.toList.isPrefixOf candidate.toList

/-- Whether the pattern means one path only. -/
def isExact : Pattern → Bool
  | .exact _ => true
  | .below _ => false

/-- The literal part of a pattern. -/
def literal : Pattern → String
  | .exact path => path
  | .below start => start

/-- How many octets of a path the pattern fixes. -/
def specificity (pattern : Pattern) : Nat :=
  pattern.literal.utf8ByteSize

/-- The text of a pattern. -/
def text : Pattern → String
  | .exact path => path
  | .below start => start ++ "*"

end Pattern

end Gatehouse.Route
