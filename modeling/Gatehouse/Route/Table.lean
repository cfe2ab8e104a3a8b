import Gatehouse.Config.Document
import Gatehouse.Route.Overrides
import Gatehouse.Route.Pattern
import Gatehouse.Yaml.Inspect

/-!
# The table of route settings

Patterns with their settings, compiled once from the configuration.  Keys of
a pattern that name a method in capitals hold settings for that method
alone, on top of the other keys of the pattern.  For a path and a method the
entry of highest rank wins: an exact pattern before a wildcard, settings for
the method before settings for all, a longer wildcard before a shorter one.
No two entries share both pattern and method.
-/

namespace Gatehouse.Route

open Gatehouse.Http
open Gatehouse.Yaml

/-- Why the route settings at a place are badly formed. -/
inductive OverridesFault where
  | notAMapping
  | notPatterns
  | unknownKey (key : Value)
  | patternNotText (key : Value)
  deriving Repr

def OverridesFault.message : OverridesFault → String
  | .notAMapping => "expected a mapping"
  | .notPatterns => "expected a mapping of pattern to overrides"
  | .unknownKey key =>
    "unknown key " ++ key.inspect ++ ", expected `defaults` or `patterns`"
  | .patternNotText key => "pattern " ++ key.inspect ++ " is not a string"

/-- Why a table of route settings is refused. -/
inductive TableError where
  /-- Two texts mean the same pattern, for the same method or for all. -/
  | ambiguous (pattern : Pattern) (method : Option Method)
      (first second : String)
  | invalidPattern (text : String) (cause : PatternFault)
  | invalidOverrides (location : String) (cause : OverridesFault)
  deriving Repr

def TableError.message : TableError → String
  | .ambiguous pattern method first second =>
    "route patterns `" ++ first ++ "` and `" ++ second ++
      "` both resolve to " ++ pattern.text ++
      (match method with
      | some method => " for " ++ method.name
      | none => "")
  | .invalidPattern text cause =>
    "invalid route pattern `" ++ text ++ "`: " ++ cause.message
  | .invalidOverrides location cause =>
    "invalid route overrides at `" ++ location ++ "`: " ++ cause.message

/-- The settings of a pattern, for one method or for all. -/
structure TableEntry where
  pattern : Pattern
  method : Option Method
  values : Mapping
  /-- The text of the pattern in the configuration. -/
  declared : String
  deriving Repr

/-- What decides between two entries that match. -/
structure Rank where
  exact : Bool
  forMethod : Bool
  literal : Nat
  deriving DecidableEq, Repr

namespace Rank

/-- Whether a rank is at least as high as another one. -/
def atLeast (left right : Rank) : Bool :=
  if left.exact != right.exact then left.exact
  else if left.forMethod != right.forMethod then left.forMethod
  else right.literal ≤ left.literal

end Rank

namespace TableEntry

/-- The rank of an entry. -/
def rank (entry : TableEntry) : Rank :=
  ⟨entry.pattern.isExact, entry.method.isSome, entry.pattern.specificity⟩

/-- Whether an entry is for a path and a method. -/
def «matches» (entry : TableEntry) (path : String) (method : Method) : Bool :=
  entry.pattern.matches path && entry.method.all (· == method)

/-- Whether two entries are for the same pattern and the same method. -/
def sameSlot (left right : TableEntry) : Bool :=
  left.pattern == right.pattern && left.method == right.method

end TableEntry

/-- The table of route settings. -/
structure Table where
  defaults : Mapping
  entries : List TableEntry
  deriving Repr

namespace Table

/-- The table without settings. -/
def empty : Table :=
  ⟨[], []⟩

/-- The top-level key that holds the table. -/
def key : String := "routes"

/-- A mapping, where null counts as an empty one. -/
def mappingAt (location : String) : Value → Except TableError Mapping
  | .null => .ok []
  | .mapping entries => .ok entries
  | _ => .error (.invalidOverrides location .notAMapping)

/-- Settings of a pattern: those for all methods and those for single ones. -/
structure Block where
  shared : Mapping
  perMethod : List (Method × Mapping)
  deriving Repr

/-- The settings of a pattern by the methods that they are for. -/
def blockOf (location : String) : Mapping → Block → Except TableError Block
  | [], block => .ok block
  | (name, value) :: rest, block =>
    match name.label?.bind Method.standard? with
    | some method => do
      let values ← mappingAt (location ++ "." ++ method.name) value
      blockOf location rest
        { block with perMethod := block.perMethod ++ [(method, values)] }
    | none =>
      blockOf location rest
        { block with shared := Mapping.put block.shared name value }

/-- The entries of a pattern, those for single methods first. -/
def Block.entries (block : Block) (pattern : Pattern) (declared : String) :
    List TableEntry :=
  (block.perMethod.map fun (method, values) =>
    ⟨pattern, some method, Mapping.overlay block.shared values, declared⟩) ++
    [⟨pattern, none, block.shared, declared⟩]

/-- Append entries unless one of them takes a slot that is taken. -/
def pushAll (entries : List TableEntry) :
    List TableEntry → Except TableError (List TableEntry)
  | [] => .ok entries
  | entry :: rest =>
    match entries.find? (·.sameSlot entry) with
    | some first =>
      .error (.ambiguous entry.pattern entry.method first.declared
        entry.declared)
    | none => pushAll (entries ++ [entry]) rest

/-- The entries of one pattern of the configuration. -/
def entriesOf (name block : Value) : Except TableError (List TableEntry) := do
  let some text := name.label?
    | throw (.invalidOverrides "routes.patterns" (.patternNotText name))
  let pattern ← (Pattern.parse text).mapError (TableError.invalidPattern text)
  let location := "routes.patterns." ++ text
  let values ← mappingAt location block
  let block ← blockOf location values ⟨[], []⟩
  return block.entries pattern text

/-- The entries of all patterns. -/
def compile (patterns : Value) : Except TableError (List TableEntry) :=
  match patterns with
  | .null => .ok []
  | .mapping blocks =>
    List.foldlM
      (fun entries (block : Value × Value) => do
        let more ← entriesOf block.1 block.2
        pushAll entries more)
      [] blocks
  | _ => .error (.invalidOverrides "routes.patterns" .notPatterns)

/-- Take one key of the `routes` section into the table. -/
def applyKey (table : Table) (name value : Value) : Except TableError Table :=
  match name.label? with
  | some "defaults" => do
    return { table with defaults := ← mappingAt "routes.defaults" value }
  | some "patterns" => do
    return { table with entries := ← compile value }
  | _ => .error (.invalidOverrides key (.unknownKey name))

/-- The table of a `routes` section. -/
def ofValue : Option Value → Except TableError Table
  | none | some .null => .ok empty
  | some (.mapping entries) =>
    List.foldlM
      (fun table (entry : Value × Value) => table.applyKey entry.1 entry.2)
      empty entries
  | some _ => .error (.invalidOverrides key .notAMapping)

/-- The table of a document. -/
def ofDocument (document : Config.Document) : Except TableError Table :=
  ofValue (document.get? key)

/-- The better of two entries, the earlier one of equals. -/
def better (best : Option TableEntry) (entry : TableEntry) :
    Option TableEntry :=
  match best with
  | some current =>
    if current.rank.atLeast entry.rank then some current else some entry
  | none => some entry

/-- The entry that wins for a path and a method. -/
def winner? (table : Table) (path : String) (method : Method) :
    Option TableEntry :=
  (table.entries.filter fun entry => entry.matches path method).foldl better none

/-- The settings for a path and a method. -/
def resolve (table : Table) (path : String) (method : Method) : Overrides :=
  match table.winner? path method with
  | some entry =>
    ⟨Mapping.overlay table.defaults entry.values,
      some ⟨entry.pattern.text, entry.method⟩⟩
  | none => ⟨table.defaults, none⟩

end Table

end Gatehouse.Route
