import Gatehouse.Yaml.Decode
import Gatehouse.Http.Method

/-!
# The settings of one route

What remains for a route once the defaults and the winning pattern are
merged, and how a setting of it is switched off or read.
-/

namespace Gatehouse.Route

open Gatehouse.Http
open Gatehouse.Yaml

/-- The pattern that supplied settings, and the method it was for. -/
structure MatchedPattern where
  pattern : String
  method : Option Method
  deriving DecidableEq, Repr

/-- The settings of one route. -/
structure Overrides where
  values : Mapping
  matched : Option MatchedPattern
  deriving Repr

namespace Overrides

/-- Settings that come from no pattern. -/
def ofMapping (values : Mapping) : Overrides :=
  ⟨values, none⟩

/-- The setting of a key. -/
def get? (overrides : Overrides) (key : String) : Option Value :=
  Mapping.get? overrides.values key

/-- The text of the matched pattern. -/
def pattern? (overrides : Overrides) : Option String :=
  overrides.matched.map (·.pattern)

/-- The method of the matched pattern, if it was for one. -/
def method? (overrides : Overrides) : Option Method :=
  overrides.matched.bind (·.method)

/-- Whether a setting is `false` or a mapping that says `enabled: false`. -/
def isDisabled (overrides : Overrides) (key : String) : Bool :=
  match overrides.get? key with
  | some (.bool false) => true
  | some (.mapping entries) =>
    match Mapping.get? entries "enabled" with
    | some (.bool false) => true
    | _ => false
  | _ => false

/-- A setting read into its type; booleans and null count as absent. -/
def «section» {Settings : Type} (overrides : Overrides) (key : String)
    (decoder : Decoder Settings) : Except DecodeError (Option Settings) :=
  match overrides.get? key with
  | none | some .null | some (.bool _) => .ok none
  | some value => (decoder value).map some

end Overrides

/--
The settings of a section with those of a route set in it.  Values that are
no mappings count as empty ones.
-/
def mergeSettings (base : Value) (route : Option Value) : Mapping :=
  let lower :=
    match base with
    | .mapping entries => entries
    | _ => []
  match route with
  | some (.mapping upper) => Mapping.overlay lower upper
  | _ => lower

end Gatehouse.Route
