import Gatehouse.Extension.Load

/-!
# Layers for a route

The extensions that apply to a route, each with the layer that it gives the
route.  The layers stand in the order of declaration, the first one outside;
they are made from the inside to the outside.
-/

namespace Gatehouse.Extension

open Gatehouse.Route (Info Overrides)
open Gatehouse.Serve

/-- An extension without a layer for a route to which it applies. -/
structure ComposeError where
  id : String
  route : Info
  cause : Fault
  deriving Repr

def ComposeError.message (failure : ComposeError) : String :=
  "extension `" ++ failure.id ++ "` could not wrap " ++
    failure.route.method.name ++ " " ++ failure.route.path ++ ": " ++
    failure.cause.message

/-- The layers of a route and the ids of the extensions that they are of. -/
structure Composed where
  /-- The layers, the outermost one first. -/
  layers : List Layer
  applied : List String

/-- The extensions that apply to a route. -/
def applicable (extensions : List Instance) (route : Info)
    (overrides : Overrides) : List Instance :=
  extensions.filter fun built => built.extension.applies route overrides

/-- The layers of extensions for a route, made from the last to the first. -/
def attachAll (route : Info) (overrides : Overrides) :
    List Instance → Action ComposeError (List Layer)
  | [] => return []
  | built :: rest => do
    let inner ← attachAll route overrides rest
    let layer ← Action.mapFailure (ComposeError.mk built.id route)
      (built.extension.attach route overrides)
    return layer :: inner

/-- The layers of all extensions that apply to a route. -/
def compose (extensions : List Instance) (route : Info)
    (overrides : Overrides) : Action ComposeError Composed := do
  let chosen := applicable extensions route overrides
  let layers ← attachAll route overrides chosen
  let applied := chosen.map Instance.id
  Action.report (.debug "Middleware chain composed"
    [("method", route.method.name), ("path", route.path),
      ("extensions", Text.quotedList applied)])
  return ⟨layers, applied⟩

end Gatehouse.Extension
