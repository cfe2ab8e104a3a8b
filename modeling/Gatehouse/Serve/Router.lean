import Gatehouse.Route.Shape
import Gatehouse.Serve.Layer

/-!
# Routers

A router holds endpoints by the shape of their paths and by their method.
For a path without a shape nothing is found; for a method without an
endpoint the response lists the methods that have one.  The endpoint for
`GET` also answers `HEAD`, unless that has one of its own.
-/

namespace Gatehouse.Serve

open Gatehouse.Http
open Gatehouse.Route (Shape ShapeFault)

/-- What answers one method. -/
structure Endpoint where
  method : Method
  handler : Handler

/-- What answers at the paths of one shape. -/
structure Branch where
  shape : Shape
  /-- The endpoints in the order in which they were added. -/
  endpoints : List Endpoint

namespace Branch

/-- The endpoint of a method. -/
def endpoint? (branch : Branch) (method : Method) : Option Endpoint :=
  branch.endpoints.find? (·.method == method)

/-- The handler of a method. -/
def handler? (branch : Branch) (method : Method) : Option Handler :=
  let found :=
    match branch.endpoint? method with
    | some endpoint => some endpoint
    | none => if method == Method.head then branch.endpoint? Method.get else none
  found.map Endpoint.handler

/-- The methods that an endpoint answers. -/
def allowedBy (endpoint : Endpoint) : List String :=
  if endpoint.method == Method.get then [Method.get.name, Method.head.name]
  else [endpoint.method.name]

/-- The list of methods that have an endpoint. -/
def allowed (branch : Branch) : String :=
  ",".intercalate (branch.endpoints.flatMap allowedBy)

end Branch

/-- Endpoints by the shape of their paths and by method. -/
structure Router where
  branches : List Branch

namespace Router

/-- The router without endpoints. -/
def empty : Router :=
  ⟨[]⟩

/-- Branches with one more endpoint at the one whose shape has a given text. -/
def addAt (text : String) (endpoint : Endpoint) : List Branch → List Branch
  | [] => []
  | branch :: rest =>
    if branch.shape.text = text then
      { branch with endpoints := branch.endpoints ++ [endpoint] } :: rest
    else branch :: addAt text endpoint rest

/-- The router with one more endpoint. -/
def add (router : Router) (text : String) (endpoint : Endpoint) :
    Except ShapeFault Router := do
  let shape ← Shape.parse text
  if router.branches.any (·.shape.text == text) then
    return ⟨addAt text endpoint router.branches⟩
  else if router.branches.any (·.shape.conflicts shape) then
    throw .conflict
  else return ⟨router.branches ++ [⟨shape, [endpoint]⟩]⟩

/-- The branch that goes before the other ones. -/
def foremost (best : Option Branch) (branch : Branch) : Option Branch :=
  match best with
  | some current =>
    if branch.shape.before current.shape then some branch else some current
  | none => some branch

/-- The branch that answers at a path. -/
def branch? (router : Router) (path : String) : Option Branch :=
  (router.branches.filter (·.shape.matches path)).foldl foremost none

/-- Nothing is there. -/
def notFound : Handler := fun _ =>
  return .empty 404

/-- Something is there, but not for this method. -/
def notAllowed : Handler := fun _ =>
  return .empty 405

/--
Answer requests, with more work around whatever answers.  Where a path is
known the response is completed on its way out, and likewise where the
target has no path.
-/
def answer (router : Router) (outer : Handler → Handler) : Handler :=
  fun request => do
    match router.branch? request.path with
    | none =>
      let response ← outer notFound request
      return if isRooted request.path.toList then response
        else response.sealed request.method none
    | some branch =>
      let request := { request with template := some branch.shape.text }
      match branch.handler? request.method with
      | some handler =>
        return (← outer handler request).sealed request.method none
      | none =>
        return (← outer notAllowed request).sealed request.method
          (some branch.allowed)

end Router

end Gatehouse.Serve
