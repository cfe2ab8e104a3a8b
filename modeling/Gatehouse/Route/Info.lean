import Gatehouse.Http.Method

/-!
# Registered routes

What is known about a route when it is registered: its path, one method, and
whether it shows pages or serves data.
-/

namespace Gatehouse.Route

open Gatehouse.Http

/-- Whom routes are for. -/
inductive Kind where
  /-- Pages for people. -/
  | html
  /-- Data for programs. -/
  | api
  deriving DecidableEq, Repr

/-- The name of a kind. -/
def Kind.name : Kind → String
  | .html => "html"
  | .api => "api"

/-- A route as it is registered, for one method. -/
structure Info where
  path : String
  method : Method
  kind : Kind
  deriving DecidableEq, Repr

end Gatehouse.Route
