import Gatehouse.Extension.Compose
import Gatehouse.Serve.Router
import Gatehouse.Text.Quoted

/-!
# Groups of declared routes

Routes are declared in groups of one kind, which share the start of their
paths.  Slashes at the end of that start do not count, and under a start
that is not empty the path `/` means the start itself.
-/

namespace Gatehouse.App

open Gatehouse.Extension (ComposeError)
open Gatehouse.Http
open Gatehouse.Route (Kind ShapeFault)
open Gatehouse.Serve

/-- Why a route is not registered. -/
inductive RouteError where
  | invalidPath (path : String)
  | noMethods (path : String)
  | unsupportedMethod (path : String) (method : Method)
  | duplicate (path : String) (method : Method)
  | extension (cause : ComposeError)
  /-- A path that no router can hold. -/
  | unroutable (path : String) (cause : ShapeFault)
  deriving Repr

def RouteError.message : RouteError → String
  | .invalidPath path => "route path `" ++ path ++ "` must start with `/`"
  | .noMethods path => "route `" ++ path ++ "` declares no methods"
  | .unsupportedMethod path method =>
    "method " ++ method.name ++ " is not supported (route `" ++ path ++ "`)"
  | .duplicate path method =>
    "route " ++ method.name ++ " " ++ path ++ " is registered twice"
  | .extension cause => cause.message
  | .unroutable path _ => "route path `" ++ path ++ "` cannot be mounted"

/-- A declared route. -/
structure Declared where
  path : String
  methods : List Method
  handler : Handler

/-- Declared routes of one kind. -/
structure Group where
  kind : Kind
  /-- The start of all paths. -/
  start : String
  routes : List Declared

/-- Whether a path starts with a slash. -/
def isRooted (path : String) : Bool :=
  path.toList.head? == some '/'

/-- The characters without the slashes at their end. -/
def dropTrailingSlashes (characters : List Char) : List Char :=
  (characters.reverse.dropWhile (· == '/')).reverse

/-- A path behind the start of its group. -/
def joinPath (start path : String) : String :=
  let start := String.ofList (dropTrailingSlashes start.toList)
  if start.isEmpty then path
  else if path = "/" then start
  else start ++ path

namespace Declared

/-- The route with its whole path. -/
def placed (start : String) (route : Declared) : Except RouteError Declared :=
  if !isRooted route.path then .error (.invalidPath route.path)
  else if route.methods.isEmpty then .error (.noMethods route.path)
  else
    let path := joinPath start route.path
    if isRooted path then .ok { route with path := path }
    else .error (.invalidPath path)

/-- The handler of a route for a method, which must be a standard one. -/
def handlerFor (route : Declared) (method : Method) :
    Except RouteError Handler :=
  if Method.standard.contains method then .ok route.handler
  else .error (.unsupportedMethod route.path method)

/-- A declared route as messages show it. -/
def inspect (route : Declared) : String :=
  "RouteDef \x7b path: " ++ Text.quoted route.path ++ ", methods: [" ++
    ", ".intercalate (route.methods.map Method.name) ++ "], .. \x7d"

end Declared

/-- The routes of a group with their whole paths. -/
def Group.placed (group : Group) : Except RouteError (List Declared) :=
  group.routes.mapM (Declared.placed group.start)

end Gatehouse.App
