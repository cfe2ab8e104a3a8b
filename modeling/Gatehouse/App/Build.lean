import Gatehouse.App.Group
import Gatehouse.Config.Environment
import Gatehouse.Config.Settings
import Gatehouse.Route.Table
import Gatehouse.Serve.ContentType

/-!
# Building an application

An application is built from a document: its settings are read and checked,
then the table of route settings, then the extensions.  Groups of routes are
mounted one after the other.  Each route is registered once for each of its
methods, with the settings that hold for its path as it was declared.
-/

namespace Gatehouse.App

open Gatehouse.Config (Document Environment Settings)
open Gatehouse.Extension (Instance LoadError Registry)
open Gatehouse.Http
open Gatehouse.Route (Info Kind Overrides Table TableError)
open Gatehouse.Serve

/-- Why an application is not built. -/
inductive BuildError where
  | config (cause : Config.Error)
  | table (cause : TableError)
  | extensions (cause : LoadError)
  deriving Repr

def BuildError.message : BuildError → String
  | .config cause => cause.message
  | .table cause => cause.message
  | .extensions cause => cause.message

/-- A registered route. -/
structure Registered where
  info : Info
  /-- The pattern whose settings hold for the route. -/
  pattern : Option String
  /-- The ids of the extensions that apply, the outermost one first. -/
  extensions : List String
  deriving DecidableEq, Repr

/-- An application. -/
structure Application where
  environment : Environment
  document : Document
  settings : Settings
  table : Table
  extensions : List Instance
  router : Router
  /-- The registered routes in order. -/
  routes : List Registered
  /-- The paths that are taken, with the methods for which they are. -/
  registered : List (String × Method)

/-- What is reported when an application is built. -/
def configuredEvent (app : Application) : Event :=
  .info "Application configured"
    [("environment", app.environment.name),
      ("route_patterns", toString app.table.entries.length),
      ("extensions", toString app.extensions.length)]

/-- The application that a document describes, without routes. -/
def build (registry : Registry) (environment : Environment)
    (document : Document) : Action BuildError Application := do
  let settings ← Action.ofPure
    ((Settings.ofDocument document >>= Settings.checked).mapError
      BuildError.config)
  let table ← Action.ofPure
    ((Table.ofDocument document).mapError BuildError.table)
  let extensions ← Action.mapFailure BuildError.extensions
    (Extension.load registry document)
  let app : Application :=
    ⟨environment, document, settings, table, extensions, .empty, [], []⟩
  Action.report (configuredEvent app)
  return app

namespace Application

/-- The settings that hold for a path and a method. -/
def overrides (app : Application) (path : String) (method : Method) :
    Overrides :=
  app.table.resolve path method

/-- Whether a path is registered for a method. -/
def isRegistered (app : Application) (path : String) (method : Method) :
    Bool :=
  app.registered.contains (path, method)

/-- How many routes of a kind are registered. -/
def count (app : Application) (kind : Kind) : Nat :=
  (app.routes.filter (·.info.kind == kind)).length

/-- The application with a route registered for one of its methods. -/
def register (app : Application) (kind : Kind) (route : Declared)
    (method : Method) : Action RouteError Application := do
  if app.isRegistered route.path method then
    throw (.duplicate route.path method)
  let app : Application :=
    { app with registered := app.registered ++ [(route.path, method)] }
  let info : Info := ⟨route.path, method, kind⟩
  let overrides := app.overrides route.path method
  let handler ← Action.ofPure (route.handlerFor method)
  let composed ← Action.mapFailure RouteError.extension
    (Extension.compose app.extensions info overrides)
  let layers := composed.layers ++ [defaultContentType kind]
  let router ← Action.ofPure
    ((app.router.add route.path ⟨method, Layer.allAround layers handler⟩).mapError
      (RouteError.unroutable route.path))
  return { app with
    router := router
    routes := app.routes ++ [⟨info, overrides.pattern?, composed.applied⟩] }

/-- The application with a group of routes registered. -/
def mount (app : Application) (group : Group) :
    Action RouteError Application := do
  let routes ← Action.ofPure group.placed
  let mounted ← routes.foldlM
    (fun app route =>
      route.methods.foldlM
        (fun app method => app.register group.kind route method) app)
    app
  let kind := group.kind
  Action.gauge (Metrics.routesRegistered kind.name) (mounted.count kind)
  Action.report (.info "Router mounted"
    [("kind", kind.name),
      ("routes", toString (mounted.routes.length - app.routes.length))])
  return mounted

end Application

end Gatehouse.App
