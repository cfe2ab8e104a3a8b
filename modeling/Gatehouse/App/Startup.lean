import Gatehouse.App.Answer
import Gatehouse.App.Site
import Gatehouse.Log.Filter
import Gatehouse.Net.Address
import Gatehouse.Security.Builtin

/-!
# Starting a server

From the configuration to the moment when a server could take connections:
the settings are checked, reporting begins, the metrics are shown if that is
wanted, the application is built with its site, and the server binds its
address.  Whether an address can be bound is told from outside.
-/

namespace Gatehouse.App

open Gatehouse.Config (ObservabilitySettings Resolved Resolver Settings World)
open Gatehouse.Net (SocketAddress)
open Gatehouse.Serve

/-- Why a server does not start. -/
inductive StartFault where
  | config (cause : Config.Error)
  /-- Settings with values that make no sense. -/
  | violations (found : List Config.Violation)
  | metricsAddress (text : String)
  | metricsListener (address : SocketAddress)
  | build (cause : BuildError)
  | mount (cause : RouteError)
  | bind (address : String)
  deriving Repr

def StartFault.message : StartFault → String
  | .config cause => cause.message
  | .violations found =>
    toString found.length ++ " configuration error(s)"
  | .metricsAddress text => "`" ++ text ++ "` is not a socket address"
  | .metricsListener address => "cannot show metrics at " ++ address.text
  | .build cause => cause.message
  | .mount cause => cause.message
  | .bind address => "cannot bind " ++ address

/-- What a configuration file is blamed for, line by line. -/
def StartFault.configLines : StartFault → List String
  | .violations found =>
    let texts := found.map fun violation => "config: " ++ violation.text
    (Text.labelledLines "config: " texts).map fun line =>
      String.ofList (line.toList.drop "config: ".length)
  | _ => []

/-- The version of the server. -/
def version : String := "0.1.0"

/-- Whether an address can be bound. -/
abbrev Bindable : Type := SocketAddress → Bool

/-- The settings of a configuration, refused if a value makes no sense. -/
def startSettings (resolved : Resolved) : Except StartFault Settings := do
  let settings ←
    (Settings.ofDocument resolved.document).mapError StartFault.config
  if settings.violations.isEmpty then return settings
  else throw (.violations settings.violations)

/-- What is reported when a server starts. -/
def startingEvent (resolved : Resolved) : Event :=
  .info "trellis starting"
    [("version", version), ("environment", resolved.environment.name),
      ("source", resolved.source)]

/-- Show metrics at the configured address. -/
def showMetrics (bindable : Bindable) (text : String) :
    Action StartFault Unit := do
  let some address := SocketAddress.parse? text | throw (.metricsAddress text)
  if bindable address then
    Action.report (.info "Metrics exporter listening"
      [("address", address.text)])
  else throw (.metricsListener address)

/-- What is reported about a registered route. -/
def registeredEvent (route : Registered) : Event :=
  .debug "Route registered"
    [("method", route.info.method.name), ("path", route.info.path),
      ("kind", route.info.kind.name),
      ("extensions", Text.quotedList route.extensions)]

/-- Bind the address of the server. -/
def bind (bindable : Bindable) (text : String) : Action StartFault Unit := do
  match SocketAddress.parse? text with
  | none => throw (.bind text)
  | some address =>
    if bindable address then
      Action.report (.info "Listening for connections"
        [("address", address.text)])
    else throw (.bind text)

/-- The application of a configuration with the site mounted. -/
def prepare (resolved : Resolved) : Action StartFault Application := do
  let app ← Action.mapFailure StartFault.build
    (build Security.registry resolved.environment resolved.document)
  let app ← Action.mapFailure StartFault.mount (app.mount Site.pages)
  Action.mapFailure StartFault.mount (app.mount Site.data)

/-- Start a server whose settings were read from a configuration. -/
def startWith (bindable : Bindable) (resolved : Resolved)
    (settings : Settings) : Action StartFault Application := do
  Action.report (startingEvent resolved)
  if settings.observability.metricsEnabled then
    showMetrics bindable settings.observability.metricsAddress
  let app ← prepare resolved
  app.routes.forM fun route => Action.report (registeredEvent route)
  bind bindable settings.server.bindAddress
  return app

/-- The events that a server writes in the machine-readable format. -/
def written (settings : ObservabilitySettings) (events : List Event) :
    List Event :=
  match settings.logFormat with
  | .pretty => []
  | .json =>
    match Log.Filter.ofLevel settings.logLevel with
    | some filter => events.filter (filter.lets "trellis")
    | none => []

/-- What a start comes to. -/
structure StartOutcome where
  result : Except StartFault Application
  /-- The events written in the machine-readable format. -/
  written : List Event

/-- Start a server. -/
def start (world : World) (bindable : Bindable) (random : Nat → Nat) :
    StartOutcome :=
  let resolver : Resolver := ⟨world.lookup, none⟩
  match (Config.runLoading (Config.resolve world resolver)).1 with
  | .error cause => ⟨.error (.config cause), []⟩
  | .ok resolved =>
    match startSettings resolved with
    | .error fault => ⟨.error fault, []⟩
    | .ok settings =>
      let (result, state) :=
        runAction (startWith bindable resolved settings) (.start random)
      ⟨result, written settings.observability state.events⟩

end Gatehouse.App
