import Gatehouse.Cli.Failure
import Gatehouse.Cli.Help
import Gatehouse.Config.Environment
import Gatehouse.Config.Settings
import Gatehouse.Extension.Load
import Gatehouse.Json.Render
import Gatehouse.Route.Table
import Gatehouse.Security.Builtin

/-!
# Running a command line

What the inspection tool prints, and whether it succeeds.  A command that
fails keeps what it printed before.
-/

namespace Gatehouse.Cli

open Gatehouse.Config (Document Environment Resolved Resolver Settings World)
open Gatehouse.Http
open Gatehouse.Route (Table)
open Gatehouse.Serve

/-- What a run leaves behind. -/
structure Outcome where
  /-- Zero for success, two for a command line that is not understood. -/
  code : Nat
  output : String
  /-- What is printed for errors, one after the other. -/
  complaints : List String
  deriving DecidableEq, Repr

namespace Outcome

/-- A run that succeeds. -/
def done (output : String) : Outcome :=
  ⟨0, output, []⟩

/-- A run that fails before it prints anything. -/
def failed (failure : Failure) : Outcome :=
  ⟨1, "", ["Error: " ++ failure.inspect]⟩

/-- The lines printed for errors that are not the end of the run. -/
def errorLines (outcome : Outcome) : List String :=
  Text.labelledLines "error: " outcome.complaints

end Outcome

/-- A text with blanks behind it, up to a width. -/
def padded (width : Nat) (text : String) : String :=
  text ++ String.ofList (List.replicate (width - text.length) ' ')

/-- The keys of a document, each with the source that defined it. -/
def originLines (document : Document) : List String :=
  document.keys.map fun key =>
    padded 24 key ++ " " ++ (document.origin? key).getD "-"

/-- Print the configuration, or where its keys come from. -/
def printConfig (document : Document) (origins : Bool) : Outcome :=
  if origins then .done (linesText (originLines document))
  else
    match document.render with
    | .ok text => .done text
    | .error fault => .failed (.unwritable fault)

/-- The result of one check: a line to print, or complaints. -/
abbrev Finding : Type := Except (List String) String

/-- The finding about the values of the settings, which prints nothing. -/
def settingsFinding (settings : Settings) : List String :=
  settings.violations.map Config.Violation.text

/-- The finding about the table of route settings. -/
def tableFinding (document : Document) : Finding :=
  match Table.ofDocument document with
  | .ok table => .ok ("route patterns: " ++ toString table.entries.length)
  | .error cause => .error [cause.message]

/-- The finding about the extensions. -/
def extensionFinding (document : Document) : Finding :=
  let loading := Extension.load Security.registry document
  match (runAction loading (.start fun _ => 0)).1 with
  | .ok built =>
    .ok ("extensions: " ++
      ", ".intercalate (built.map Extension.Instance.id))
  | .error cause => .error [cause.message]

/-- The complaints of a finding. -/
def Finding.complaints : Finding → List String
  | .ok _ => []
  | .error causes => causes

/-- The lines that a finding prints. -/
def Finding.lines : Finding → List String
  | .ok line => [line]
  | .error _ => []

/-- Check everything that can be checked without serving. -/
def checkAll (resolved : Resolved) : Outcome :=
  let document := resolved.document
  match Settings.ofDocument document with
  | .error cause => .failed (.config cause)
  | .ok settings =>
    let table := tableFinding document
    let extensions := extensionFinding document
    let complaints :=
      settingsFinding settings ++ table.complaints ++ extensions.complaints
    let lines := table.lines ++ extensions.lines
    if complaints.isEmpty then
      .done (linesText (lines ++
        ["ok: " ++ resolved.source ++ " (" ++ resolved.environment.name ++ ")"]))
    else
      ⟨1, linesText lines,
        complaints.map ("error: " ++ ·) ++
          ["Error: " ++ Failure.checkFailed.inspect]⟩

/-- The method that a text names in letters of either case. -/
def methodOf? (text : String) : Option Method :=
  let name := text.toList.map Char.toUpper
  if !name.isEmpty && name.all isNameCharacter then
    some ⟨String.ofList name⟩
  else none

/-- What is printed about the settings of a route. -/
def routeJson? (path : String) (method : Method)
    (overrides : Route.Overrides) : Option Json.Value :=
  (Json.ofYaml? (.mapping overrides.values)).map fun config =>
    Json.objectOf
      [("path", .string path), ("method", .string method.name),
        ("matched_pattern", overrides.pattern?.elim .null .string),
        ("config", config)]

/-- Print the settings that hold for a route. -/
def printRoute (document : Document) (path method : String) : Outcome :=
  match methodOf? method with
  | none => .failed .invalidMethod
  | some method =>
    match Table.ofDocument document with
    | .error cause => .failed (.table cause)
    | .ok table =>
      match routeJson? path method (table.resolve path method) with
      | some json => .done (Json.indented json ++ "\n")
      | none => .failed .keyNotText

/-- Carry out a command on a configuration. -/
def Command.run (command : Command) (resolved : Resolved) : Outcome :=
  match command with
  | .config origins => printConfig resolved.document origins
  | .check => checkAll resolved
  | .routes path method => printRoute resolved.document path method

/-- The configuration that a command line picks. -/
def resolve (world : World) (arguments : Arguments) :
    Except Config.Error Resolved :=
  let resolver : Resolver := ⟨world.lookup, arguments.directory⟩
  let environment :=
    match arguments.environment with
    | some name => Environment.parse name
    | none => resolver.environment
  (Config.runLoading (Config.resolveFor world resolver environment)).1

/-- Refuse a command line, or answer a call for help. -/
def refuse (fault : UsageFault) : Outcome :=
  match fault, fault.message? with
  | .help topic, _ => .done topic.help
  | _, some message => ⟨2, "", ["error: " ++ message]⟩
  | _, none => ⟨2, "", [Topic.tool.help]⟩

/-- Run a command line. -/
def run (world : World) (arguments : List String) : Outcome :=
  match Arguments.parse arguments with
  | .error fault => refuse fault
  | .ok arguments =>
    match resolve world arguments with
    | .error cause => .failed (.config cause)
    | .ok resolved => arguments.command.run resolved

end Gatehouse.Cli
