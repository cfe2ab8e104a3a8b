import Gatehouse.Text.Cut

/-!
# Command lines

The arguments of the inspection tool: options that pick the configuration,
the name of a command, and the options of that command.  Options are written
`--name value`, `--name=value`, `-n value`, `-nvalue` or `-n=value`, and
options without a value may share a dash.  Behind `--` nothing is an option.

A value that stands apart from its option is looked at when the next option
is understood or the arguments end, so that an argument nobody understands
is reported first.
-/

namespace Gatehouse.Cli

open Gatehouse.Text

/-- What the tool is asked to do. -/
inductive Command where
  /-- Print the configuration, or where its keys come from. -/
  | config (origins : Bool)
  | check
  /-- Print the settings that hold for a route. -/
  | routes (path method : String)
  deriving DecidableEq, Repr

/-- A whole command line. -/
structure Arguments where
  directory : Option String
  environment : Option String
  command : Command
  deriving DecidableEq, Repr

/-- An option of the command line. -/
structure Switch where
  long : String
  short : Option Char
  /-- How messages name its value; nothing if it takes none. -/
  valueName : Option String
  /-- Whether its value may be empty. -/
  allowsEmpty : Bool := true
  deriving DecidableEq, Repr

/-- An option with its value as messages show it. -/
def Switch.label (switch : Switch) : String :=
  "--" ++ switch.long ++
    switch.valueName.elim "" fun name => " <" ++ name ++ ">"

/-- A part of the command line that there is help on. -/
inductive Topic where
  | tool
  | config
  | check
  | routes
  /-- The command that prints help. -/
  | guidance
  deriving DecidableEq, Repr

/-- The commands by their names. -/
def commandTopics : List (String × Topic) :=
  [("config", .config), ("check", .check), ("routes", .routes),
    ("help", .guidance)]

/-- The option that asks for help. -/
def helpSwitch : Switch :=
  ⟨"help", some 'h', none, true⟩

/-- The option for the path of a route. -/
def pathSwitch : Switch :=
  ⟨"path", some 'p', some "PATH", true⟩

/-- The options of a part of the command line. -/
def Topic.switches : Topic → List Switch
  | .tool =>
    [⟨"config-dir", some 'c', some "CONFIG_DIR", false⟩,
      ⟨"env", some 'e', some "ENV", true⟩, helpSwitch]
  | .config => [⟨"origins", none, none, true⟩, helpSwitch]
  | .check => [helpSwitch]
  | .routes =>
    [pathSwitch, ⟨"method", some 'm', some "METHOD", true⟩, helpSwitch]
  | .guidance => []

/-- Why a command line is not carried out. -/
inductive UsageFault where
  /-- Help is wanted. -/
  | help (topic : Topic)
  | noArguments
  | noCommand
  | unknownCommand (name : String)
  | unexpected (argument : String)
  | noValue (switch : Switch)
  | needlessValue (switch : Switch) (value : String)
  | repeated (switch : Switch)
  | missing (switch : Switch)
  deriving DecidableEq, Repr

/-- The wording of a fault, if it has one. -/
def UsageFault.message? : UsageFault → Option String
  | .help _ | .noArguments => none
  | .noCommand =>
    some "'trellis-cli' requires a subcommand but one was not provided"
  | .unknownCommand name => some ("unrecognized subcommand '" ++ name ++ "'")
  | .unexpected argument =>
    some ("unexpected argument '" ++ argument ++ "' found")
  | .noValue switch =>
    some ("a value is required for '" ++ switch.label ++
      "' but none was supplied")
  | .needlessValue switch value =>
    some ("unexpected value '" ++ value ++ "' for '" ++ switch.label ++
      "' found; no more were expected")
  | .repeated switch =>
    some ("the argument '" ++ switch.label ++
      "' cannot be used multiple times")
  | .missing _ =>
    some "the following required arguments were not provided:"

/-- Options with their values. -/
abbrev Found : Type := List (String × String)

/-- What is known in front of an argument. -/
structure Progress where
  /-- The options that are settled. -/
  found : Found
  /-- An option whose value stands apart, and the value once it is known. -/
  pending : Option (Switch × Option String)
  deriving DecidableEq, Repr

namespace Progress

/-- Nothing is known. -/
def start : Progress :=
  ⟨[], none⟩

/-- Take an option with its value. -/
def record (progress : Progress) (switch : Switch) (value : String) :
    Except UsageFault Progress :=
  if (progress.found.lookup switch.long).isSome then .error (.repeated switch)
  else if value.isEmpty && !switch.allowsEmpty then .error (.noValue switch)
  else .ok ⟨progress.found ++ [(switch.long, value)], none⟩

/-- Take the option whose value stands apart, if there is one. -/
def settle (progress : Progress) : Except UsageFault Progress :=
  match progress.pending with
  | none => .ok progress
  | some (switch, none) => .error (.noValue switch)
  | some (switch, some value) => progress.record switch value

/-- Take an option that has its value with it, or needs none. -/
def attach (topic : Topic) (progress : Progress) (switch : Switch)
    (value : String) : Except UsageFault Progress := do
  let progress ← progress.settle
  if switch = helpSwitch then throw (.help topic)
  progress.record switch value

/-- Take an option whose value stands apart. -/
def await (progress : Progress) (switch : Switch) :
    Except UsageFault Progress := do
  return { ← progress.settle with pending := some (switch, none) }

/-- Take an option with a long name; the two dashes are gone. -/
def takeLong (topic : Topic) (progress : Progress) (characters : List Char) :
    Except UsageFault Progress :=
  let (name, value) :=
    match cutCharacters? '=' characters with
    | some (name, value) => (String.ofList name, some (String.ofList value))
    | none => (String.ofList characters, none)
  match topic.switches.find? (·.long == name) with
  | none => .error (.unexpected ("--" ++ name))
  | some switch =>
    match switch.valueName, value with
    | none, none => progress.attach topic switch ""
    | none, some value => .error (.needlessValue switch value)
    | some _, some value => progress.attach topic switch value
    | some _, none => progress.await switch

/-- Take options with short names; the dash is gone. -/
def takeShort (topic : Topic) (progress : Progress) :
    List Char → Except UsageFault Progress
  | [] => .ok progress
  | letter :: rest =>
    match topic.switches.find? (·.short == some letter) with
    | none => .error (.unexpected (String.ofList ['-', letter]))
    | some switch =>
      match switch.valueName, rest with
      | none, _ =>
        (progress.attach topic switch "").bind fun progress =>
          takeShort topic progress rest
      | some _, [] => progress.await switch
      | some _, '=' :: value =>
        progress.attach topic switch (String.ofList value)
      | some _, value => progress.attach topic switch (String.ofList value)

end Progress

/-- What stands behind options. -/
inductive Behind where
  | nothing
  | word (text : String) (rest : List String)
  /-- The first argument behind two dashes. -/
  | trailing (text : String)
  deriving DecidableEq, Repr

/-- Take the options at the front of some arguments. -/
def scan (topic : Topic) :
    Progress → List String → Except UsageFault (Progress × Behind)
  | progress, [] => .ok (progress, .nothing)
  | progress, argument :: rest =>
    match argument.toList with
    | ['-', '-'] =>
      .ok (progress, rest.head?.elim .nothing .trailing)
    | '-' :: '-' :: name =>
      (progress.takeLong topic name).bind fun progress =>
        scan topic progress rest
    | '-' :: letter :: letters =>
      (progress.takeShort topic (letter :: letters)).bind fun progress =>
        scan topic progress rest
    | _ =>
      match progress.pending with
      | some (switch, none) =>
        scan topic { progress with pending := some (switch, some argument) }
          rest
      | _ => .ok (progress, .word argument rest)

/-- The options of a command, behind which nothing stands. -/
def commandOptions (topic : Topic) (arguments : List String) :
    Except UsageFault Found := do
  match ← scan topic .start arguments with
  | (progress, .nothing) => return (← progress.settle).found
  | (_, .word text _) | (_, .trailing text) => throw (.unexpected text)

/-- What a command with its options asks for. -/
def commandOf (topic : Topic) (arguments : List String) :
    Except UsageFault Command := do
  let found ← commandOptions topic arguments
  match topic with
  | .config => return .config (found.lookup "origins").isSome
  | .routes =>
    match found.lookup "path" with
    | some path => return .routes path ((found.lookup "method").getD "GET")
    | none => throw (.missing pathSwitch)
  | .check | .tool | .guidance => return .check

/-- The part of the command line that help is asked about. -/
def helpTopic : List String → Except UsageFault Topic
  | [] => .ok .tool
  | name :: rest =>
    match commandTopics.lookup name, rest with
    | none, _ => .error (.unknownCommand name)
    | some topic, [] => .ok topic
    | some _, next :: _ => .error (.unknownCommand next)

/-- Read a command line. -/
def Arguments.parse (arguments : List String) :
    Except UsageFault Arguments := do
  match ← scan .tool .start arguments with
  | (progress, .nothing) =>
    let found := (← progress.settle).found
    throw (if found.isEmpty then .noArguments else .noCommand)
  | (_, .trailing text) =>
    throw (if (commandTopics.lookup text).isSome then .unexpected text
      else .unknownCommand text)
  | (progress, .word name rest) =>
    match commandTopics.lookup name with
    | none => throw (.unknownCommand name)
    | some .guidance => throw (.help (← helpTopic rest))
    | some topic =>
      let command ← commandOf topic rest
      let found := (← progress.settle).found
      return ⟨found.lookup "config-dir", found.lookup "env", command⟩

end Gatehouse.Cli
