import Gatehouse.Cli.Run

/-!
# The inspection tool

Reads the files and variables that a run asks for and prints what it says.
A run is repeated whenever it asks for a file that was not read yet; each
time one more file is known, so it ends when nothing new is found.
-/

namespace Gatehouse.Main

open Gatehouse.Cli
open Gatehouse.Config (World)
open Gatehouse.Files

/-- The location of an absolute path. -/
def locationOf (path : String) : Location :=
  (pieces path).filter (!·.isEmpty)

/-- The names that stand behind a dollar sign and a brace in a text. -/
def namesIn : List Char → List String
  | '$' :: '\x7b' :: rest =>
    String.ofList (rest.takeWhile Template.isNameCharacter) :: namesIn rest
  | _ :: rest => namesIn rest
  | [] => []

/-- The variables that choose the configuration. -/
def choosingVariables : List String :=
  [Config.environmentVariable, Config.forceVariable, Config.directoryVariable]

/-- The variables that the files of a tree may name. -/
def namedVariables (tree : Tree) : List String :=
  tree.files.flatMap fun file =>
    match file.2 with
    | .text text => namesIn text.toList
    | .undecodable => []

/-- The variables with some names, as they are set now. -/
def variablesOf (names : List String) : IO Variables := do
  let table ← names.filterMapM fun name => do
    return (← IO.getEnv name).map fun value => (name, value)
  return fun name => table.lookup name

/-- The file at a path with its location, if there is one. -/
def fileAt? (path : String) : IO (Option (Location × Content)) := do
  try
    let location := locationOf (← IO.FS.realPath path).toString
    let octets ← IO.FS.readBinFile path
    match String.fromUTF8? octets with
    | some text => return some (location, .text text)
    | none => return some (location, .undecodable)
  catch _ => return none

/-- The tree with the file at a path, and whether it was not known before. -/
def withFile (tree : Tree) (path : String) : IO (Tree × Bool) := do
  match ← fileAt? path with
  | some file =>
    if (tree.content? file.1).isSome then return (tree, false)
    else return ({ tree with files := file :: tree.files }, true)
  | none => return (tree, false)

/-- The file that a failed loading asks for. -/
def wanted? : Config.Error → Option String
  | .missingInclude path _ => some path
  | .unreadable path _ => some path
  | _ => none

/-- The files that the loading of a configuration begins with. -/
def startingPaths (lookup : Variables) (arguments : Arguments) :
    List String :=
  let resolver : Config.Resolver := ⟨lookup, arguments.directory⟩
  let environment :=
    match arguments.environment with
    | some name => Config.Environment.parse name
    | none => resolver.environment
  [Config.baseFile, environment.overrideFile].map
    (join resolver.configDirectory)

/-- Read the files that a loading asks for, at most as many as the fuel. -/
def collect (arguments : Arguments) : Nat → Tree → IO World
  | 0, tree => return ⟨tree, ← variablesOf (choosingVariables ++ namedVariables tree)⟩
  | fuel + 1, tree => do
    let lookup ← variablesOf (choosingVariables ++ namedVariables tree)
    let world : World := ⟨tree, lookup⟩
    match resolve world arguments with
    | .ok _ => return world
    | .error cause =>
      match wanted? cause with
      | none => return world
      | some path =>
        let (tree, isNew) ← withFile tree path
        if isNew then collect arguments fuel tree else return world

/-- How many files a configuration may have. -/
def fileLimit : Nat := 10000

/-- What a run with some arguments looks at. -/
def worldFor (arguments : List String) : IO World := do
  let current := locationOf (← IO.currentDir).toString
  let tree : Tree := ⟨[], [current], current⟩
  let lookup ← variablesOf choosingVariables
  match Arguments.parse arguments with
  | .error _ => return ⟨tree, lookup⟩
  | .ok arguments =>
    let tree ← (startingPaths lookup arguments).foldlM
      (fun tree path => return (← withFile tree path).1) tree
    collect arguments fileLimit tree

end Gatehouse.Main

/-- Run the tool. -/
def main (arguments : List String) : IO UInt32 := do
  let world ← Gatehouse.Main.worldFor arguments
  let outcome := Gatehouse.Cli.run world arguments
  IO.print outcome.output
  outcome.complaints.forM fun line => IO.eprintln line
  return outcome.code.toUInt32
