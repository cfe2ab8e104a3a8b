import Gatehouse.Config.Document
import Gatehouse.Extension.Declaration
import Gatehouse.Extension.Registry

/-!
# Building the declared extensions

The extensions that a document asks for are built one after the other, each
from its top-level section or from the section given with its id, but not
from both.  The first one that cannot be built ends the attempt.
-/

namespace Gatehouse.Extension

open Gatehouse.Config (Document)
open Gatehouse.Serve
open Gatehouse.Yaml

/-- Why the declared extensions are not built. -/
inductive LoadError where
  | invalidList (cause : DeclarationFault)
  | unknown (id : String) (registered : List String)
  | duplicate (id : String)
  /-- A section both with the id and at the top. -/
  | givenTwice (id key : String)
  | notAMapping (id key : String)
  | construction (id : String) (cause : Fault)
  deriving Repr

def LoadError.message : LoadError → String
  | .invalidList cause => "invalid `extensions` value: " ++ cause.message
  | .unknown id registered =>
    "unknown extension `" ++ id ++ "` (registered: " ++
      ", ".intercalate registered ++ ")"
  | .duplicate id => "extension `" ++ id ++ "` is declared more than once"
  | .givenTwice id key =>
    "invalid configuration for extension `" ++ id ++
      "`: configured both inline and in the top-level `" ++ key ++ "` section"
  | .notAMapping id key =>
    "invalid configuration for extension `" ++ id ++ "`: section `" ++ key ++
      "` must be a mapping"
  | .construction id cause =>
    "extension `" ++ id ++ "` failed to start: " ++ cause.message

/-- An extension that was built, with its id and its section. -/
structure Instance where
  id : String
  config : Config
  extension : Extension

/-- An extension that was built, as messages show it. -/
def Instance.inspect (built : Instance) : String :=
  "ExtensionInstance \x7b id: " ++ Text.quoted built.id ++ ", name: " ++
    Text.quoted built.extension.name ++ ", section: " ++
    Text.quoted built.config.key ++ " \x7d"

/-- What is reported about a list of extensions in the older form. -/
def oldFormEvent : Event :=
  .warn ("`extensions` as a mapping is deprecated; list the ids and move " ++
    "their configuration to top-level sections") []

/-- The extensions that a document asks for. -/
def declarations (document : Document) :
    Action LoadError (List Declaration) := do
  let declared := document.get? Declaration.key
  if Declaration.isOldForm declared then Action.report oldFormEvent
  Action.ofPure ((Declaration.readAll declared).mapError LoadError.invalidList)

/-- The section that a declared extension is built from. -/
def chooseSection (document : Document) (declaration : Declaration)
    (key : String) : Except LoadError Config :=
  match document.get? key, declaration.given with
  | some _, some _ => .error (.givenTwice declaration.id key)
  | found, given =>
    match (found <|> given).getD .null with
    | .null => .ok ⟨key, .null⟩
    | .mapping entries => .ok ⟨key, .mapping entries⟩
    | _ => .error (.notAMapping declaration.id key)

/-- Build one declared extension. -/
def build (registry : Registry) (document : Document)
    (declaration : Declaration) : Action LoadError Instance := do
  let id := declaration.id
  let some registration := registry.find? id
    | throw (.unknown id registry.ids)
  let config ← Action.ofPure
    (chooseSection document declaration registration.key)
  let extension ← Action.mapFailure (LoadError.construction id)
    (registration.construct config)
  Action.report (.debug "Extension constructed"
    [("extension", id), ("section", registration.key)])
  return ⟨id, config, extension⟩

/-- Build declared extensions in order, none of whose ids was seen before. -/
def buildAll (registry : Registry) (document : Document) :
    List String → List Declaration → Action LoadError (List Instance)
  | _, [] => return []
  | seen, declaration :: rest => do
    if seen.contains declaration.id then throw (.duplicate declaration.id)
    let first ← build registry document declaration
    let others ← buildAll registry document (declaration.id :: seen) rest
    return first :: others

/-- Build all extensions that a document asks for. -/
def load (registry : Registry) (document : Document) :
    Action LoadError (List Instance) := do
  let declared ← declarations document
  let built ← buildAll registry document [] declared
  Action.report (.info "Extensions loaded"
    [("extensions", Text.quotedList (built.map Instance.id))])
  return built

end Gatehouse.Extension
