import Gatehouse.Config.Document
import Gatehouse.Config.Interpolation
import Gatehouse.Config.Source
import Gatehouse.Log

/-!
# Loading a configuration

A file is merged with the files it includes, depth first.  Each file counts
once, at its first visit; a file that is still open when it is reached again
closes a cycle.  Two files must not define the same key, except that an
override replaces the keys of everything it includes.  Variables are filled
in last, when the whole document stands.
-/

namespace Gatehouse.Config

open Gatehouse.Files
open Gatehouse.Yaml

/-- What a loader looks at: the files and the variables. -/
structure World where
  tree : Tree
  lookup : Variables

/-- The state of a walk over included files. -/
structure Walk where
  /-- The files merged so far. -/
  merged : List Location
  /-- The files whose text was asked for, latest first. -/
  reads : List Location
  /-- What has been reported, latest first. -/
  reported : List Event
  deriving Repr

namespace Walk

/-- Before the first file. -/
def start : Walk :=
  ⟨[], [], []⟩

/-- The walk with one more report. -/
def report (walk : Walk) (event : Event) : Walk :=
  { walk with reported := event :: walk.reported }

/-- The walk with one more merged file. -/
def merge (walk : Walk) (location : Location) : Walk :=
  { walk with merged := location :: walk.merged }

/-- The walk with one more file whose text was asked for. -/
def read (walk : Walk) (location : Location) : Walk :=
  { walk with reads := location :: walk.reads }

/-- The reports in order. -/
def events (walk : Walk) : List Event :=
  walk.reported.reverse

end Walk

/-- A computation that walks over files and may be refused. -/
abbrev Loading : Type → Type :=
  ExceptT Error (StateM Walk)

/-! ## Merged settings -/

/-- The name of a key, which must be a text. -/
def keyName (origin : String) : Value → Except Error String
  | .string key => .ok key
  | key => .error (.invalidKey origin key)

/-- The settings merged so far, and beside them where they come from. -/
structure Merged where
  values : Mapping
  origins : Origins
  deriving Repr

namespace Merged

/-- Nothing merged yet. -/
def empty : Merged :=
  ⟨[], []⟩

/-- Set a key in both tables. -/
def put (merged : Merged) (name origin : String) (key value : Value) :
    Merged :=
  ⟨Mapping.put merged.values key value, Origins.put merged.origins name origin⟩

/-- Take over one setting of a source. -/
def addOwn (origin : String) (merged : Merged) (setting : Value × Value) :
    Except Error Merged := do
  let name ← keyName origin setting.1
  return put merged name origin setting.1 setting.2

/-- The settings of a source on its own. -/
def fromOwn (origin : String) (own : Mapping) : Except Error Merged :=
  List.foldlM (addOwn origin) empty own

/--
Take over some settings, none of which may have a key that is there already.
The origins are those of the settings that are left.
-/
def absorbEach (merged : Merged) :
    Origins → Mapping → Except Error Merged
  | _, [] => .ok merged
  | origins, (key, value) :: rest =>
    let name := key.text?.getD ""
    let second := (Origins.get? origins name).getD ""
    match Origins.get? merged.origins name with
    | some first => .error (.conflict name first second)
    | none =>
      absorbEach (put merged name second key value)
        (Origins.erase origins name) rest

/-- The settings of both, unless a key is in both. -/
def absorb (merged other : Merged) : Except Error Merged :=
  absorbEach merged other.origins other.values

/-- Lay some settings over others, and report what they replace. -/
def overlayEach (merged : Merged) : Origins → Mapping → Loading Merged
  | _, [] => pure merged
  | origins, (key, value) :: rest => do
    let name := key.text?.getD ""
    if let some previous := Origins.get? merged.origins name then
      modify (·.report (.debug "Environment override"
        [("key", name), ("replaced", previous)]))
    let origin := (Origins.get? origins name).getD ""
    overlayEach (put merged name origin key value)
      (Origins.erase origins name) rest

/-- The settings of both, where those on top win. -/
def overlay (merged top : Merged) : Loading Merged :=
  overlayEach merged top.origins top.values

/-- The document of some settings, with variables filled in. -/
def finish (world : World) (merged : Merged) : Except Error Document := do
  let values ← interpolateDocument world.lookup merged.values
  return ⟨values, merged.origins⟩

end Merged

/-! ## Going through files -/

/-- Where a path leads to. -/
def locate (world : World) (path : String) : Loading Location :=
  match world.tree.locate path with
  | .ok location => pure location
  | .error cause => throw (.unreadable path cause)

/-- What the file at a location says on its own. -/
def readSource (world : World) (location : Location) (origin : String) :
    Loading Source := do
  modify (·.read location)
  match world.tree.readAt location with
  | .error cause => throw (.unreadable location.path cause)
  | .ok text =>
    match Source.parse origin location.parentPath text with
    | .ok source => pure source
    | .error cause => throw cause

mutual

/--
The settings of a file and of everything it includes that is not merged yet.
`opened` holds the files on the way to this one.  The fuel bounds the length
of that way; every step on it merges one more file.
-/
def loadTree (world : World) :
    Nat → List Location → String → Loading Merged
  | fuel, opened, path => do
    let location ← locate world path
    if opened.contains location then
      throw (.includeCycle location.path)
    if (← get).merged.contains location then
      modify (·.report (.debug "Configuration file already merged, skipping"
        [("file", path)]))
      return .empty
    modify (·.merge location)
    let source ← readSource world location path
    modify (·.report (.debug "Loading configuration file"
      [("file", path), ("includes", toString source.includes.length)]))
    let own ← ofExcept (Merged.fromOwn path source.own)
    match fuel with
    | 0 => throw (.includeCycle location.path)
    | fuel + 1 =>
      loadIncludes world fuel (location :: opened) path own source.includes

/-- The settings so far together with those of the included files. -/
def loadIncludes (world : World) :
    Nat → List Location → String → Merged → List String → Loading Merged
  | _, _, _, merged, [] => pure merged
  | fuel, opened, origin, merged, path :: rest => do
    if !world.tree.exists? path then
      throw (.missingInclude path origin)
    let included ← loadTree world fuel opened path
    let joined ← ofExcept (merged.absorb included)
    loadIncludes world fuel opened origin joined rest

end

/-- A length that no way through the files exceeds. -/
def walkFuel (world : World) : Nat :=
  world.tree.files.length + 2

/-- The document of a file. -/
def load (world : World) (path : String) : Loading Document := do
  let merged ← loadTree world (walkFuel world) [] path
  ofExcept (merged.finish world)

/-- The document of a text; its includes begin in the current directory. -/
def loadText (world : World) (origin text : String) : Loading Document := do
  let source ← ofExcept (Source.parse origin "." text)
  let own ← ofExcept (Merged.fromOwn origin source.own)
  let merged ←
    loadIncludes world (walkFuel world) [] origin own source.includes
  ofExcept (merged.finish world)

/-- Whether two paths lead to one file, or are the same path to none. -/
def sameFile (tree : Tree) (left right : String) : Bool :=
  match tree.locate left, tree.locate right with
  | .ok first, .ok second => first == second
  | .ok first, .error _ => samePath first.path right
  | .error _, .ok second => samePath left second.path
  | .error _, .error _ => samePath left right

/--
The document of an override file.  The base, if any, is included first
unless the override includes it itself.
-/
def loadOverride (world : World) (path : String) (base : Option String) :
    Loading Document := do
  let location ← locate world path
  let source ← readSource world location path
  let includes :=
    match base with
    | none => source.includes
    | some base =>
      if source.includes.any (sameFile world.tree · base) then source.includes
      else base :: source.includes
  modify (·.merge location)
  let lower ←
    loadIncludes world (walkFuel world) [location] path .empty includes
  let own ← ofExcept (Merged.fromOwn path source.own)
  let merged ← lower.overlay own
  ofExcept (merged.finish world)

/-- Run a loading computation: its result, and what it reports in order. -/
def runLoading {Result : Type} (loading : Loading Result) :
    Except Error Result × List Event :=
  let (result, walk) := loading.run.run Walk.start
  (result, walk.events)

end Gatehouse.Config
