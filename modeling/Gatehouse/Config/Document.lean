import Gatehouse.Config.Error
import Gatehouse.Yaml.Render

/-!
# Configuration documents

A document has two tables: an ordered mapping with the values of its keys,
and beside it the sources that defined them.  Nothing in the tables keeps
them in step; that is up to the loader which fills both.
-/

namespace Gatehouse.Config

open Gatehouse.Yaml

/-- The sources that defined some keys, each key once. -/
abbrev Origins : Type := List (String × String)

namespace Origins

/-- The source that defined a key. -/
def get? (origins : Origins) (key : String) : Option String :=
  List.lookup key origins

/-- Set the source of a key. -/
def put : Origins → String → String → Origins
  | [], key, origin => [(key, origin)]
  | entry :: rest, key, origin =>
    if entry.1 == key then (key, origin) :: rest
    else entry :: put rest key origin

/-- The sources of all other keys. -/
def erase (origins : Origins) (key : String) : Origins :=
  List.filter (fun entry => entry.1 != key) origins

end Origins

/-- A configuration document. -/
structure Document where
  values : Mapping
  origins : Origins
  deriving Repr

/-- A named setting at the top of a document. -/
structure Entry where
  key : String
  value : Value
  /-- The source that defined the setting. -/
  origin : String
  deriving Repr

namespace Document

/-- A document without settings. -/
def empty : Document :=
  ⟨[], []⟩

/-- The value of a key. -/
def get? (document : Document) (key : String) : Option Value :=
  Mapping.get? document.values key

/-- The source that defined a key. -/
def origin? (document : Document) (key : String) : Option String :=
  Origins.get? document.origins key

/-- Whether a key is present. -/
def has (document : Document) (key : String) : Bool :=
  Mapping.has document.values key

/-- The keys in order. -/
def keys (document : Document) : List String :=
  Mapping.textKeys document.values

/-- How many settings there are. -/
def size (document : Document) : Nat :=
  document.values.length

/-- The settings in order, each with its source if that is known. -/
def entries (document : Document) : List Entry :=
  document.values.filterMap fun entry =>
    entry.1.text?.map fun key =>
      ⟨key, entry.2, (document.origin? key).getD ""⟩

/-- The document as YAML, if it can be written. -/
def render (document : Document) : Except MarkFault String :=
  Yaml.render (.mapping document.values)

/--
A section read into its settings, which are the default ones when the key is
absent or null.
-/
def «section» {Settings : Type} (document : Document) (key : String)
    (decoder : Decoder Settings) (defaults : Settings) :
    Except Error Settings :=
  match document.get? key with
  | none => .ok defaults
  | some value =>
    if value.isNull then .ok defaults
    else
      (decoder value).mapError fun cause =>
        .invalidSection key ((document.origin? key).getD "<unknown>") cause

@[simp]
theorem keys_empty : empty.keys = [] := rfl

@[simp]
theorem size_empty : empty.size = 0 := rfl

end Document

end Gatehouse.Config
