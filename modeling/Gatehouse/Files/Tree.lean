import Gatehouse.Files.Path

/-!
# A tree of files

Files and directories as a finite table, and the few questions a loader
asks of it.  A file is identified by its *location*: the names that lead to
it from the root.  Texts of paths are resolved step by step from the current
directory, every step but the last through a directory that exists.

Lengths are limited in two ways.  To look a path up, its text must be short
enough as it is spelled.  To locate it, every name on the way is spelled out
from the root, and those spellings must be short enough, however long the
text is.
-/

namespace Gatehouse.Files

/-- The names that lead from the root to a file or directory. -/
abbrev Location : Type := List String

/-- A location as an absolute path. -/
def Location.path (location : Location) : String :=
  "/" ++ "/".intercalate location

/-- The absolute path of the directory that holds a file. -/
def Location.parentPath (location : Location) : String :=
  Location.path location.dropLast

/-- What a file holds. -/
inductive Content where
  | text (text : String)
  /-- Octets that are no text. -/
  | undecodable
  deriving DecidableEq, Repr

/-- A finite tree of files. -/
structure Tree where
  files : List (Location × Content)
  /-- Directories, apart from those on the way to a file. -/
  directories : List Location
  /-- The directory in which relative paths begin. -/
  current : Location
  deriving Repr

/-- Why a file cannot be read. -/
inductive Fault where
  | notFound
  | notADirectory
  | isADirectory
  | nameTooLong
  | zeroInName
  | undecodable
  deriving DecidableEq, Repr

def Fault.message : Fault → String
  | .notFound => "No such file or directory (os error 2)"
  | .notADirectory => "Not a directory (os error 20)"
  | .isADirectory => "Is a directory (os error 21)"
  | .nameTooLong => "File name too long (os error 36)"
  | .zeroInName => "file name contained an unexpected NUL byte"
  | .undecodable => "stream did not contain valid UTF-8"

namespace Tree

/-- A tree without files. -/
def empty : Tree :=
  ⟨[], [], []⟩

/-- What the file at a location holds. -/
def content? (tree : Tree) (location : Location) : Option Content :=
  tree.files.lookup location

/-- Whether a location is a directory. -/
def isDirectoryAt (tree : Tree) (location : Location) : Bool :=
  tree.files.any (fun file => location.isPrefixOf file.1.dropLast) ||
    tree.directories.any (fun directory => location.isPrefixOf directory) ||
    location.isPrefixOf tree.current

/-- How long one name in a path may be, in octets. -/
def nameLimit : Nat := 255

/-- How long a whole path may be, in octets. -/
def pathLimit : Nat := 4095

/-- One step from a directory. -/
def step (tree : Tree) (location : Location) (piece : String) :
    Except Fault Location :=
  if !tree.isDirectoryAt location then .error .notADirectory
  else if piece = "" || piece = "." then .ok location
  else if piece = ".." then .ok location.dropLast
  else if nameLimit < piece.utf8ByteSize then .error .nameTooLong
  else
    let next := location ++ [piece]
    if (tree.content? next).isSome || tree.isDirectoryAt next then .ok next
    else .error .notFound

/-- The directory in which a path begins. -/
def start (tree : Tree) (path : String) : Location :=
  if isAbsolute path then [] else tree.current

/-- What a path leads to as it is spelled. -/
def lookUp (tree : Tree) (path : String) : Except Fault Location :=
  if path.toList.contains '\x00' then .error .zeroInName
  else if path.isEmpty then .error .notFound
  else if pathLimit < path.utf8ByteSize then .error .nameTooLong
  else (pieces path).foldlM tree.step (tree.start path)

/-- Whether a path leads to something. -/
def exists? (tree : Tree) (path : String) : Bool :=
  match tree.lookUp path with
  | .ok _ => true
  | .error _ => false

/-- Whether a path leads to a file. -/
def isFile (tree : Tree) (path : String) : Bool :=
  match tree.lookUp path with
  | .ok location => (tree.content? location).isSome
  | .error _ => false

/-- Whether a piece of a path names nothing of its own. -/
def isDots (piece : String) : Bool :=
  piece == "" || piece == "." || piece == ".."

/--
Whether the pieces behind a name make sense only if it names a directory:
they name nothing more, or lead out of it again.
-/
def needsDirectory (rest : List String) : Bool :=
  match rest.dropWhile fun piece => piece == "" || piece == "." with
  | [] => !rest.isEmpty
  | piece :: _ => piece == ".."

/-- How long the spelling of a name from the root is, in octets. -/
def spelledLength (location : Location) (piece : String)
    (rest : List String) : Nat :=
  (Location.path (location ++ [piece])).utf8ByteSize +
    if needsDirectory rest then 1 else 0

/-- Where pieces lead if every name is spelled out from the root. -/
def spellOut (tree : Tree) : Location → List String → Except Fault Location
  | location, [] => .ok location
  | location, piece :: rest =>
    if !isDots piece && pathLimit < spelledLength location piece rest then
      .error .nameTooLong
    else do
      let next ← tree.step location piece
      spellOut tree next rest

/-- The location that a path stands for, however it is spelled. -/
def locate (tree : Tree) (path : String) : Except Fault Location :=
  if path.toList.contains '\x00' then .error .zeroInName
  else if path.isEmpty then .error .notFound
  else tree.spellOut (tree.start path) (pieces path)

/-- The text of the file at a location. -/
def readAt (tree : Tree) (location : Location) : Except Fault String :=
  match tree.content? location with
  | some (.text text) => .ok text
  | some .undecodable => .error .undecodable
  | none =>
    if tree.isDirectoryAt location then .error .isADirectory
    else .error .notFound

end Tree

end Gatehouse.Files
