import Gatehouse.Text.Cut

/-!
# Paths as they are written

Operations on the text of a path, none of which looks at a file.  Two texts
are the same path when they have the same components, so doubled slashes
and inner dots do not count.
-/

namespace Gatehouse.Files

/-- The pieces of a path between slashes, empty ones included. -/
def pieces (path : String) : List String :=
  Text.pieces '/' path

/-- Whether a path begins at the root. -/
def isAbsolute (path : String) : Bool :=
  path.toList.head? == some '/'

/-- A path taken from a directory; an absolute one stands for itself. -/
def join (directory path : String) : String :=
  if isAbsolute path || directory.isEmpty then path
  else if directory.toList.getLast? == some '/' then directory ++ path
  else directory ++ "/" ++ path

/-- The components that count when two paths are compared. -/
def components (path : String) : List String :=
  let named := pieces path
  let kept := named.filter fun piece => piece != "" && piece != "."
  if isAbsolute path then "/" :: kept
  else if named.head? == some "." then "." :: kept
  else kept

/-- Whether two texts are the same path. -/
def samePath (left right : String) : Bool :=
  components left == components right

end Gatehouse.Files
