/-!
# Request methods

The methods of requests by their names.  Names of the standard methods are
in capitals, and any other name is a method of its own.
-/

namespace Gatehouse.Http

/-- A request method. -/
structure Method where
  name : String
  deriving DecidableEq, Repr

namespace Method

def get : Method := ⟨"GET"⟩
def head : Method := ⟨"HEAD"⟩
def post : Method := ⟨"POST"⟩
def put : Method := ⟨"PUT"⟩
def delete : Method := ⟨"DELETE"⟩
def connect : Method := ⟨"CONNECT"⟩
def options : Method := ⟨"OPTIONS"⟩
def trace : Method := ⟨"TRACE"⟩
def patch : Method := ⟨"PATCH"⟩

/-- The standard methods. -/
def standard : List Method :=
  [get, head, post, put, delete, connect, options, trace, patch]

/-- The standard method with a name. -/
def standard? (name : String) : Option Method :=
  standard.find? (·.name == name)

end Method

end Gatehouse.Http
