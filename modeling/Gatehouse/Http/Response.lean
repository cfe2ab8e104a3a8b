import Gatehouse.Http.Headers
import Gatehouse.Http.Method

/-!
# Responses

A status, headers and a body, and what every response gets on its way out:
the methods that a path allows, the length of its body, and no body at all
for a request that asks for the headers only.
-/

namespace Gatehouse.Http

open Gatehouse.Text

/-- A response. -/
structure Response where
  status : Nat
  headers : Headers
  body : Octets
  deriving DecidableEq, Repr

/-- The type of plain text. -/
def plainText : String := "text/plain; charset=utf-8"

/-- The type of pages. -/
def pageText : String := "text/html; charset=utf-8"

/-- The type of structured data. -/
def jsonText : String := "application/json"

/-- The header that names the type of a body. -/
def contentType : String := "content-type"

/-- The header that tells the length of a body. -/
def contentLength : String := "content-length"

/-- The header that lists the methods of a path. -/
def allowHeader : String := "allow"

namespace Response

/-- A response without headers and without a body. -/
def empty (status : Nat) : Response :=
  ⟨status, [], []⟩

/-- A successful response with a body of a given type. -/
def ofBody (type : String) (body : Octets) : Response :=
  ⟨200, [⟨contentType, octets type⟩], body⟩

/-- A successful response that is plain text. -/
def text (body : String) : Response :=
  ofBody plainText (octets body)

/-- A refusal in plain text, with further headers. -/
def refusal (status : Nat) (headers : Headers) (body : String) : Response :=
  { text body with
    status := status
    headers := (text body).headers ++ headers }

/-- The response with its headers changed. -/
def mapHeaders (change : Headers → Headers) (response : Response) : Response :=
  { response with headers := change response.headers }

/-- Whether a status reports success. -/
def isSuccess (response : Response) : Bool :=
  200 ≤ response.status && response.status < 300

/-- The response with the length of its body, unless it tells one. -/
def measured (response : Response) : Response :=
  response.mapHeaders
    (·.fill contentLength (octets (toString response.body.length)))

/--
The response as it leaves.  A successful answer to a tunnel has neither a
length nor a body.
-/
def sealed (method : Method) (allowed : Option String)
    (response : Response) : Response :=
  if method == .connect && response.isSuccess then
    { response with body := [] }
  else
    let offered :=
      match allowed with
      | some methods => response.mapHeaders (·.fill allowHeader (octets methods))
      | none => response
    let complete := offered.measured
    if method == .head then { complete with body := [] } else complete

end Response

end Gatehouse.Http
