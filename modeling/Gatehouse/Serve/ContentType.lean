import Gatehouse.Route.Info
import Gatehouse.Serve.Layer

/-!
# Default content types

Routes that show pages turn a missing type, plain text and a type that
cannot be read into the type of pages.  Routes that serve data only fill in
the type of data when the handler has set none.
-/

namespace Gatehouse.Serve

open Gatehouse.Http
open Gatehouse.Route
open Gatehouse.Text

/-- Whether a value counts as plain text on a route that shows pages. -/
def countsAsPlain (value : Octets) : Bool :=
  match visibleText? value with
  | some text => "text/plain".toList.isPrefixOf text.toList
  | none => true

/-- The headers of a page. -/
def pageHeaders (headers : Headers) : Headers :=
  if (headers.first? contentType).all countsAsPlain then
    headers.set contentType (octets pageText)
  else headers

/-- The headers of data. -/
def dataHeaders (headers : Headers) : Headers :=
  headers.fill contentType (octets jsonText)

/-- The layer that sets the type of a kind of route by default. -/
def defaultContentType : Kind → Layer
  | .html => .onResponse (·.mapHeaders pageHeaders)
  | .api => .onResponse (·.mapHeaders dataHeaders)

end Gatehouse.Serve
