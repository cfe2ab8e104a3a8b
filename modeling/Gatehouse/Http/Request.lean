import Gatehouse.Http.Headers
import Gatehouse.Http.Method
import Gatehouse.Net.Address
import Gatehouse.Text.Blank

/-!
# Requests

A request as it arrives, together with what the layers in front of a handler
have found out about it.  The address of a client is the one of its
connection; only without one does a forwarding header count.
-/

namespace Gatehouse.Http

open Gatehouse.Net
open Gatehouse.Text

/-- How long a body may be unless something else is configured, in octets. -/
def defaultBodyLimit : Nat := 2 * 1024 * 1024

/-- A request. -/
structure Request where
  method : Method
  /-- The target without a fragment. -/
  target : String
  headers : Headers
  body : Octets
  /-- The other end of the connection. -/
  peer : Option SocketAddress
  /-- The template of the route that answers. -/
  template : Option String := none
  /-- How long a body may be for a handler that reads it. -/
  bodyLimit : Nat := defaultBodyLimit
  /-- The token against forged requests that the client holds. -/
  formToken : Option String := none
  /-- The name of the token that the client has shown. -/
  identity : Option String := none
  deriving Repr

/-- The characters of a target in front of its query. -/
def pathCharacters (target : List Char) : List Char :=
  target.takeWhile fun character => character != '?' && character != '#'

/-- The scheme in front of a colon and two slashes, and what is behind them. -/
def cutScheme? : List Char → Option (List Char × List Char)
  | ':' :: '/' :: '/' :: rest => some ([], rest)
  | [] => none
  | character :: rest =>
    (cutScheme? rest).map fun (scheme, behind) => (character :: scheme, behind)

/-- A character that ends the name of a host. -/
def endsHost (character : Char) : Bool :=
  character == '/' || character == '?'

/-- Whether characters start with a slash. -/
def isRooted (characters : List Char) : Bool :=
  characters.head? == some '/'

/-- The path of a target. -/
def pathOf (target : String) : String :=
  let characters := pathCharacters target.toList
  if isRooted characters then String.ofList characters
  else
    match cutScheme? characters with
    | some (_, rest) => String.ofList (rest.dropWhile (!endsHost ·))
    | none => String.ofList characters

/-- A scheme as it is written: small letters in the usual ones. -/
def schemeText (scheme : List Char) : String :=
  let text := String.ofList scheme
  if lowercased text ∈ ["http", "https"] then lowercased text else text

/--
The target that a text means.  It has no fragment, and behind the name of a
host there is always a path.
-/
def targetOf (text : String) : String :=
  let characters := text.toList.takeWhile (· != '#')
  match cutScheme? characters with
  | some (scheme, rest) =>
    if isRooted characters then String.ofList characters
    else
      let behind := rest.dropWhile (!endsHost ·)
      schemeText scheme ++ "://" ++ String.ofList (rest.takeWhile (!endsHost ·)) ++
        (if isRooted behind then "" else "/") ++ String.ofList behind
  | none => String.ofList characters

namespace Method

/-- Whether a method only reads. -/
def isSafe (method : Method) : Bool :=
  method ∈ [get, head, options, trace]

end Method

namespace Request

/-- The path of a request. -/
def path (request : Request) : String :=
  pathOf request.target

/-- The header that names the clients whose request was forwarded. -/
def forwardedHeader : String := "x-forwarded-for"

/-- The text in front of the first comma, without blanks around it. -/
def firstListed (text : String) : String :=
  trimmed (String.ofList (text.toList.takeWhile (· != ',')))

/-- The client that a forwarding header names. -/
def forwardedClient? (headers : Headers) : Option String :=
  ((headers.text? forwardedHeader).map firstListed).filter fun client =>
    !client.isEmpty

/-- The address of the client, as far as it is known. -/
def client (request : Request) : String :=
  match request.peer with
  | some peer => peer.host.text
  | none => (forwardedClient? request.headers).getD "unknown"

end Request

end Gatehouse.Http
