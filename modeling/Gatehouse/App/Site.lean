import Gatehouse.App.Group
import Gatehouse.Json.Render
import Gatehouse.Serve.Stock

/-!
# The site that is served

A few pages with a form, and a few routes that serve data.
-/

namespace Gatehouse.App.Site

open Gatehouse.Http
open Gatehouse.Serve
open Gatehouse.Text

/-- A response with data. -/
def dataResponse (data : Json.Value) : Response :=
  .ofBody jsonText (octets (Json.compact data))

/-- The form, with the token that a client has to send back. -/
def formText (token : String) : String :=
  "<form method=\"post\"><input type=\"hidden\" name=\"csrf\" value=\"" ++
    token ++ "\"><textarea name=\"message\"></textarea>" ++
    "<button>Send</button></form>"

/-- Shows the form. -/
def form : Handler := fun request =>
  return .text (formText (request.formToken.getD ""))

/-- The page of a text. -/
def page (path text : String) (methods : List Method) : Declared :=
  ⟨path, methods, .constant (.text text)⟩

/-- The pages. -/
def pages : Group where
  kind := .html
  start := ""
  routes :=
    [page "/" "<h1>trellis</h1><p>It works.</p>" [Method.get],
      ⟨"/contact", [Method.get], form⟩,
      page "/contact" "<p>Thanks, message received.</p>" [Method.post]]

/-- What is known about the only user. -/
def user : Json.Value :=
  Json.objectOf [("id", .number (.int 1)), ("name", .string "ada")]

/-- The number behind the last slash of a path. -/
def lastNumber? (path : String) : Option Nat :=
  let digits := (path.toList.reverse.takeWhile (· != '/')).reverse
  if !digits.isEmpty && digits.all Char.isDigit then
    some (digits.foldl
      (fun total digit => 10 * total + (digit.toNat - '0'.toNat)) 0)
  else none

/-- Tells about the user whose number ends the path. -/
def showUser : Handler := fun request =>
  return match lastNumber? request.path with
    | some 1 => dataResponse user
    | some _ => .empty 404
    | none => .refusal 400 [] "Invalid URL"

/-- Tells which token a client has shown. -/
def showIdentity : Handler := fun request =>
  return dataResponse (Json.objectOf
    [("token", request.identity.elim .null .string)])

/-- A route that only reads. -/
def reading (path : String) (handler : Handler) : Declared :=
  ⟨path, [Method.get], handler⟩

/-- The routes that serve data. -/
def data : Group where
  kind := .api
  start := "/api"
  routes :=
    [reading "/health"
        (.constant (dataResponse (Json.objectOf [("status", .string "ok")]))),
      reading "/users" (.constant (dataResponse (.array [user]))),
      reading "/users/\x7bid\x7d" showUser,
      reading "/whoami" showIdentity]

end Gatehouse.App.Site
