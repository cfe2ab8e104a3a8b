import Gatehouse.App.Build
import Gatehouse.Decimal.Quantity

/-!
# Answering requests

What stands around all routes of an application, from the outside to the
inside: every request has an identifier, which its response repeats; a
handler that takes too long is given up; and the length of bodies is
limited.
-/

namespace Gatehouse.App

open Gatehouse.Decimal
open Gatehouse.Http
open Gatehouse.Serve
open Gatehouse.Text

/-- The header that holds the identifier of a request. -/
def identifierHeader : String := "x-request-id"

/-- The layer that gives an identifier to requests without one. -/
def identify : Layer := fun request => do
  if request.headers.has identifierHeader then
    return .forward request pure
  else
    let identifier ← Action.identifier
    let headers := request.headers.append identifierHeader
      (octets identifier.hyphenated)
    return .forward { request with headers := headers } pure

/-- The layer that repeats the identifier of a request on its response. -/
def repeatIdentifier : Layer := fun request =>
  return .forward request fun response =>
    return match request.headers.first? identifierHeader with
      | some value => response.mapHeaders (·.fill identifierHeader value)
      | none => response

/-- The layer that limits how long the body of a request may be. -/
def limitBody (limit : Nat) : Layer := fun request =>
  return .forward { request with bodyLimit := limit } pure

/-- How many seconds a timer runs at most: thirty years. -/
def longestWait : Nat := 30 * 365 * 86400

/-- The handler, given up after a number of seconds. -/
def withDeadline (seconds : Nat) (handler : Handler) : Handler :=
  fun request => do
    let wait := min seconds longestWait * nanosecond
    modify fun state => { state with deadline := some (state.clock + wait) }
    try
      let response ← handler request
      modify fun state => { state with deadline := none }
      return response
    catch
      | .timeUp => do
        modify fun state => { state with deadline := none }
        return .empty 408
      | .broken => throw .broken

/-- A handler with what stands around all routes. -/
def Application.around (app : Application) (handler : Handler) : Handler :=
  let server := app.settings.server
  Layer.allAround [identify, repeatIdentifier]
    (withDeadline server.requestTimeout
      ((limitBody server.maxBodySize).around handler))

/-- Answers all requests to an application. -/
def Application.answer (app : Application) : Handler :=
  app.router.answer app.around

end Gatehouse.App
