import Gatehouse.Serve.Layer

/-!
# Handlers in stock

Handlers for common answers: fixed bodies of several types, the body of the
request itself, what is known about the request, and an answer that takes
its time.
-/

namespace Gatehouse.Serve

open Gatehouse.Http
open Gatehouse.Text

namespace Handler

/-- Always gives the same response. -/
def constant (response : Response) : Handler := fun _ =>
  return response

/-- Why the body of a request is not read. -/
def tooLong : Response :=
  .refusal 413 [] "Failed to buffer the request body: length limit exceeded"

/-- The length and the text of the body of a request. -/
def echo : Handler := fun request => do
  let length := request.body.length
  if request.bodyLimit < length then return tooLong
  else return .text (toString length ++ ":" ++ lossy request.body)

/-- A text that is there, or a dash. -/
def orDash (text : Option String) : String :=
  text.getD "-"

/-- What is known about a request, a line for each thing. -/
def describe (request : Request) : String :=
  "\n".intercalate
    ["method=" ++ request.method.name,
      "uri=" ++ request.target,
      "matched=" ++ orDash request.template,
      "csrf=" ++ orDash request.formToken,
      "auth=" ++ orDash request.identity,
      "client=" ++ request.client,
      "request_id=" ++ orDash (request.headers.text? "x-request-id")]

/-- Tells what is known about a request. -/
def context : Handler := fun request =>
  return .text (describe request)

/-- Give way to others; a request whose time is up is not resumed. -/
def yield : Action Interruption Unit := do
  let state ← get
  if state.deadline.any (· ≤ state.clock) then throw .timeUp

/-- Answers after a time in nanoseconds. -/
def slow (time : Nat) (body : String) : Handler := fun _ => do
  Action.pass time
  yield
  return .text body

/-- The handler with its response changed. -/
def withResponse (change : Response → Response) (handler : Handler) :
    Handler := fun request =>
  return change (← handler request)

/-- The handler that first leaves a note. -/
def noting (text : String) (handler : Handler) : Handler := fun request => do
  Action.note text
  handler request

end Handler

end Gatehouse.Serve
