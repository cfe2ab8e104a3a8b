import Gatehouse.Http.Request
import Gatehouse.Http.Response
import Gatehouse.Serve.State

/-!
# Handlers and layers

A handler answers a request.  A layer stands in front of a handler: it
answers by itself, or it lets the request through, possibly with more known
about it, and may still change the response on its way out.  Layers around a
handler are listed from the outside to the inside.
-/

namespace Gatehouse.Serve

open Gatehouse.Http

/-- Why a request is left without the answer of its handler. -/
inductive Interruption where
  /-- The handling broke down. -/
  | broken
  /-- The time for the request is up. -/
  | timeUp
  deriving DecidableEq, Repr

/-- Answers requests. -/
abbrev Handler : Type :=
  Request → Action Interruption Response

/-- What a layer decides about a request. -/
inductive Decision where
  /-- The layer answers by itself. -/
  | answer (response : Response)
  /-- The request goes on, and its response is finished by the layer. -/
  | forward (request : Request)
      (finish : Response → Action Interruption Response)

/-- Stands in front of a handler. -/
abbrev Layer : Type :=
  Request → Action Interruption Decision

namespace Layer

/-- The handler with a layer in front of it. -/
def around (layer : Layer) (handler : Handler) : Handler := fun request => do
  match ← layer request with
  | .answer response => return response
  | .forward request finish => finish (← handler request)

/-- A layer that only changes responses. -/
def onResponse (change : Response → Response) : Layer := fun request =>
  return .forward request fun response => return change response

/-- The handler with several layers around it, the outermost one first. -/
def allAround (layers : List Layer) (handler : Handler) : Handler :=
  layers.foldr around handler

@[simp]
theorem allAround_nil (handler : Handler) :
    allAround [] handler = handler := rfl

@[simp]
theorem allAround_cons (layer : Layer) (layers : List Layer)
    (handler : Handler) :
    allAround (layer :: layers) handler =
      layer.around (allAround layers handler) := rfl

theorem allAround_append (outer inner : List Layer) (handler : Handler) :
    allAround (outer ++ inner) handler =
      allAround outer (allAround inner handler) := by
  simp [allAround, List.foldr_append]

end Layer

end Gatehouse.Serve
