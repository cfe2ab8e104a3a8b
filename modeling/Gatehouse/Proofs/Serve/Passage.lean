import Gatehouse.Proofs.Serve.Running
import Gatehouse.Serve.Layer

/-!
# The way of a request through layers

What happens to a request on its way through named layers to a handler and
back is said here by rules: which layer sees the request, which one answers
by itself, which ones see the response.  Running the handler with all layers
around it is exactly following these rules, and the visits on the way make
up a round trip: in from the outside to the handler or to the layer that
answers, and out again in the reverse order.
-/

namespace Gatehouse.Serve

open Gatehouse.Http

/-- Something that happens on the way. -/
inductive Visit where
  /-- A layer sees the request. -/
  | request (name : String)
  /-- A layer answers by itself. -/
  | answer (name : String)
  | handler
  /-- A layer sees the response. -/
  | response (name : String)
  deriving DecidableEq, Repr

/--
The way of a request from a state, with the visits on it, its outcome and
the state behind it.
-/
inductive Passage (handler : Handler) :
    List (String × Layer) → Request → State → List Visit →
      Except Interruption Response → State → Prop where
  | handled {request : Request} {state after : State}
      {outcome : Except Interruption Response}
      (run : runAction (handler request) state = (outcome, after)) :
      Passage handler [] request state [.handler] outcome after
  | interrupted {name : String} {layer : Layer}
      {rest : List (String × Layer)} {request : Request}
      {state after : State} {cause : Interruption}
      (run : runAction (layer request) state = (.error cause, after)) :
      Passage handler ((name, layer) :: rest) request state
        [.request name] (.error cause) after
  | answered {name : String} {layer : Layer}
      {rest : List (String × Layer)} {request : Request}
      {state after : State} {response : Response}
      (run : runAction (layer request) state =
        (.ok (.answer response), after)) :
      Passage handler ((name, layer) :: rest) request state
        [.request name, .answer name] (.ok response) after
  | lost {name : String} {layer : Layer} {rest : List (String × Layer)}
      {request passed : Request} {state between after : State}
      {finish : Response → Action Interruption Response}
      {visits : List Visit} {cause : Interruption}
      (run : runAction (layer request) state =
        (.ok (.forward passed finish), between))
      (inner : Passage handler rest passed between visits
        (.error cause) after) :
      Passage handler ((name, layer) :: rest) request state
        (.request name :: visits) (.error cause) after
  | finished {name : String} {layer : Layer}
      {rest : List (String × Layer)} {request passed : Request}
      {state between returned after : State}
      {finish : Response → Action Interruption Response}
      {visits : List Visit} {response : Response}
      {outcome : Except Interruption Response}
      (run : runAction (layer request) state =
        (.ok (.forward passed finish), between))
      (inner : Passage handler rest passed between visits
        (.ok response) returned)
      (outward : runAction (finish response) returned = (outcome, after)) :
      Passage handler ((name, layer) :: rest) request state
        (.request name :: (visits ++ [.response name])) outcome after

/-! ## Following the rules is running the layers -/

section Running

variable {handler : Handler} {layer : Layer} {request passed : Request}
  {state between after : State}

theorem runAction_around_interrupted {cause : Interruption}
    (run : runAction (layer request) state = (.error cause, after)) :
    runAction (layer.around handler request) state =
      (.error cause, after) :=
  runAction_bind_of_error run

theorem runAction_around_answered {response : Response}
    (run : runAction (layer request) state =
      (.ok (.answer response), after)) :
    runAction (layer.around handler request) state =
      (.ok response, after) :=
  runAction_bind_of_ok run

theorem runAction_around_forwarded
    {finish : Response → Action Interruption Response}
    (run : runAction (layer request) state =
      (.ok (.forward passed finish), between)) :
    runAction (layer.around handler request) state =
      runAction (handler passed >>= finish) between :=
  runAction_bind_of_ok run

/-- Behind a layer that only changes responses everything else is the same. -/
theorem runAction_onResponse_of_ok {change : Response → Response}
    {response : Response}
    (run : runAction (handler request) state = (.ok response, after)) :
    runAction ((Layer.onResponse change).around handler request) state =
      (.ok (change response), after) :=
  (runAction_around_forwarded rfl).trans (runAction_bind_of_ok run)

theorem runAction_onResponse_of_error {change : Response → Response}
    {cause : Interruption}
    (run : runAction (handler request) state = (.error cause, after)) :
    runAction ((Layer.onResponse change).around handler request) state =
      (.error cause, after) :=
  (runAction_around_forwarded rfl).trans (runAction_bind_of_error run)

end Running

theorem runAction_of_passage {handler : Handler}
    {layers : List (String × Layer)} {request : Request}
    {state after : State} {visits : List Visit}
    {outcome : Except Interruption Response}
    (passage : Passage handler layers request state visits outcome after) :
    runAction (Layer.allAround (layers.map Prod.snd) handler request)
      state = (outcome, after) := by
  induction passage with
  | handled run => exact run
  | interrupted run => exact runAction_around_interrupted run
  | answered run => exact runAction_around_answered run
  | lost run inner induction =>
      rw [List.map_cons, Layer.allAround_cons,
        runAction_around_forwarded run]
      exact runAction_bind_of_error induction
  | finished run inner outward induction =>
      rw [List.map_cons, Layer.allAround_cons,
        runAction_around_forwarded run, runAction_bind_of_ok induction]
      exact outward

theorem exists_passage (handler : Handler) (layers : List (String × Layer))
    (request : Request) (state : State) :
    ∃ visits outcome after,
      Passage handler layers request state visits outcome after := by
  induction layers generalizing request state with
  | nil => exact ⟨_, _, _, .handled rfl⟩
  | cons named rest induction =>
      rcases named with ⟨name, layer⟩
      rcases run : runAction (layer request) state with
        ⟨cause | response | ⟨passed, finish⟩, between⟩
      · exact ⟨_, _, _, .interrupted run⟩
      · exact ⟨_, _, _, .answered run⟩
      · rcases induction passed between with
          ⟨visits, cause | response, returned, inner⟩
        · exact ⟨_, _, _, .lost run inner⟩
        · exact ⟨_, _, _, .finished run inner rfl⟩

/-- A handler with layers around it does what the rules say. -/
theorem runAction_allAround_iff {handler : Handler}
    {layers : List (String × Layer)} {request : Request}
    {state after : State} {outcome : Except Interruption Response} :
    runAction (Layer.allAround (layers.map Prod.snd) handler request)
        state = (outcome, after) ↔
      ∃ visits,
        Passage handler layers request state visits outcome after := by
  constructor
  · intro run
    rcases exists_passage handler layers request state with
      ⟨visits, found, returned, passage⟩
    have same := (runAction_of_passage passage).symm.trans run
    cases same
    exact ⟨visits, passage⟩
  · rintro ⟨visits, passage⟩
    exact runAction_of_passage passage

/-- The handler behind one layer runs if the layer lets the request go on. -/
theorem handler_mem_visits_iff {handler : Handler} {name : String}
    {layer : Layer} {request : Request} {state after : State}
    {visits : List Visit} {outcome : Except Interruption Response}
    (passage : Passage handler [(name, layer)] request state visits
      outcome after) :
    .handler ∈ visits ↔
      ∃ passed finish between, runAction (layer request) state =
        (.ok (.forward passed finish), between) := by
  cases passage with
  | interrupted run =>
      rw [run]
      simp
  | answered run =>
      rw [run]
      simp
  | lost run inner =>
      cases inner
      exact ⟨fun _ => ⟨_, _, _, run⟩, fun _ => by simp⟩
  | finished run inner outward =>
      cases inner
      exact ⟨fun _ => ⟨_, _, _, run⟩, fun _ => by simp⟩

/-! ## Round trips -/

/-- The visits of a request that comes back to where it started. -/
inductive RoundTrip : List String → List Visit → Prop where
  | through (names : List String) :
      RoundTrip names
        (names.map .request ++ .handler :: names.reverse.map .response)
  | stopped (front : List String) (name : String) (behind : List String) :
      RoundTrip (front ++ name :: behind)
        ((front ++ [name]).map .request ++
          .answer name :: front.reverse.map .response)

theorem RoundTrip.around {names : List String} {visits : List Visit}
    (trip : RoundTrip names visits) (name : String) :
    RoundTrip (name :: names)
      (.request name :: (visits ++ [.response name])) := by
  cases trip with
  | through =>
      have longer := RoundTrip.through (name :: names)
      simpa using longer
  | stopped front other behind =>
      have longer := RoundTrip.stopped (name :: front) other behind
      simpa using longer

/--
The visits of a request are a round trip, or the beginning of one that is
interrupted.
-/
theorem roundTrip_of_passage {handler : Handler}
    {layers : List (String × Layer)} {request : Request}
    {state after : State} {visits : List Visit}
    {outcome : Except Interruption Response}
    (passage : Passage handler layers request state visits outcome after) :
    ∃ full, RoundTrip (layers.map Prod.fst) full ∧ visits <+: full ∧
      ∀ response, outcome = .ok response → visits = full := by
  induction passage with
  | handled run => exact ⟨_, .through [], List.prefix_refl _, fun _ _ => rfl⟩
  | @interrupted name _ rest =>
      refine ⟨_, .through (name :: rest.map Prod.fst), ?_, nofun⟩
      exact ⟨_, rfl⟩
  | @answered name _ rest =>
      exact ⟨_, .stopped [] name (rest.map Prod.fst), List.prefix_refl _,
        fun _ _ => rfl⟩
  | @lost name _ rest _ _ _ _ _ _ visits _ run inner induction =>
      rcases induction with ⟨full, trip, begins, _⟩
      refine ⟨_, trip.around name, ?_, nofun⟩
      rw [List.cons_prefix_cons]
      exact ⟨rfl, begins.trans (List.prefix_append _ _)⟩
  | @finished name _ rest _ _ _ _ _ _ _ visits response outcome run inner
      outward induction =>
      rcases induction with ⟨full, trip, _, complete⟩
      obtain rfl := complete response rfl
      exact ⟨_, trip.around name, List.prefix_refl _, fun _ _ => rfl⟩

end Gatehouse.Serve
