import Gatehouse.Extension.Compose
import Gatehouse.Extension.Probe
import Gatehouse.Proofs.Extension.Loading
import Gatehouse.Proofs.Serve.Passage

/-!
# Layers in the order of declaration

The extensions that apply to a route are attached to it from the last one
declared to the first one, each once, and the layers that they give stand
around the handler with the first one outside.  If one of them refuses, those
declared behind it have been attached and those declared in front of it have
not.  The main statement also says what a request meets on its way.
-/

namespace Gatehouse.Extension

open Gatehouse.Http
open Gatehouse.Outcome
open Gatehouse.Route (Info Overrides)
open Gatehouse.Serve

/-! ## Attaching extensions -/

/-- Extensions are attached in the order given, each with its layer. -/
inductive Attaches (route : Info) (overrides : Overrides) :
    State → List (Instance × Layer) → State → Prop where
  | done (state : State) : Attaches route overrides state [] state
  | next {built : Instance} {layer : Layer}
      {rest : List (Instance × Layer)} {state between after : State}
      (run : runAction (built.extension.attach route overrides) state =
        (.ok layer, between))
      (tail : Attaches route overrides between rest after) :
      Attaches route overrides state ((built, layer) :: rest) after

section Attaching

variable {route : Info} {overrides : Overrides}

theorem Attaches.append {first second : List (Instance × Layer)}
    {state between after : State}
    (attached : Attaches route overrides state first between)
    (more : Attaches route overrides between second after) :
    Attaches route overrides state (first ++ second) after := by
  induction attached with
  | done => exact more
  | next run tail induction => exact .next run (induction more)

/-- A layer of a route is one that its extension has given. -/
theorem Attaches.exists_run {pairs : List (Instance × Layer)}
    {state after : State}
    (attached : Attaches route overrides state pairs after)
    {built : Instance} {layer : Layer} (member : (built, layer) ∈ pairs) :
    ∃ before behind,
      runAction (built.extension.attach route overrides) before =
        (.ok layer, behind) := by
  induction attached with
  | done => cases member
  | next run tail induction =>
      rcases List.mem_cons.mp member with equal | inner
      · cases equal
        exact ⟨_, _, run⟩
      · exact induction inner

theorem attachAll_ok {chosen : List Instance} {layers : List Layer}
    {state after : State}
    (run : runAction (attachAll route overrides chosen) state =
      (.ok layers, after)) :
    ∃ pairs : List (Instance × Layer), pairs.map Prod.fst = chosen ∧
      pairs.map Prod.snd = layers ∧
      Attaches route overrides state pairs.reverse after := by
  induction chosen generalizing layers after with
  | nil =>
      cases run
      exact ⟨[], rfl, rfl, .done state⟩
  | cons built rest induction =>
      rw [attachAll, runAction_bind_eq_ok_iff] at run
      rcases run with ⟨inner, between, attached, run⟩
      rcases runAction_bind_eq_ok_iff.mp run with
        ⟨layer, returned, own, equal⟩
      cases equal
      rw [runAction_mapFailure_eq_ok_iff] at own
      rcases induction attached with ⟨pairs, rfl, rfl, attaches⟩
      refine ⟨(built, layer) :: pairs, rfl, rfl, ?_⟩
      rw [List.reverse_cons]
      exact attaches.append (.next own (.done _))

theorem attachAll_error {chosen : List Instance} {failure : ComposeError}
    {state after : State}
    (run : runAction (attachAll route overrides chosen) state =
      (.error failure, after)) :
    ∃ front built, ∃ pairs : List (Instance × Layer), ∃ between cause,
      chosen = front ++ built :: pairs.map Prod.fst ∧
      Attaches route overrides state pairs.reverse between ∧
      runAction (built.extension.attach route overrides) between =
        (.error cause, after) ∧
      failure = ⟨built.id, route, cause⟩ := by
  induction chosen generalizing after with
  | nil => cases run
  | cons built rest induction =>
      rw [attachAll, runAction_bind_eq_error_iff] at run
      -- Those behind go first: the fault is theirs, or all of them are done.
      rcases run with inner | ⟨layers, between, attached, run⟩
      · rcases induction inner with
          ⟨front, refusing, pairs, between, cause, rfl, others⟩
        exact ⟨built :: front, refusing, pairs, between, cause, rfl, others⟩
      · rcases attachAll_ok attached with ⟨pairs, rfl, rfl, attaches⟩
        rcases runAction_bind_eq_error_iff.mp run with
          own | ⟨_, _, _, impossible⟩
        · rcases runAction_mapFailure_eq_error_iff.mp own with
            ⟨cause, refused, rfl⟩
          exact ⟨[], built, pairs, between, cause, rfl, attaches, refused,
            rfl⟩
        · cases impossible

/-- What composing leaves besides the attached extensions are reports. -/
theorem compose_ok {extensions : List Instance} {composed : Composed}
    {before after : State}
    (run : runAction (compose extensions route overrides) before =
      (.ok composed, after)) :
    ∃ (pairs : List (Instance × Layer)) (attached : State),
      pairs.map Prod.fst = applicable extensions route overrides ∧
      Attaches route overrides before pairs.reverse attached ∧
      composed = ⟨pairs.map Prod.snd,
        (pairs.map Prod.fst).map Instance.id⟩ ∧
      after = { attached with reported := after.reported } := by
  rw [compose, runAction_bind_eq_ok_iff] at run
  rcases run with ⟨layers, attached, all, run⟩
  rcases attachAll_ok all with ⟨pairs, chosen, rfl, attaches⟩
  rw [runAction_bind_of_ok (runAction_report _)] at run
  cases run
  refine ⟨pairs, attached, chosen, attaches, ?_, rfl⟩
  rw [chosen]

theorem compose_error {extensions : List Instance}
    {failure : ComposeError} {before after : State}
    (run : runAction (compose extensions route overrides) before =
      (.error failure, after)) :
    runAction
      (attachAll route overrides (applicable extensions route overrides))
      before = (.error failure, after) := by
  rw [compose, runAction_bind_eq_error_iff] at run
  rcases run with refused | ⟨layers, attached, _, run⟩
  · exact refused
  · rw [runAction_bind_of_ok (runAction_report _)] at run
    cases run

/-- An extension that does not apply makes no difference to a route. -/
theorem compose_without {front behind : List Instance} {own : Instance}
    (unneeded : own.extension.applies route overrides = false) :
    compose (front ++ own :: behind) route overrides =
      compose (front ++ behind) route overrides := by
  have same : applicable (front ++ own :: behind) route overrides =
      applicable (front ++ behind) route overrides := by
    rw [applicable, applicable, List.filter_append, List.filter_append,
      List.filter_cons_of_neg (by simp [unneeded])]
  rw [compose, compose, same]

/-- An extension that applies has given one of the composed layers. -/
theorem exists_layer_of_compose {extensions : List Instance}
    {own : Instance} {composed : Composed} {before after : State}
    (run : runAction (compose extensions route overrides) before =
      (.ok composed, after))
    (member : own ∈ extensions)
    (needed : own.extension.applies route overrides = true) :
    ∃ layer ∈ composed.layers, ∃ attaching attached,
      runAction (own.extension.attach route overrides) attaching =
        (.ok layer, attached) := by
  rcases compose_ok run with ⟨pairs, attached, chosen, attaches, rfl, _⟩
  have present : own ∈ pairs.map Prod.fst := by
    rw [chosen]
    exact List.mem_filter.mpr ⟨member, needed⟩
  rcases List.mem_map.mp present with ⟨⟨_, layer⟩, paired, rfl⟩
  exact ⟨layer, List.mem_map.mpr ⟨_, paired, rfl⟩,
    attaches.exists_run (List.mem_reverse.mpr paired)⟩

end Attaching

/-! ## The composed handler -/

theorem foldl_reverse_around (pairs : List (Instance × Layer))
    (handler : Handler) :
    pairs.reverse.foldl (fun inner pair => pair.2.around inner) handler =
      Layer.allAround (pairs.map Prod.snd) handler := by
  rw [List.foldl_reverse, Layer.allAround, List.foldr_map]

theorem zip_applied (pairs : List (Instance × Layer)) :
    ((pairs.map Prod.fst).map Instance.id).zip (pairs.map Prod.snd) =
      pairs.map fun pair => (pair.1.id, pair.2) := by
  rw [List.map_map, List.zip_map']
  rfl

/--
The handler with the composed layers around it answers a request by sending
it along them, in from the first one and back out.
-/
theorem passage_of_composed {extensions : List Instance} {route : Info}
    {overrides : Overrides} {composed : Composed} {before after : State}
    (run : runAction (compose extensions route overrides) before =
      (.ok composed, after))
    (handler : Handler) (request : Request) (state final : State)
    (outcome : Except Interruption Response) :
    (runAction (Layer.allAround composed.layers handler request) state =
        (outcome, final) ↔
      ∃ visits, Passage handler (composed.applied.zip composed.layers)
        request state visits outcome final) ∧
    ∀ visits, Passage handler (composed.applied.zip composed.layers)
        request state visits outcome final →
      ∃ full, RoundTrip composed.applied full ∧ visits <+: full ∧
        ∀ response, outcome = .ok response → visits = full := by
  rcases compose_ok run with ⟨pairs, _, _, _, rfl, _⟩
  dsimp only
  rw [zip_applied]
  have layers : pairs.map Prod.snd =
      (pairs.map fun pair => (pair.1.id, pair.2)).map Prod.snd := by
    rw [List.map_map]
    rfl
  have names : (pairs.map Prod.fst).map Instance.id =
      (pairs.map fun pair => (pair.1.id, pair.2)).map Prod.fst := by
    rw [List.map_map, List.map_map]
    rfl
  rw [layers, names]
  constructor
  · exact runAction_allAround_iff
  · intro visits passage
    exact roundTrip_of_passage passage

/--
Composing layers for a route: what is attached and in which order, how the
composed handler treats requests, what a failure tells, and that extensions
are loaded in the order of declaration.
-/
theorem compose_exact (extensions : List Instance) (route : Info)
    (overrides : Overrides) (before : State) :
    (∀ composed after,
      runAction (compose extensions route overrides) before =
        (.ok composed, after) →
      composed.applied =
        (extensions.filter fun built =>
          built.extension.applies route overrides).map Instance.id ∧
      (∃ (pairs : List (Instance × Layer)) (attached : State),
        pairs.map Prod.fst = (extensions.filter fun built =>
          built.extension.applies route overrides) ∧
        pairs.map Prod.snd = composed.layers ∧
        Attaches route overrides before pairs.reverse attached ∧
        after = { attached with reported := after.reported } ∧
        ∀ handler : Handler,
          pairs.reverse.foldl (fun inner pair => pair.2.around inner)
              handler =
            Layer.allAround composed.layers handler) ∧
      ∀ (handler : Handler) (request : Request) (state final : State)
        (outcome : Except Interruption Response),
        (runAction (Layer.allAround composed.layers handler request)
            state = (outcome, final) ↔
          ∃ visits, Passage handler (composed.applied.zip composed.layers)
            request state visits outcome final) ∧
        ∀ visits, Passage handler (composed.applied.zip composed.layers)
            request state visits outcome final →
          ∃ full, RoundTrip composed.applied full ∧ visits <+: full ∧
            ∀ response, outcome = .ok response → visits = full) ∧
    (∀ failure after,
      runAction (compose extensions route overrides) before =
        (.error failure, after) →
      ∃ (front : List Instance) (refusing : Instance)
        (pairs : List (Instance × Layer)) (between : State)
        (cause : Fault),
        (extensions.filter fun built =>
          built.extension.applies route overrides) =
            front ++ refusing :: pairs.map Prod.fst ∧
        Attaches route overrides before pairs.reverse between ∧
        runAction (refusing.extension.attach route overrides) between =
          (.error cause, after) ∧
        failure = ⟨refusing.id, route, cause⟩) ∧
    ∀ (registry : Registry) (document : Config.Document) (after : State),
      runAction (load registry document) before =
        (.ok extensions, after) →
      ∃ declared,
        Declaration.readAll (document.get? Declaration.key) =
          .ok declared ∧
        extensions.map Instance.id = declared.map Declaration.id := by
  refine ⟨?success, ?failure, ?order⟩
  case success =>
    intro composed after run
    rcases compose_ok run with ⟨pairs, attached, chosen, attaches, equal, rest⟩
    refine ⟨?applied, ⟨pairs, attached, chosen, ?_, attaches, rest, ?_⟩,
      passage_of_composed run⟩
    case applied =>
      rw [equal, chosen]
      rfl
    · rw [equal]
    · intro handler
      rw [foldl_reverse_around, equal]
  case failure =>
    intro failure after run
    exact attachAll_error (compose_error run)
  case order =>
    intro registry document after run
    rcases builds_of_load run with ⟨declared, read, builds⟩
    exact ⟨declared, read, ids_of_builds builds⟩

/-- A probe that was built under its own name. -/
def probed (name : String) (attachFault : Option String) : Instance :=
  ⟨name, ⟨name, .null⟩, Probe.extension ⟨name, attachFault⟩⟩

/--
Of two probes the second one is attached first and stands inside.  If the
second one refuses, the first one is not attached.
-/
theorem compose_exact_probes :
    let route : Info := ⟨"/", Method.get, .html⟩
    let overrides : Overrides := .ofMapping []
    (∃ composed after,
      runAction
        (compose [probed "a" none, probed "b" none] route overrides)
        (.start fun _ => 0) = (.ok composed, after) ∧
      composed.applied = ["a", "b"] ∧
      after.notes = ["b:wrap GET /", "a:wrap GET /"]) ∧
    ∃ failure after,
      runAction
        (compose [probed "a" none, probed "b" (some "no")] route overrides)
        (.start fun _ => 0) = (.error failure, after) ∧
      failure.id = "b" ∧ after.notes = ["b:wrap GET /"] := by
  intro route overrides
  constructor
  · refine ⟨_, _, rfl, ?_, by decide⟩
    exact ((compose_exact [probed "a" none, probed "b" none] route overrides
      (.start fun _ => 0)).1 _ _ rfl).1
  · exact ⟨_, _, rfl, rfl, by decide⟩

end Gatehouse.Extension
