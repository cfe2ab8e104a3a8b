import Gatehouse.App.Build
import Gatehouse.Proofs.Extension.Composition
import Gatehouse.Proofs.Extension.Steady
import Gatehouse.Proofs.Serve.Routing
import Mathlib.Data.List.Nodup

/-!
# Registering routes

What one registration does to an application, and when it succeeds.  The
table gains one row, which the settings and the extensions determine by
themselves; everything that decides about success is known before the first
registration.  So the conditions for many registrations are conditions on
the routes together, not on their order.
-/

namespace Gatehouse.Route

/-- The path and the method, which no two registered routes share. -/
def Info.slot (info : Info) : String × Http.Method :=
  (info.path, info.method)

end Gatehouse.Route

namespace Gatehouse.App

open Gatehouse.Extension (Instance Registry applicable compose Composable)
open Gatehouse.Http
open Gatehouse.Outcome
open Gatehouse.Route (Info Kind)
open Gatehouse.Serve

namespace Application

/-- The row for a route, from the settings and the extensions alone. -/
def row (app : Application) (info : Info) : Registered :=
  let overrides := app.overrides info.path info.method
  ⟨info, overrides.pattern?,
    (applicable app.extensions info overrides).map Instance.id⟩

/-- The table, the taken paths and the router agree. -/
structure Sound (app : Application) : Prop where
  slots : app.registered = app.routes.map fun row => row.info.slot
  distinct : app.registered.Nodup
  held : app.router.Holds (app.registered.map Prod.fst)
  compatible : Compatible (app.registered.map Prod.fst)

/-- An application with more routes. -/
structure Extends (app : Application) (infos : List Info)
    (next : Application) : Prop where
  table : next.table = app.table
  extensions : next.extensions = app.extensions
  registered : next.registered = app.registered ++ infos.map Info.slot
  routes : next.routes = app.routes ++ infos.map app.row
  sound : next.Sound

namespace Extends

variable {app middle next : Application} {infos others : List Info}

theorem refl (sound : app.Sound) : app.Extends [] app := by
  constructor
  · rfl
  · rfl
  · rw [List.map_nil, List.append_nil]
  · rw [List.map_nil, List.append_nil]
  · exact sound

theorem overrides (extended : app.Extends infos next) (path : String)
    (method : Method) :
    next.overrides path method = app.overrides path method := by
  rw [Application.overrides, extended.table]
  rfl

theorem row (extended : app.Extends infos next) :
    next.row = app.row := by
  funext info
  rw [Application.row, extended.overrides, extended.extensions]
  rfl

theorem trans (first : app.Extends infos middle)
    (second : middle.Extends others next) :
    app.Extends (infos ++ others) next := by
  constructor
  · rw [second.table, first.table]
  · rw [second.extensions, first.extensions]
  · rw [second.registered, first.registered, List.map_append,
      List.append_assoc]
  · rw [second.routes, first.routes, first.row, List.map_append,
      List.append_assoc]
  · exact second.sound

end Extends

/-! ## One registration -/

section Registering

variable {app next : Application} {kind : Kind} {route : Declared}
  {method : Method} {state after : State}

theorem isRegistered_iff {path : String} :
    app.isRegistered path method = true ↔
      (path, method) ∈ app.registered := by
  rw [isRegistered, List.contains_iff_mem]

theorem register_duplicate
    (taken : (route.path, method) ∈ app.registered) :
    runAction (app.register kind route method) state =
      (.error (.duplicate route.path method), state) := by
  rw [register, if_pos (isRegistered_iff.mpr taken)]
  rfl

/-- What a registration adds to the paths decides whether it fits. -/
theorem Sound.compatible_iff (sound : app.Sound) {path : String}
    {endpoint : Endpoint} :
    (∃ router, app.router.add path endpoint = .ok router) ↔
      Compatible (app.registered.map Prod.fst ++ [path]) :=
  Router.add_ok_iff sound.held sound.compatible

theorem handlerFor_eq_ok_iff {handler : Handler} :
    route.handlerFor method = .ok handler ↔
      method ∈ Method.standard ∧ handler = route.handler := by
  rw [Declared.handlerFor, ← List.contains_iff_mem]
  split
  · rename_i standard
    rw [Except.ok.injEq, eq_comm]
    exact (and_iff_right standard).symm
  · rename_i other
    exact iff_of_false nofun fun found => other found.1

/-- Everything that a registration does to the application. -/
theorem register_ok
    (run : runAction (app.register kind route method) state =
      (.ok next, after)) :
    (route.path, method) ∉ app.registered ∧
    method ∈ Method.standard ∧
    ∃ composed between router,
      runAction (compose app.extensions ⟨route.path, method, kind⟩
        (app.overrides route.path method)) state =
          (.ok composed, between) ∧
      app.router.add route.path ⟨method,
        Layer.allAround (composed.layers ++ [defaultContentType kind])
          route.handler⟩ = .ok router ∧
      next = { app with
        router := router
        routes := app.routes ++ [app.row ⟨route.path, method, kind⟩]
        registered := app.registered ++ [(route.path, method)] } := by
  rw [register] at run
  split at run
  · cases run
  · rename_i free
    rcases runAction_bind_eq_ok_iff.mp run with ⟨handler, _, handling, run⟩
    rcases runAction_bind_eq_ok_iff.mp run with
      ⟨composed, between, composing, run⟩
    rcases runAction_bind_eq_ok_iff.mp run with ⟨router, _, adding, run⟩
    cases run
    rw [runAction_ofPure, Prod.mk.injEq] at handling
    rcases handling with ⟨handled, rfl⟩
    rcases handlerFor_eq_ok_iff.mp handled with ⟨standard, rfl⟩
    have composes : runAction (compose app.extensions
        ⟨route.path, method, kind⟩ (app.overrides route.path method))
          state = (.ok composed, between) :=
      runAction_mapFailure_eq_ok_iff.mp composing
    have added := mapError_eq_ok_iff.mp (congrArg Prod.fst adding)
    refine ⟨mt isRegistered_iff.mpr free, standard, composed, between,
      router, composes, added, ?_⟩
    -- The path is taken before the later checks; the row never reads that.
    have own : app.row ⟨route.path, method, kind⟩ =
        ⟨⟨route.path, method, kind⟩,
          (app.overrides route.path method).pattern?,
          composed.applied⟩ := by
      rcases Extension.compose_ok composes with
        ⟨pairs, _, chosen, _, rfl, _⟩
      rw [row, ← chosen]
    rw [own]
    rfl

theorem Sound.extends_of_register (sound : app.Sound)
    (run : runAction (app.register kind route method) state =
      (.ok next, after)) :
    app.Extends [⟨route.path, method, kind⟩] next := by
  rcases register_ok run with ⟨free, _, _, _, router, _, added, rfl⟩
  have paths : (app.registered ++ [(route.path, method)]).map Prod.fst =
      app.registered.map Prod.fst ++ [route.path] := by
    rw [List.map_append]
    rfl
  refine ⟨rfl, rfl, rfl, rfl, ?_, ?_, ?_, ?_⟩
  · show app.registered ++ [(route.path, method)] = List.map _ (_ ++ [_])
    rw [List.map_append, sound.slots]
    rfl
  · exact List.Nodup.append sound.distinct (List.nodup_singleton _)
      (List.disjoint_singleton.mpr free)
  · show Router.Holds router (List.map _ (_ ++ [_]))
    rw [paths]
    exact sound.held.add added
  · show Compatible (List.map _ (_ ++ [_]))
    rw [paths]
    exact sound.compatible_iff.mp ⟨router, added⟩

end Registering

/-! ## When registrations succeed -/

/-- Routes that can all be registered, in any order. -/
structure Accepts (app : Application) (infos : List Info) : Prop where
  standard : ∀ info ∈ infos, info.method ∈ Method.standard
  composable : ∀ info ∈ infos,
    Composable app.extensions info (app.overrides info.path info.method)
  distinct : (app.registered ++ infos.map Info.slot).Nodup
  compatible :
    Compatible (app.registered.map Prod.fst ++ infos.map Info.path)

section Accepting

variable {app middle next : Application} {kind : Kind} {route : Declared}
  {method : Method} {infos others : List Info} {state : State}

theorem Sound.accepts_nil (sound : app.Sound) : app.Accepts [] := by
  constructor
  · intro info member
    cases member
  · intro info member
    cases member
  · rw [List.map_nil, List.append_nil]
    exact sound.distinct
  · rw [List.map_nil, List.append_nil]
    exact sound.compatible

theorem Accepts.of_perm (accepts : app.Accepts infos)
    (order : infos.Perm others) : app.Accepts others := by
  have members : ∀ info ∈ others, info ∈ infos :=
    fun info member => order.mem_iff.mpr member
  constructor
  · exact fun info member => accepts.standard info (members info member)
  · exact fun info member => accepts.composable info (members info member)
  · exact (((order.map Info.slot).append_left app.registered).nodup_iff).mp
      accepts.distinct
  · exact accepts.compatible.of_subset
      ((order.map Info.path).append_left _).symm.subset

theorem paths_of_slots (infos : List Info) :
    (infos.map Info.slot).map Prod.fst = infos.map Info.path := by
  rw [List.map_map]
  rfl

theorem Accepts.of_append_left (accepts : app.Accepts (infos ++ others)) :
    app.Accepts infos := by
  rcases accepts with ⟨standard, composable, distinct, compatible⟩
  rw [List.map_append, ← List.append_assoc] at distinct compatible
  constructor
  · exact fun info member => standard info (List.mem_append_left _ member)
  · exact fun info member => composable info (List.mem_append_left _ member)
  · exact List.Nodup.of_append_left distinct
  · exact compatible.of_subset (List.subset_append_left _ _)

/-- Routes are accepted together exactly if they are one after the other. -/
theorem Extends.accepts_append_iff (extended : app.Extends infos middle) :
    app.Accepts (infos ++ others) ↔
      app.Accepts infos ∧ middle.Accepts others := by
  have paths : middle.registered.map Prod.fst ++ others.map Info.path =
      app.registered.map Prod.fst ++ (infos ++ others).map Info.path := by
    rw [extended.registered, List.map_append, paths_of_slots,
      List.map_append, List.append_assoc]
  have slots : middle.registered ++ others.map Info.slot =
      app.registered ++ (infos ++ others).map Info.slot := by
    rw [extended.registered, List.map_append, List.append_assoc]
  constructor
  · intro accepts
    refine ⟨accepts.of_append_left, ?_, ?_, ?_, ?_⟩
    · exact fun info member =>
        accepts.standard info (List.mem_append_right _ member)
    · intro info member
      rw [extended.extensions, extended.overrides]
      exact accepts.composable info (List.mem_append_right _ member)
    · rw [slots]
      exact accepts.distinct
    · rw [paths]
      exact accepts.compatible
  · rintro ⟨first, second⟩
    constructor
    · intro info member
      rcases List.mem_append.mp member with member | member
      · exact first.standard info member
      · exact second.standard info member
    · intro info member
      rcases List.mem_append.mp member with member | member
      · exact first.composable info member
      · have composable := second.composable info member
        rw [extended.extensions, extended.overrides] at composable
        exact composable
    · rw [← slots]
      exact second.distinct
    · rw [← paths]
      exact second.compatible

/-- All extensions of an application are steady. -/
def Steady (app : Application) : Prop :=
  ∀ built ∈ app.extensions, built.extension.Steady

theorem Extends.steady (extended : app.Extends infos next)
    (steady : app.Steady) : next.Steady := by
  rw [Steady, extended.extensions]
  exact steady

theorem Sound.accepts_singleton_iff (sound : app.Sound) {info : Info} :
    app.Accepts [info] ↔
      info.method ∈ Method.standard ∧
      Composable app.extensions info
        (app.overrides info.path info.method) ∧
      info.slot ∉ app.registered ∧
      Compatible (app.registered.map Prod.fst ++ [info.path]) := by
  constructor
  · intro accepts
    refine ⟨accepts.standard info (List.mem_singleton_self info),
      accepts.composable info (List.mem_singleton_self info), ?_,
      accepts.compatible⟩
    have apart := List.disjoint_of_nodup_append accepts.distinct
    exact List.disjoint_singleton.mp apart
  · rintro ⟨standard, composable, free, compatible⟩
    constructor
    · intro other member
      obtain rfl := List.mem_singleton.mp member
      exact standard
    · intro other member
      obtain rfl := List.mem_singleton.mp member
      exact composable
    · exact List.Nodup.append sound.distinct (List.nodup_singleton _)
        (List.disjoint_singleton.mpr free)
    · exact compatible

theorem succeeds_register_iff (sound : app.Sound) (steady : app.Steady) :
    Succeeds (app.register kind route method) state ↔
      app.Accepts [⟨route.path, method, kind⟩] := by
  rw [sound.accepts_singleton_iff]
  constructor
  · rintro ⟨next, after, run⟩
    rcases register_ok run with
      ⟨free, standard, composed, between, router, composes, added, _⟩
    exact ⟨standard,
      (Extension.succeeds_compose_iff steady).mp ⟨_, _, composes⟩, free,
      sound.compatible_iff.mp ⟨router, added⟩⟩
  · rintro ⟨standard, composable, free, compatible⟩
    have handled : route.handlerFor method = .ok route.handler :=
      handlerFor_eq_ok_iff.mpr ⟨standard, rfl⟩
    rcases (Extension.succeeds_compose_iff steady).mpr composable with
      ⟨composed, between, composing⟩
    have fits : ∃ router, app.router.add route.path ⟨method,
        Layer.allAround (composed.layers ++ [defaultContentType kind])
          route.handler⟩ = .ok router :=
      sound.compatible_iff.mpr compatible
    rcases fits with ⟨router, added⟩
    rw [register, if_neg (mt isRegistered_iff.mp free)]
    refine succeeds_bind_iff.mpr ⟨route.handler, state, ?_, ?_⟩
    · rw [runAction_ofPure, handled]
    refine succeeds_bind_iff.mpr ⟨composed, between,
      runAction_mapFailure_eq_ok_iff.mpr composing, ?_⟩
    refine succeeds_bind_iff.mpr ⟨router, between, ?_, succeeds_pure _⟩
    rw [runAction_ofPure, added]
    rfl

end Accepting

/-! ## Many registrations -/

/-- The application with routes of one kind registered for methods. -/
def registerAll (app : Application) (kind : Kind)
    (pairs : List (Declared × Method)) : Action RouteError Application :=
  pairs.foldlM (fun app pair => app.register kind pair.1 pair.2) app

/-- A route as it is registered for a method. -/
def infoOf (kind : Kind) (pair : Declared × Method) : Info :=
  ⟨pair.1.path, pair.2, kind⟩

section RegisteringAll

variable {app next : Application} {kind : Kind}
  {pairs : List (Declared × Method)} {state after : State}

theorem registerAll_cons (pair : Declared × Method) :
    app.registerAll kind (pair :: pairs) =
      (app.register kind pair.1 pair.2 >>= fun middle =>
        middle.registerAll kind pairs) := rfl

theorem Sound.extends_of_registerAll (sound : app.Sound)
    (run : runAction (app.registerAll kind pairs) state =
      (.ok next, after)) :
    app.Extends (pairs.map (infoOf kind)) next := by
  induction pairs generalizing app state with
  | nil =>
      cases run
      exact .refl sound
  | cons pair rest induction =>
      rw [registerAll_cons, runAction_bind_eq_ok_iff] at run
      rcases run with ⟨middle, between, own, run⟩
      have first := sound.extends_of_register own
      exact first.trans (induction first.sound run)

theorem succeeds_registerAll_iff (sound : app.Sound)
    (steady : app.Steady) :
    Succeeds (app.registerAll kind pairs) state ↔
      app.Accepts (pairs.map (infoOf kind)) := by
  induction pairs generalizing app state with
  | nil => exact ⟨fun _ => sound.accepts_nil, fun _ => succeeds_pure _⟩
  | cons pair rest induction =>
      rw [registerAll_cons, succeeds_bind_iff, List.map_cons,
        ← List.singleton_append]
      constructor
      · rintro ⟨middle, between, own, succeeds⟩
        have first : app.Extends [infoOf kind pair] middle :=
          sound.extends_of_register own
        rw [first.accepts_append_iff]
        exact ⟨(succeeds_register_iff sound steady).mp ⟨_, _, own⟩,
          (induction first.sound (first.steady steady)).mp succeeds⟩
      · intro accepts
        -- What is left is judged by the application behind the first one.
        rcases (succeeds_register_iff sound steady).mpr
          accepts.of_append_left with ⟨middle, between, own⟩
        have first : app.Extends [infoOf kind pair] middle :=
          sound.extends_of_register own
        refine ⟨middle, between, own, ?_⟩
        rw [first.accepts_append_iff] at accepts
        exact (induction first.sound (first.steady steady)).mpr accepts.2

/-- A path that is taken ends the attempt when it is reached. -/
theorem registerAll_duplicate {front behind : List (Declared × Method)}
    {route : Declared} {method : Method} {reached : Application}
    (run : runAction (app.registerAll kind front) state =
      (.ok reached, after))
    (taken : (route.path, method) ∈ reached.registered) :
    runAction
        (app.registerAll kind (front ++ (route, method) :: behind)) state =
      (.error (.duplicate route.path method), after) := by
  rw [registerAll, List.foldlM_append]
  rw [registerAll] at run
  rw [runAction_bind_of_ok run, List.foldlM_cons]
  exact runAction_bind_of_error (register_duplicate taken)

end RegisteringAll

end Application

end Gatehouse.App
