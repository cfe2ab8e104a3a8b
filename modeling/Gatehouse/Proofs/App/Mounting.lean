import Gatehouse.Proofs.App.Registration

/-!
# Mounting groups of routes

The table of an application after any groups have been mounted: one row for
each declared path and method, in order, and nothing else.  A path that is
taken for a method ends a mount when it is reached.  With steady extensions
the order of the groups decides about the order of the rows but never about
success.
-/

namespace Gatehouse.App

open Gatehouse.Config (Document Environment)
open Gatehouse.Extension (Registry)
open Gatehouse.Http
open Gatehouse.Outcome
open Gatehouse.Route (Info Kind)
open Gatehouse.Serve

/-! ## What a group declares -/

/-- The routes of a group with their whole paths, once for each method. -/
def Group.infos (group : Group) : List Info :=
  group.routes.flatMap fun route =>
    route.methods.map fun method =>
      ⟨joinPath group.start route.path, method, group.kind⟩

/-- Routes with each of their methods, in order. -/
def registrations (routes : List Declared) : List (Declared × Method) :=
  routes.flatMap fun route => route.methods.map fun method => (route, method)

/-- A declared route with its whole path. -/
def Declared.under (start : String) (route : Declared) : Declared :=
  { route with path := joinPath start route.path }

@[simp]
theorem Declared.under_path (start : String) (route : Declared) :
    (route.under start).path = joinPath start route.path := by
  rw [under]

@[simp]
theorem Declared.under_methods (start : String) (route : Declared) :
    (route.under start).methods = route.methods := by
  rw [under]

@[simp]
theorem Declared.under_handler (start : String) (route : Declared) :
    (route.under start).handler = route.handler := by
  rw [under]

theorem placed_ok {start : String} {route placed : Declared}
    (found : route.placed start = .ok placed) :
    placed = route.under start := by
  rw [Declared.placed] at found
  split at found
  · cases found
  · split at found
    · cases found
    · dsimp only at found
      split at found
      · exact (Except.ok.inj found).symm
      · cases found

theorem routes_of_placed {group : Group} {placed : List Declared}
    (found : group.placed = .ok placed) :
    placed = group.routes.map (Declared.under group.start) := by
  rw [Group.placed, mapM_eq_ok_iff] at found
  generalize group.routes = routes at found
  induction found with
  | nil => rfl
  | cons first _ induction =>
      rw [List.map_cons, ← induction, placed_ok first]

theorem infos_of_placed {group : Group} {placed : List Declared}
    (found : group.placed = .ok placed) :
    (registrations placed).map (Application.infoOf group.kind) =
      group.infos := by
  rw [routes_of_placed found, registrations, Group.infos,
    List.map_flatMap, List.flatMap_map]
  simp only [List.map_map, Function.comp_def, Application.infoOf,
    Declared.under_path, Declared.under_methods]

namespace Application

/-! ## One mount -/

section Mounting

variable {app next : Application} {group : Group}
  {placed : List Declared} {state after : State}

theorem foldlM_registrations (kind : Kind) (routes : List Declared)
    (app : Application) :
    routes.foldlM
      (fun app route => route.methods.foldlM
        (fun app method => app.register kind route method) app) app =
      app.registerAll kind (registrations routes) := by
  induction routes generalizing app with
  | nil => rfl
  | cons route rest induction =>
      rw [registrations, List.flatMap_cons, registerAll,
        List.foldlM_append, List.foldlM_map, List.foldlM_cons]
      exact bind_congr induction

/-- What is left to do when the routes of a group are registered. -/
def announce (app : Application) (kind : Kind) (mounted : Application) :
    Action RouteError Application := do
  Action.gauge (Metrics.routesRegistered kind.name) (mounted.count kind)
  Action.report (.info "Router mounted"
    [("kind", kind.name),
      ("routes", toString (mounted.routes.length - app.routes.length))])
  return mounted

theorem mount_eq :
    app.mount group =
      (Action.ofPure group.placed >>= fun placed =>
        app.registerAll group.kind (registrations placed) >>=
          app.announce group.kind) := by
  simp only [mount, foldlM_registrations]
  rfl

theorem runAction_mount_of_error {cause : RouteError}
    (refused : group.placed = .error cause) :
    runAction (app.mount group) state = (.error cause, state) := by
  rw [mount, refused]
  rfl

theorem runAction_mount_of_ok (found : group.placed = .ok placed) :
    runAction (app.mount group) state =
      runAction (app.registerAll group.kind (registrations placed) >>=
        app.announce group.kind) state := by
  rw [mount_eq, found]
  rfl

theorem mount_ok
    (run : runAction (app.mount group) state = (.ok next, after)) :
    ∃ placed between, group.placed = .ok placed ∧
      runAction (app.registerAll group.kind (registrations placed)) state =
        (.ok next, between) ∧
      after.metrics.value (Metrics.routesRegistered group.kind.name) =
        next.count group.kind := by
  rcases found : group.placed with cause | placed
  · cases (runAction_mount_of_error found).symm.trans run
  · rw [runAction_mount_of_ok found, runAction_bind_eq_ok_iff] at run
    rcases run with ⟨mounted, between, registering, run⟩
    cases run
    exact ⟨placed, between, rfl, registering, Metrics.value_set_self _ _ _⟩

theorem Sound.extends_of_mount (sound : app.Sound)
    (run : runAction (app.mount group) state = (.ok next, after)) :
    app.Extends group.infos next := by
  rcases mount_ok run with ⟨placed, _, found, registering, _⟩
  rw [← infos_of_placed found]
  exact sound.extends_of_registerAll registering

theorem succeeds_mount_iff (sound : app.Sound) (steady : app.Steady) :
    Succeeds (app.mount group) state ↔
      (∃ placed, group.placed = .ok placed) ∧ app.Accepts group.infos := by
  constructor
  · rintro ⟨next, after, run⟩
    rcases mount_ok run with ⟨placed, between, found, registering, _⟩
    rw [← infos_of_placed found]
    exact ⟨⟨placed, found⟩,
      (succeeds_registerAll_iff sound steady).mp ⟨_, _, registering⟩⟩
  · rintro ⟨⟨placed, found⟩, accepts⟩
    rw [← infos_of_placed found,
      ← succeeds_registerAll_iff sound steady] at accepts
    rcases accepts with ⟨mounted, between, registering⟩
    exact ⟨mounted, _,
      (runAction_mount_of_ok found).trans
        (runAction_bind_of_ok registering)⟩

end Mounting

/-! ## Many mounts -/

/-- The application with groups mounted one after the other. -/
def mountAll (app : Application) (groups : List Group) :
    Action RouteError Application :=
  groups.foldlM mount app

section MountingAll

variable {app next : Application} {groups others : List Group}
  {state after : State}

theorem Sound.extends_of_mountAll (sound : app.Sound)
    (run : runAction (app.mountAll groups) state = (.ok next, after)) :
    app.Extends (groups.flatMap Group.infos) next := by
  induction groups generalizing app state with
  | nil =>
      cases run
      exact .refl sound
  | cons group rest induction =>
      rw [mountAll, List.foldlM_cons, runAction_bind_eq_ok_iff] at run
      rcases run with ⟨middle, between, own, run⟩
      have first := sound.extends_of_mount own
      exact first.trans (induction first.sound run)

theorem succeeds_mountAll_iff (sound : app.Sound) (steady : app.Steady) :
    Succeeds (app.mountAll groups) state ↔
      (∀ group ∈ groups, ∃ placed, group.placed = .ok placed) ∧
      app.Accepts (groups.flatMap Group.infos) := by
  induction groups generalizing app state with
  | nil =>
      exact ⟨fun _ => ⟨nofun, sound.accepts_nil⟩, fun _ => succeeds_pure _⟩
  | cons group rest induction =>
      rw [mountAll, List.foldlM_cons, succeeds_bind_iff,
        List.forall_mem_cons, List.flatMap_cons]
      constructor
      · rintro ⟨middle, between, own, succeeds⟩
        have first := sound.extends_of_mount own
        rw [first.accepts_append_iff]
        rcases (succeeds_mount_iff sound steady).mp ⟨_, _, own⟩ with
          ⟨placed, accepts⟩
        rcases (induction first.sound (first.steady steady)).mp succeeds
          with ⟨others, later⟩
        exact ⟨⟨placed, others⟩, accepts, later⟩
      · rintro ⟨⟨placed, others⟩, accepts⟩
        rcases (succeeds_mount_iff sound steady).mpr
          ⟨placed, accepts.of_append_left⟩ with ⟨middle, between, own⟩
        have first := sound.extends_of_mount own
        rw [first.accepts_append_iff] at accepts
        exact ⟨middle, between, own,
          (induction first.sound (first.steady steady)).mpr
            ⟨others, accepts.2⟩⟩

/-- The order of groups does not decide whether they can be mounted. -/
theorem succeeds_mountAll_perm (sound : app.Sound) (steady : app.Steady)
    (order : groups.Perm others) :
    Succeeds (app.mountAll groups) state ↔
      Succeeds (app.mountAll others) state := by
  have infos := order.flatMap_right Group.infos
  rw [succeeds_mountAll_iff sound steady,
    succeeds_mountAll_iff sound steady]
  constructor
  · rintro ⟨placed, accepts⟩
    exact ⟨fun group member => placed group (order.mem_iff.mpr member),
      accepts.of_perm infos⟩
  · rintro ⟨placed, accepts⟩
    exact ⟨fun group member => placed group (order.mem_iff.mp member),
      accepts.of_perm infos.symm⟩

theorem gauge_of_mountAll {front behind : List Group} {group : Group}
    (run : runAction (app.mountAll (front ++ group :: behind)) state =
      (.ok next, after)) :
    ∃ middle between,
      runAction (app.mountAll (front ++ [group])) state =
        (.ok middle, between) ∧
      between.metrics.value (Metrics.routesRegistered group.kind.name) =
        middle.count group.kind ∧
      runAction (middle.mountAll behind) between = (.ok next, after) := by
  rw [mountAll, List.foldlM_append, runAction_bind_eq_ok_iff] at run
  rcases run with ⟨earlier, reached, first, run⟩
  rw [List.foldlM_cons, runAction_bind_eq_ok_iff] at run
  rcases run with ⟨middle, between, own, last⟩
  rcases mount_ok own with ⟨_, _, _, _, gauge⟩
  refine ⟨middle, between, ?_, gauge, last⟩
  rw [mountAll, List.foldlM_append, runAction_bind_of_ok first,
    List.foldlM_cons, runAction_bind_of_ok own]
  rfl

end MountingAll

/-! ## A path that is taken -/

section Taken

variable {app : Application} {group : Group} {placed : List Declared}
  {front behind : List (Declared × Method)} {route : Declared}
  {method : Method} {state : State}

/-- A mount cannot get past a path that is taken for a method. -/
theorem mount_duplicate (sound : app.Sound)
    (found : group.placed = .ok placed)
    (listed : registrations placed = front ++ (route, method) :: behind)
    (taken : (route.path, method) ∈ app.registered ∨
      (route.path, method) ∈
        front.map fun pair => (pair.1.path, pair.2)) :
    (∃ reached between,
      runAction (app.registerAll group.kind front) state =
        (.ok reached, between) ∧
      runAction (app.mount group) state =
        (.error (.duplicate route.path method), between)) ∨
    ∃ cause between,
      runAction (app.registerAll group.kind front) state =
        (.error cause, between) ∧
      runAction (app.mount group) state = (.error cause, between) := by
  rcases run : runAction (app.registerAll group.kind front) state with
    ⟨cause | reached, between⟩
  · refine .inr ⟨cause, between, rfl, ?_⟩
    rw [runAction_mount_of_ok found, listed, registerAll,
      List.foldlM_append]
    exact runAction_bind_of_error (runAction_bind_of_error run)
  · refine .inl ⟨reached, between, rfl, ?_⟩
    have extended := sound.extends_of_registerAll run
    have known : (route.path, method) ∈ reached.registered := by
      rw [extended.registered, List.map_map, List.mem_append]
      exact taken
    rw [runAction_mount_of_ok found, listed]
    exact runAction_bind_of_error (registerAll_duplicate run known)

end Taken

/-! ## From the document to the table -/

section Building

variable {registry : Registry} {environment : Environment}
  {document : Document} {built : Application} {before after : State}

theorem build_ok
    (run : runAction (build registry environment document) before =
      (.ok built, after)) :
    built.routes = [] ∧ built.registered = [] ∧ built.router = .empty ∧
      ∃ between reached,
        runAction (Extension.load registry document) between =
          (.ok built.extensions, reached) := by
  rw [build, runAction_bind_eq_ok_iff] at run
  rcases run with ⟨settings, _, _, run⟩
  rcases runAction_bind_eq_ok_iff.mp run with ⟨table, _, _, run⟩
  rcases runAction_bind_eq_ok_iff.mp run with
    ⟨extensions, _, loading, run⟩
  cases run
  rw [runAction_mapFailure_eq_ok_iff] at loading
  exact ⟨rfl, rfl, rfl, _, _, loading⟩

theorem sound_of_build
    (run : runAction (build registry environment document) before =
      (.ok built, after)) : built.Sound := by
  rcases build_ok run with ⟨routes, registered, router, _⟩
  constructor
  · rw [routes, registered]
    rfl
  · rw [registered]
    exact List.nodup_nil
  · rw [registered, router]
    exact Router.holds_empty
  · rw [registered]
    exact .nil

theorem steady_of_build (steady : registry.Steady)
    (run : runAction (build registry environment document) before =
      (.ok built, after)) : built.Steady := by
  rcases build_ok run with ⟨_, _, _, _, _, loading⟩
  exact Extension.steady_of_load steady loading

end Building

/--
The table of an application that was built from a document, after any groups
have been mounted.  With steady extensions, such as those of the registry of
protective ones, it is known beforehand which groups can be mounted; groups
in another order, for example with two adjacent ones swapped, can be mounted
as well, and they give the same rows in that order.
-/
theorem mountAll_exact {registry : Registry} {environment : Environment}
    {document : Document} {built : Application} {before ready : State}
    (building : runAction (build registry environment document) before =
      (.ok built, ready)) :
    (∀ groups mounted state after,
      runAction (built.mountAll groups) state = (.ok mounted, after) →
      mounted.routes = (groups.flatMap Group.infos).map built.row ∧
      (mounted.routes.map fun row => row.info.slot).Nodup ∧
      mounted.registered = (mounted.routes.map fun row => row.info.slot) ∧
      (∀ front group behind, groups = front ++ group :: behind →
        ∃ middle between,
          runAction (built.mountAll (front ++ [group])) state =
            (.ok middle, between) ∧
          between.metrics.value
              (Metrics.routesRegistered group.kind.name) =
            (middle.routes.filter fun row =>
              row.info.kind == group.kind).length ∧
          runAction (middle.mountAll behind) between =
            (.ok mounted, after)) ∧
      ∀ group : Group,
        (∀ cause, group.placed = .error cause →
          runAction (mounted.mount group) after =
            (.error cause, after)) ∧
        ∀ placed front route method behind,
          group.placed = .ok placed →
          registrations placed = front ++ (route, method) :: behind →
          ((route.path, method) ∈
              (groups.flatMap Group.infos).map Info.slot ∨
            (route.path, method) ∈
              front.map fun pair => (pair.1.path, pair.2)) →
          (∃ reached final,
            runAction (mounted.registerAll group.kind front) after =
              (.ok reached, final) ∧
            runAction (mounted.mount group) after =
              (.error (.duplicate route.path method), final)) ∨
          ∃ cause final,
            runAction (mounted.registerAll group.kind front) after =
              (.error cause, final) ∧
            runAction (mounted.mount group) after =
              (.error cause, final)) ∧
    Security.registry.Steady ∧
    (registry.Steady → ∀ groups state,
      (Succeeds (built.mountAll groups) state ↔
        (∀ group ∈ groups, ∃ placed, group.placed = .ok placed) ∧
        built.Accepts (groups.flatMap Group.infos)) ∧
      ∀ others, List.Perm groups others →
        (Succeeds (built.mountAll groups) state ↔
          Succeeds (built.mountAll others) state) ∧
        ∀ mounted swapped after final,
          runAction (built.mountAll groups) state = (.ok mounted, after) →
          runAction (built.mountAll others) state = (.ok swapped, final) →
          mounted.routes.Perm swapped.routes) := by
  have sound := sound_of_build building
  rcases build_ok building with ⟨none, free, _, _⟩
  -- An application that was just built has no rows to start with.
  have rows : ∀ groups mounted state after,
      runAction (built.mountAll groups) state = (.ok mounted, after) →
      mounted.routes = (groups.flatMap Group.infos).map built.row := by
    intro groups mounted state after run
    rw [(sound.extends_of_mountAll run).routes, none, List.nil_append]
  refine ⟨?mounted, Security.registry_steady, ?reordered⟩
  case mounted =>
    intro groups mounted state after run
    have extended := sound.extends_of_mountAll run
    have slots := extended.sound.slots
    refine ⟨rows groups mounted state after run, ?_, slots, ?gauge,
      fun group => ⟨fun cause => runAction_mount_of_error, ?duplicate⟩⟩
    · rw [← slots]
      exact extended.sound.distinct
    case gauge =>
      rintro front group behind rfl
      exact gauge_of_mountAll run
    case duplicate =>
      intro placed front route method behind found listed taken
      apply mount_duplicate extended.sound found listed
      rw [extended.registered, free, List.nil_append]
      exact taken
  case reordered =>
    intro steady groups state
    have always := steady_of_build steady building
    refine ⟨succeeds_mountAll_iff sound always, fun others order =>
      ⟨succeeds_mountAll_perm sound always order, ?_⟩⟩
    intro mounted swapped after final run other
    rw [rows groups mounted state after run,
      rows others swapped state final other]
    exact (order.flatMap_right Group.infos).map built.row

/-- Two extensions, one of them switched off below a path. -/
def guardedDocument : Document where
  values :=
    [(.string "extensions",
        .sequence [.string "rate_limit", .string "csrf"]),
      (.string "routes", .recordOf [("patterns", .recordOf
        [("/admin/*", .recordOf [("csrf", .bool false)])])])]
  origins := [("extensions", "inline"), ("routes", "inline")]

def guardedGroups : List Group :=
  [⟨.html, "", [⟨"/", [Method.get], Router.notFound⟩]⟩,
    ⟨.html, "/admin/", [⟨"/users", [Method.post], Router.notFound⟩]⟩]

theorem mountAll_exact_guarded :
    ∃ built ready mounted after,
      runAction
        (build Security.registry .development guardedDocument)
        (.start fun _ => 0) = (.ok built, ready) ∧
      runAction (built.mountAll guardedGroups) ready =
        (.ok mounted, after) ∧
      mounted.routes =
        [⟨⟨"/", Method.get, .html⟩, none, ["rate_limit", "csrf"]⟩,
          ⟨⟨"/admin/users", Method.post, .html⟩, some "/admin/*",
            ["rate_limit"]⟩] ∧
      Succeeds (built.mountAll guardedGroups.reverse) ready := by
  refine ⟨_, _, _, _, rfl, rfl, ?rows, ?swapped⟩
  case rows =>
    exact ((@mountAll_exact Security.registry .development guardedDocument _
      (.start fun _ => 0) _ rfl).1 guardedGroups _ _ _ rfl).1
  case swapped =>
    have laws := @mountAll_exact Security.registry .development
      guardedDocument _ (.start fun _ => 0) _ rfl
    have order := guardedGroups.reverse_perm.symm
    exact ((laws.2.2 laws.2.1 guardedGroups _).2 _ order).1.mp ⟨_, _, rfl⟩

end Application

end Gatehouse.App
