import Gatehouse.Proofs.App.Mounting
import Mathlib.Data.List.DropRight

/-!
# Declared paths behind the start of their group

The start of a group is a stem with any number of slashes behind it, and only
the stem counts.  Behind a stem that is not empty the path `/` leads to the
stem itself, and every other path goes on from it.  A path that begins with a
slash is never empty, so no two of them lead to the same place: what is
declared once is never registered twice because of a start.
-/

namespace Gatehouse.App

open Gatehouse.Http
open Gatehouse.Outcome
open Gatehouse.Route (Kind)
open Gatehouse.Serve

/-! ## Stems -/

/-- A path begins with a slash. -/
def Rooted (path : List Char) : Prop :=
  ∃ rest, path = '/' :: rest

/-- A text is a stem with slashes behind it, and the stem ends in none. -/
structure IsStem (stem text : List Char) : Prop where
  slashes : ∃ count, text = stem ++ List.replicate count '/'
  bare : stem.getLast? ≠ some '/'

/-- A start can only be followed by paths that begin with a slash. -/
def Fits (start : String) : Prop :=
  ∃ stem, IsStem stem start.toList ∧ (stem = [] ∨ Rooted stem)

/-- Two starts are the same up to the slashes at their ends. -/
def DifferInSlashes (start other : String) : Prop :=
  ∃ stem, IsStem stem start.toList ∧ IsStem stem other.toList

/-- Where a path leads behind a stem. -/
inductive Behind (stem : List Char) : List Char → List Char → Prop where
  | alone {path : List Char} (nothing : stem = []) : Behind stem path path
  | root (filled : stem ≠ []) : Behind stem ['/'] stem
  | below {path : List Char} (filled : stem ≠ []) (onward : path ≠ ['/']) :
      Behind stem path (stem ++ path)

theorem isRooted_iff {path : String} :
    isRooted path = true ↔ Rooted path.toList := by
  rw [isRooted, beq_iff_eq, List.head?_eq_some_iff]
  rfl

theorem not_isRooted_iff {path : String} :
    (!isRooted path) = true ↔ ¬ Rooted path.toList := by
  rw [Bool.not_eq_true', ← Bool.not_eq_true, isRooted_iff]

theorem dropTrailingSlashes_eq_rdropWhile (text : List Char) :
    dropTrailingSlashes text = text.rdropWhile (· == '/') := rfl

theorem dropTrailingSlashes_append_replicate (text : List Char)
    (count : Nat) :
    dropTrailingSlashes (text ++ List.replicate count '/') =
      dropTrailingSlashes text := by
  induction count with
  | zero => rw [List.replicate_zero, List.append_nil]
  | succ count induction =>
      rw [List.replicate_succ', ← List.append_assoc, ← induction]
      exact List.rdropWhile_concat_pos _ _ _ rfl

/-- What is left without the slashes at the end is the only stem. -/
theorem isStem_iff {stem text : List Char} :
    IsStem stem text ↔ stem = dropTrailingSlashes text := by
  constructor
  · rintro ⟨⟨count, rfl⟩, bare⟩
    rw [dropTrailingSlashes_append_replicate,
      dropTrailingSlashes_eq_rdropWhile, eq_comm,
      List.rdropWhile_eq_self_iff]
    intro filled slash
    rw [beq_iff_eq] at slash
    rw [List.getLast?_eq_some_getLast filled, slash] at bare
    exact bare rfl
  · rintro rfl
    constructor
    case slashes =>
      have slashes : ∀ character ∈ text.rtakeWhile (· == '/'),
          character = '/' := by
        intro character member
        have slash := List.mem_rtakeWhile_imp member
        exact beq_iff_eq.mp slash
      refine ⟨(text.rtakeWhile (· == '/')).length, ?_⟩
      rw [← List.eq_replicate_of_mem slashes,
        dropTrailingSlashes_eq_rdropWhile]
      exact List.rdropWhile_append_rtakeWhile.symm
    case bare =>
      rw [dropTrailingSlashes_eq_rdropWhile]
      intro last
      have filled : text.rdropWhile (· == '/') ≠ [] := by
        intro empty
        rw [empty] at last
        cases last
      have kept := List.rdropWhile_last_not (· == '/') text filled
      rw [List.getLast?_eq_some_getLast filled, Option.some.injEq] at last
      exact kept (beq_iff_eq.mpr last)

theorem isStem_dropTrailingSlashes (text : List Char) :
    IsStem (dropTrailingSlashes text) text :=
  isStem_iff.mpr rfl

theorem IsStem.unique {stem other text : List Char}
    (isStem : IsStem stem text) (another : IsStem other text) :
    stem = other :=
  (isStem_iff.mp isStem).trans (isStem_iff.mp another).symm

/-! ## Joining a stem and a path -/

section Joining

variable {stem path other whole : List Char} {start : String}

theorem Behind.unique {another : List Char} (behind : Behind stem path whole)
    (again : Behind stem path another) : whole = another := by
  cases behind with
  | alone nothing =>
      cases again with
      | alone _ => rfl
      | root filled => exact absurd nothing filled
      | below filled _ => exact absurd nothing filled
  | root filled =>
      cases again with
      | alone nothing => exact absurd nothing filled
      | root _ => rfl
      | below _ onward => exact absurd rfl onward
  | below filled onward =>
      cases again with
      | alone nothing => exact absurd nothing filled
      | root _ => exact absurd rfl onward
      | below _ _ => rfl

/-- No two paths that begin with a slash lead to the same place. -/
theorem Behind.eq_of_rooted {place : List Char}
    (behind : Behind stem path whole) (another : Behind stem other place)
    (rooted : Rooted path) (likewise : Rooted other)
    (same : whole = place) : path = other := by
  rcases rooted with ⟨rest, rfl⟩
  rcases likewise with ⟨remaining, rfl⟩
  cases behind with
  | alone nothing =>
      cases another with
      | alone _ => exact same
      | root filled => exact absurd nothing filled
      | below filled _ => exact absurd nothing filled
  | root filled =>
      cases another with
      | alone nothing => exact absurd nothing filled
      | root _ => rfl
      | below _ _ => simp at same
  | below filled onward =>
      cases another with
      | alone nothing => exact absurd nothing filled
      | root _ => simp at same
      | below _ _ => exact List.append_cancel_left same

theorem Behind.rooted_iff (behind : Behind stem path whole)
    (rooted : Rooted path) :
    Rooted whole ↔ stem = [] ∨ Rooted stem := by
  cases behind with
  | alone nothing => exact iff_of_true rooted (.inl nothing)
  | root filled => exact (or_iff_right filled).symm
  | below filled onward =>
      rw [or_iff_right filled]
      cases stem with
      | nil => exact absurd rfl filled
      | cons first rest => simp [Rooted]

theorem behind_joinPath (isStem : IsStem stem start.toList)
    (path : String) :
    Behind stem path.toList (joinPath start path).toList := by
  have empty : (String.ofList stem).isEmpty = true ↔ stem = [] := by
    rw [String.isEmpty_iff, String.ofList_eq_empty_iff]
  have spelled : (String.ofList stem).toList = stem := String.toList_ofList
  rw [joinPath, ← isStem_iff.mp isStem]
  by_cases nothing : stem = []
  · rw [if_pos (empty.mpr nothing)]
    exact .alone nothing
  · rw [if_neg (mt empty.mp nothing)]
    by_cases root : path = "/"
    · rw [if_pos root, root, spelled]
      exact .root nothing
    · rw [if_neg root, String.toList_append, spelled]
      refine .below nothing fun same => root ?_
      exact String.toList_injective same

end Joining

/-! ## One route -/

/-- What is wrong with a declared route under a start. -/
inductive Offends (start : String) (route : Declared) : RouteError → Prop where
  | relative (unrooted : ¬ Rooted route.path.toList) :
      Offends start route (.invalidPath route.path)
  | idle (rooted : Rooted route.path.toList)
      (nothing : route.methods = []) :
      Offends start route (.noMethods route.path)
  | astray {stem : List Char} {whole : String}
      (rooted : Rooted route.path.toList) (served : route.methods ≠ [])
      (isStem : IsStem stem start.toList)
      (behind : Behind stem route.path.toList whole.toList)
      (unrooted : ¬ Rooted whole.toList) :
      Offends start route (.invalidPath whole)

/-- A route with its whole path: only the path is another one. -/
structure Places (start : String) (route whole : Declared) : Prop where
  methods : whole.methods = route.methods
  handler : whole.handler = route.handler
  behind : ∃ stem, IsStem stem start.toList ∧
    Behind stem route.path.toList whole.path.toList
  rooted : Rooted whole.path.toList

section Placing

variable {start other : String} {route whole : Declared}
  {cause : RouteError}

theorem fits_iff {stem : List Char} (isStem : IsStem stem start.toList) :
    Fits start ↔ stem = [] ∨ Rooted stem := by
  constructor
  · rintro ⟨same, again, fits⟩
    rw [isStem.unique again]
    exact fits
  · intro fits
    exact ⟨stem, isStem, fits⟩

/-- Under a start a path leads astray exactly if the start does not fit. -/
theorem rooted_joinPath_iff {path : String} (rooted : Rooted path.toList) :
    Rooted (joinPath start path).toList ↔ Fits start := by
  have isStem := isStem_dropTrailingSlashes start.toList
  rw [fits_iff isStem]
  exact (behind_joinPath isStem path).rooted_iff rooted

theorem placed_eq_ok_iff :
    route.placed start = .ok whole ↔
      whole = route.under start ∧ Rooted route.path.toList ∧
        route.methods ≠ [] ∧ Fits start := by
  have refused : ∀ fault,
      (Except.error fault : Except RouteError Declared) ≠ .ok whole := by
    intro fault same
    cases same
  rw [Declared.placed]
  by_cases rooted : Rooted route.path.toList
  · rw [if_neg (mt not_isRooted_iff.mp (not_not.mpr rooted))]
    by_cases idle : route.methods = []
    · rw [if_pos (List.isEmpty_iff.mpr idle)]
      exact iff_of_false (refused _) fun placed => placed.2.2.1 idle
    · rw [if_neg (mt List.isEmpty_iff.mp idle)]
      dsimp only
      by_cases fits : Fits start
      · have arrives := (rooted_joinPath_iff rooted).mpr fits
        rw [if_pos (isRooted_iff.mpr arrives), Except.ok.injEq, eq_comm]
        exact (and_iff_left ⟨rooted, idle, fits⟩).symm
      · have astray := mt (rooted_joinPath_iff rooted).mp fits
        rw [if_neg (mt isRooted_iff.mp astray)]
        exact iff_of_false (refused _) fun placed => fits placed.2.2.2
  · rw [if_pos (not_isRooted_iff.mpr rooted)]
    exact iff_of_false (refused _) fun placed => rooted placed.2.1

theorem placed_eq_error_iff :
    route.placed start = .error cause ↔ Offends start route cause := by
  have isStem := isStem_dropTrailingSlashes start.toList
  rw [Declared.placed]
  constructor
  · intro refused
    split at refused
    · rename_i unrooted
      cases refused
      exact .relative (not_isRooted_iff.mp unrooted)
    · rename_i begun
      have rooted := not_not.mp (mt not_isRooted_iff.mpr begun)
      split at refused
      · rename_i idle
        cases refused
        exact .idle rooted (List.isEmpty_iff.mp idle)
      · rename_i served
        dsimp only at refused
        split at refused
        · cases refused
        · rename_i astray
          cases refused
          exact .astray rooted (mt List.isEmpty_iff.mpr served) isStem
            (behind_joinPath isStem route.path)
            (mt isRooted_iff.mpr astray)
  · intro offends
    cases offends with
    | relative unrooted => rw [if_pos (not_isRooted_iff.mpr unrooted)]
    | idle rooted nothing =>
        rw [if_neg (mt not_isRooted_iff.mp (not_not.mpr rooted)),
          if_pos (List.isEmpty_iff.mpr nothing)]
    | @astray _ whole rooted served own behind unrooted =>
        have same : whole = joinPath start route.path :=
          String.toList_injective
            (behind.unique (behind_joinPath own route.path))
        subst same
        rw [if_neg (mt not_isRooted_iff.mp (not_not.mpr rooted)),
          if_neg (mt List.isEmpty_iff.mp served)]
        exact if_neg (mt isRooted_iff.mp unrooted)

/-- A route that is placed keeps all but its path. -/
theorem places_of_placed (found : route.placed start = .ok whole) :
    Places start route whole := by
  rcases placed_eq_ok_iff.mp found with ⟨rfl, rooted, _, fits⟩
  have isStem := isStem_dropTrailingSlashes start.toList
  constructor
  case methods => rw [Declared.under_methods]
  case handler => rw [Declared.under_handler]
  case behind =>
    rw [Declared.under_path]
    exact ⟨_, isStem, behind_joinPath isStem route.path⟩
  case rooted =>
    rw [Declared.under_path]
    exact (rooted_joinPath_iff rooted).mpr fits

/-- Routes that come to one place were declared with one path. -/
theorem Places.path_eq {next place : Declared}
    (places : Places start route whole) (another : Places start next place)
    (rooted : Rooted route.path.toList)
    (likewise : Rooted next.path.toList) (same : whole.path = place.path) :
    route.path = next.path := by
  rcases places.behind with ⟨stem, isStem, behind⟩
  rcases another.behind with ⟨alike, again, beside⟩
  rw [← isStem.unique again] at beside
  exact String.toList_injective (behind.eq_of_rooted beside rooted likewise
    (congrArg String.toList same))

/-- Slashes at the end of a start do not count. -/
theorem joinPath_of_differInSlashes (alike : DifferInSlashes start other)
    (path : String) : joinPath start path = joinPath other path := by
  rcases alike with ⟨stem, own, another⟩
  exact String.toList_injective
    ((behind_joinPath own path).unique (behind_joinPath another path))

end Placing

/-! ## A path that is taken -/

/-- The paths of some routes with each of their methods. -/
def slotsOf (routes : List Declared) : List (String × Method) :=
  (registrations routes).map fun pair => (pair.1.path, pair.2)

namespace Application

section Registering

variable {app next : Application} {kind : Kind} {route : Declared}
  {method other : Method} {path : String} {state after : State}

/-- Nothing but a path that is taken is called a duplicate. -/
theorem mem_registered_of_duplicate
    (run : runAction (app.register kind route method) state =
      (.error (.duplicate path other), after)) :
    (path, other) = (route.path, method) ∧
      (route.path, method) ∈ app.registered := by
  rw [register] at run
  split at run
  · rename_i taken
    cases run
    exact ⟨rfl, isRegistered_iff.mp taken⟩
  · exfalso
    rcases runAction_bind_eq_error_iff.mp run with
      handling | ⟨handler, _, _, run⟩
    · rw [runAction_ofPure, Declared.handlerFor] at handling
      split at handling <;> cases handling
    rcases runAction_bind_eq_error_iff.mp run with
      composing | ⟨composed, _, _, run⟩
    · rcases runAction_mapFailure_eq_error_iff.mp composing with
        ⟨_, _, equal⟩
      cases equal
    rcases runAction_bind_eq_error_iff.mp run with
      adding | ⟨router, _, _, run⟩
    · rcases mapError_eq_error_iff.mp (congrArg Prod.fst adding) with
        ⟨_, _, equal⟩
      cases equal
    · cases run

/-- Among routes that are all different, only an earlier one is repeated. -/
theorem mem_registered_of_registerAll_duplicate
    {pairs : List (Declared × Method)}
    (distinct : (pairs.map fun pair => (pair.1.path, pair.2)).Nodup)
    (run : runAction (app.registerAll kind pairs) state =
      (.error (.duplicate path method), after)) :
    (path, method) ∈ app.registered ∧
      (path, method) ∈ pairs.map fun pair => (pair.1.path, pair.2) := by
  induction pairs generalizing app state with
  | nil => cases run
  | cons pair rest induction =>
      rw [List.map_cons, List.nodup_cons] at distinct
      rw [registerAll_cons, runAction_bind_eq_error_iff] at run
      rcases run with refused | ⟨middle, between, own, run⟩
      · rcases mem_registered_of_duplicate refused with ⟨same, taken⟩
        rw [same]
        exact ⟨taken, List.mem_cons_self⟩
      · rcases induction distinct.2 run with ⟨taken, later⟩
        rcases register_ok own with ⟨_, _, _, _, _, _, _, rfl⟩
        refine ⟨?_, List.mem_cons_of_mem _ later⟩
        rcases List.mem_append.mp taken with earlier | own
        · exact earlier
        · rw [List.mem_singleton] at own
          exact absurd (own ▸ later) distinct.1

theorem mem_registered_of_mount_duplicate {group : Group}
    {placed : List Declared} (found : group.placed = .ok placed)
    (distinct : (slotsOf placed).Nodup)
    (run : runAction (app.mount group) state =
      (.error (.duplicate path method), after)) :
    (path, method) ∈ app.registered := by
  rw [runAction_mount_of_ok found, runAction_bind_eq_error_iff] at run
  rcases run with refused | ⟨mounted, between, _, run⟩
  · exact (mem_registered_of_registerAll_duplicate distinct refused).1
  · cases run

end Registering

end Application

/-! ## A group of routes -/

section Groups

variable {group : Group} {placed : List Declared}

theorem exists_placed_iff :
    (∃ placed, group.placed = .ok placed) ↔
      ∀ route ∈ group.routes, Rooted route.path.toList ∧
        route.methods ≠ [] ∧ Fits group.start := by
  constructor
  · rintro ⟨placed, found⟩ route member
    rcases exists_ok_of_mapM found route member with ⟨whole, own⟩
    exact (placed_eq_ok_iff.mp own).2
  · intro each
    cases found : group.placed with
    | ok placed => exact ⟨placed, rfl⟩
    | error cause =>
        rcases mapM_eq_error_iff.mp found with
          ⟨front, route, behind, shape, _, refused⟩
        have own := each route (by rw [shape]; simp)
        rw [placed_eq_ok_iff.mpr ⟨rfl, own⟩] at refused
        cases refused

/-- A group is refused for its first route that offends. -/
theorem group_placed_eq_error_iff {cause : RouteError} :
    group.placed = .error cause ↔
      ∃ front route behind, group.routes = front ++ route :: behind ∧
        (∀ earlier ∈ front, ∀ fault,
          ¬ Offends group.start earlier fault) ∧
        Offends group.start route cause := by
  have blameless : ∀ route : Declared,
      (∃ whole, route.placed group.start = .ok whole) ↔
        ∀ fault, ¬ Offends group.start route fault := by
    intro route
    simp only [← placed_eq_error_iff]
    cases route.placed group.start <;> simp
  rw [Group.placed, mapM_eq_error_iff]
  simp only [blameless, placed_eq_error_iff]

/-- Each route of a group is placed on its own, in order. -/
theorem forall₂_places (found : group.placed = .ok placed) :
    List.Forall₂ (Places group.start) group.routes placed :=
  (mapM_eq_ok_iff.mp found).imp fun _ _ => places_of_placed

theorem slotsOf_map_under (start : String) (routes : List Declared) :
    slotsOf (routes.map (Declared.under start)) =
      (slotsOf routes).map fun slot => (joinPath start slot.1, slot.2) := by
  simp only [slotsOf, registrations, List.flatMap_map, List.map_flatMap,
    List.map_map, Function.comp_def, Declared.under_path,
    Declared.under_methods]

theorem path_of_mem_slotsOf {slot : String × Method}
    {routes : List Declared} (member : slot ∈ slotsOf routes) :
    ∃ route ∈ routes, route.path = slot.1 := by
  simp only [slotsOf, registrations, List.mem_map, List.mem_flatMap]
    at member
  rcases member with ⟨_, ⟨route, listed, _, _, rfl⟩, rfl⟩
  exact ⟨route, listed, rfl⟩

/-- What is declared once is placed once. -/
theorem nodup_slotsOf_placed (found : group.placed = .ok placed)
    (distinct : (slotsOf group.routes).Nodup) : (slotsOf placed).Nodup := by
  have rooted := exists_placed_iff.mp ⟨placed, found⟩
  have isStem := isStem_dropTrailingSlashes group.start.toList
  rw [routes_of_placed found, slotsOf_map_under]
  refine List.Nodup.map_on ?_ distinct
  rintro ⟨path, method⟩ member ⟨other, _⟩ another same
  rw [Prod.mk.injEq] at same
  rcases path_of_mem_slotsOf member with ⟨route, listed, rfl⟩
  rcases path_of_mem_slotsOf another with ⟨next, likewise, rfl⟩
  have equal := (behind_joinPath isStem route.path).eq_of_rooted
    (behind_joinPath isStem next.path) (rooted route listed).1
    (rooted next likewise).1 (congrArg String.toList same.1)
  rw [Prod.mk.injEq]
  exact ⟨String.toList_injective equal, same.2⟩

end Groups

/--
A group of routes is placed exactly if all its paths begin with a slash, all
its routes have methods and its start fits; otherwise the first route that
offends decides what is reported.  Placed routes keep their number, order,
methods and handlers, begin with a slash, and lead to one place only if they
were declared with one path, so no group is refused for a duplicate that
repeats nothing.  Slashes at the end of the start change nothing.
-/
theorem placed_exact {group : Group} (declared : group.routes ≠ []) :
    ((∃ placed, group.placed = .ok placed) ↔
      (∀ route ∈ group.routes, Rooted route.path.toList) ∧
        (∀ route ∈ group.routes, route.methods ≠ []) ∧ Fits group.start) ∧
    (∀ cause, group.placed = .error cause ↔
      ∃ front route behind, group.routes = front ++ route :: behind ∧
        (∀ earlier ∈ front, ∀ fault,
          ¬ Offends group.start earlier fault) ∧
        Offends group.start route cause) ∧
    (∀ placed, group.placed = .ok placed →
      List.Forall₂ (Places group.start) group.routes placed ∧
      (∀ first ∈ group.routes.zip placed,
        ∀ second ∈ group.routes.zip placed,
          first.2.path = second.2.path → first.1.path = second.1.path) ∧
      ∀ (app : Application) state path method after,
        (slotsOf group.routes).Nodup →
        runAction (app.mount group) state =
          (.error (.duplicate path method), after) →
        (path, method) ∈ app.registered) ∧
    ∀ other, DifferInSlashes group.start other →
      { group with start := other }.placed = group.placed := by
  refine ⟨?placed, fun cause => group_placed_eq_error_iff, ?kept, ?slashes⟩
  case placed =>
    rw [exists_placed_iff]
    constructor
    · intro each
      rcases List.exists_mem_of_ne_nil _ declared with ⟨route, member⟩
      exact ⟨fun route member => (each route member).1,
        fun route member => (each route member).2.1,
        (each route member).2.2⟩
    · rintro ⟨rooted, served, fits⟩ route member
      exact ⟨rooted route member, served route member, fits⟩
  case kept =>
    intro placed found
    have each := forall₂_places found
    have rooted := exists_placed_iff.mp ⟨placed, found⟩
    refine ⟨each, ?_, ?_⟩
    · intro first listed second among
      have apart : ∀ pair ∈ group.routes.zip placed,
          Places group.start pair.1 pair.2 :=
        fun _ => (List.forall₂_iff_zip.mp each).2
      exact (apart first listed).path_eq (apart second among)
        (rooted _ (List.of_mem_zip listed).1).1
        (rooted _ (List.of_mem_zip among).1).1
    · intro app state path method after distinct
      exact Application.mem_registered_of_mount_duplicate found
        (nodup_slotsOf_placed found distinct)
  case slashes =>
    intro other alike
    have same : Declared.placed other = Declared.placed group.start := by
      funext route
      unfold Declared.placed
      rw [joinPath_of_differInSlashes alike]
    exact congrArg (fun place => group.routes.mapM place) same

/-- A group of two routes, the first of them at its start. -/
def usersGroup (start : String) : Group :=
  ⟨.api, start, [⟨"/", [.get], Router.notFound⟩,
    ⟨"/users", [.get, .post], Router.notFound⟩]⟩

/-- A start may end in slashes, but has to begin with one. -/
theorem placed_exact_users :
    (usersGroup "/api//").routes ≠ [] ∧
      (∃ placed, (usersGroup "/api//").placed = .ok placed ∧
        placed.map Declared.path = ["/api", "/api/users"]) ∧
      (usersGroup "/api").placed = (usersGroup "/api//").placed ∧
      (usersGroup "api").placed = .error (.invalidPath "api") := by
  have listed : ∀ start, (usersGroup start).routes ≠ [] := fun _ => nofun
  refine ⟨listed "/api//", ⟨_, rfl, rfl⟩, ?_, ?_⟩
  · have alike : DifferInSlashes "/api//" "/api" :=
      ⟨"/api".toList, isStem_iff.mpr rfl, isStem_iff.mpr rfl⟩
    exact (placed_exact (listed "/api//")).2.2.2 "/api" alike
  · apply ((placed_exact (listed "api")).2.1 (.invalidPath "api")).mpr
    have unrooted : ¬ Rooted "api".toList := by
      rintro ⟨rest, shape⟩
      cases shape
    exact ⟨[], _, _, rfl, nofun,
      .astray ⟨[], rfl⟩ nofun (isStem_iff.mpr rfl) (.root nofun) unrooted⟩

end Gatehouse.App
