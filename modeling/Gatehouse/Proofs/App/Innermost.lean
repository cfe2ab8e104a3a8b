import Gatehouse.Proofs.App.Mounting
import Gatehouse.Proofs.Serve.DefaultType

/-!
# Closest to the handlers

What a mounted route adds to the router: an endpoint in which the default
type of the group stands directly around the handler, with the layers of
extensions outside.  There are no other endpoints.  Main statement: the
endpoints of an application after any groups have been mounted, with what
the default type does to every response of a handler.
-/

namespace Gatehouse.App

open Gatehouse.Config (Document Environment)
open Gatehouse.Extension (Registry)
open Gatehouse.Http
open Gatehouse.Route (Kind)
open Gatehouse.Serve
open Gatehouse.Text

/-- A handler as an endpoint, with the default type closest to it. -/
def Innermost (kind : Kind) (method : Method) (handler : Handler)
    (endpoint : Endpoint) : Prop :=
  ∃ layers, endpoint =
    ⟨method, Layer.allAround layers ((defaultContentType kind).around handler)⟩

/-- A route of some kind, for one of its methods. -/
abbrev Entry : Type :=
  Kind × Declared × Method

/-- The routes of a group with their whole paths, for each method. -/
def Group.entries (group : Group) : List Entry :=
  (registrations (group.routes.map (Declared.under group.start))).map
    (Prod.mk group.kind)

theorem mem_registrations_iff {routes : List Declared} {route : Declared}
    {method : Method} :
    (route, method) ∈ registrations routes ↔
      route ∈ routes ∧ method ∈ route.methods := by
  rw [registrations, List.mem_flatMap]
  constructor
  · rintro ⟨own, member, listed⟩
    rcases List.mem_map.mp listed with ⟨_, allowed, same⟩
    cases same
    exact ⟨member, allowed⟩
  · rintro ⟨member, allowed⟩
    exact ⟨route, member, List.mem_map_of_mem allowed⟩

theorem mem_entries_iff {group : Group} {kind : Kind} {route : Declared}
    {method : Method} :
    (kind, route, method) ∈ group.entries ↔
      kind = group.kind ∧ ∃ own ∈ group.routes,
        method ∈ own.methods ∧ route = own.under group.start := by
  rw [Group.entries, List.mem_map]
  constructor
  · rintro ⟨⟨_, _⟩, listed, same⟩
    cases same
    rcases mem_registrations_iff.mp listed with ⟨placed, allowed⟩
    rcases List.mem_map.mp placed with ⟨own, member, rfl⟩
    rw [Declared.under_methods] at allowed
    exact ⟨rfl, own, member, allowed, rfl⟩
  · rintro ⟨rfl, own, member, allowed, rfl⟩
    rw [← own.under_methods group.start] at allowed
    exact ⟨_, mem_registrations_iff.mpr
      ⟨List.mem_map_of_mem member, allowed⟩, rfl⟩

namespace Application

/-- An application has endpoints for given entries and no others. -/
structure Answers (app : Application) (entries : List Entry) : Prop where
  every : ∀ kind route method, (kind, route, method) ∈ entries →
    ∃ endpoint, app.router.Serves route.path endpoint ∧
      Innermost kind method route.handler endpoint
  only : ∀ path endpoint, app.router.Serves path endpoint →
    ∃ kind route method, (kind, route, method) ∈ entries ∧
      route.path = path ∧ Innermost kind method route.handler endpoint

section Answering

variable {app next : Application} {entries : List Entry} {kind : Kind}
  {route : Declared} {method : Method} {state after : State}

theorem answers_nil (unused : app.router = .empty) : app.Answers [] := by
  constructor
  · intro kind route method member
    cases member
  · intro path endpoint served
    rw [unused] at served
    exact absurd served Router.not_serves_empty

theorem Answers.register (answers : app.Answers entries)
    (run : runAction (app.register kind route method) state =
      (.ok next, after)) :
    next.Answers (entries ++ [(kind, route, method)]) := by
  rcases register_ok run with ⟨_, _, composed, _, router, _, added, rfl⟩
  rw [Layer.allAround_append] at added
  have own : Innermost kind method route.handler _ :=
    ⟨composed.layers, rfl⟩
  constructor
  · intro kind route method member
    rcases List.mem_append.mp member with earlier | last
    · rcases answers.every kind route method earlier with
        ⟨endpoint, served, inside⟩
      exact ⟨endpoint, (Router.serves_add_iff added).mpr (.inl served),
        inside⟩
    · cases List.mem_singleton.mp last
      exact ⟨_, (Router.serves_add_iff added).mpr (.inr ⟨rfl, rfl⟩), own⟩
  · intro path endpoint served
    rcases (Router.serves_add_iff added).mp served with
      earlier | ⟨rfl, rfl⟩
    · rcases answers.only path endpoint earlier with
        ⟨kind, route, method, member, place⟩
      exact ⟨kind, route, method, List.mem_append_left _ member, place⟩
    · exact ⟨kind, route, method,
        List.mem_append_right _ (List.mem_singleton_self _), rfl, own⟩

theorem Answers.registerAll {pairs : List (Declared × Method)}
    (answers : app.Answers entries)
    (run : runAction (app.registerAll kind pairs) state =
      (.ok next, after)) :
    next.Answers (entries ++ pairs.map (Prod.mk kind)) := by
  induction pairs generalizing app entries state with
  | nil =>
      cases run
      rw [List.map_nil, List.append_nil]
      exact answers
  | cons pair rest induction =>
      rw [registerAll_cons, runAction_bind_eq_ok_iff] at run
      rcases run with ⟨middle, between, own, run⟩
      rw [List.map_cons, List.append_cons]
      exact induction (answers.register own) run

theorem Answers.mount {group : Group} (answers : app.Answers entries)
    (run : runAction (app.mount group) state = (.ok next, after)) :
    next.Answers (entries ++ group.entries) := by
  rcases mount_ok run with ⟨placed, _, found, registering, _⟩
  rw [Group.entries, ← routes_of_placed found]
  exact answers.registerAll registering

theorem Answers.mountAll {groups : List Group}
    (answers : app.Answers entries)
    (run : runAction (app.mountAll groups) state = (.ok next, after)) :
    next.Answers (entries ++ groups.flatMap Group.entries) := by
  induction groups generalizing app entries state with
  | nil =>
      cases run
      rw [List.flatMap_nil, List.append_nil]
      exact answers
  | cons group rest induction =>
      rw [Application.mountAll, List.foldlM_cons,
        runAction_bind_eq_ok_iff] at run
      rcases run with ⟨middle, between, own, run⟩
      rw [List.flatMap_cons, ← List.append_assoc]
      exact induction (answers.mount own) run

end Answering

/--
The endpoints of an application that was built from a document, after any
groups have been mounted.  Each stands for a declared route and one of its
methods.  Its innermost layer keeps everything of a response but the type:
data without a type get the type of data, and pages without a type, or with
one that is taken for plain text, get the type of pages.  Those are the
pages without a type or with plain text unless the type is misread.
-/
theorem endpoints_exact {registry : Registry} {environment : Environment}
    {document : Document} {built : Application} {before ready : State}
    (building : runAction (build registry environment document) before =
      (.ok built, ready)) :
    (∀ groups mounted state after,
      runAction (built.mountAll groups) state = (.ok mounted, after) →
      (∀ group ∈ groups, ∀ route ∈ group.routes,
        ∀ method ∈ route.methods, ∃ endpoint,
          mounted.router.Serves (joinPath group.start route.path)
            endpoint ∧
          Innermost group.kind method route.handler endpoint) ∧
      ∀ path endpoint, mounted.router.Serves path endpoint →
        ∃ group ∈ groups, ∃ route ∈ group.routes,
          ∃ method ∈ route.methods,
            path = joinPath group.start route.path ∧
            Innermost group.kind method route.handler endpoint) ∧
    (∀ kind handler request state after,
      (∀ inner,
        runAction (handler request) state = (.ok inner, after) →
        ∃ outer,
          runAction ((defaultContentType kind).around handler request)
            state = (.ok outer, after) ∧
          Defaulted kind inner outer) ∧
      ∀ cause,
        runAction (handler request) state = (.error cause, after) →
        runAction ((defaultContentType kind).around handler request)
          state = (.error cause, after)) ∧
    ∀ headers : Headers,
      (LacksType TakenForPlain headers ↔ LacksType NamesPlain headers) ↔
        ∀ value rest, headers.values contentType = value :: rest →
          ¬ Misread value := by
  refine ⟨?mounted, fun kind handler request state after =>
    ⟨fun inner => runAction_defaultContentType,
      fun cause => runAction_defaultContentType_of_error⟩,
    fun headers => lacksType_alike_iff⟩
  intro groups mounted state after run
  rcases build_ok building with ⟨_, _, unused, _⟩
  have answers := (answers_nil unused).mountAll run
  rw [List.nil_append] at answers
  constructor
  · intro group listed route member method allowed
    have entry : (group.kind, route.under group.start, method) ∈
        groups.flatMap Group.entries :=
      List.mem_flatMap.mpr ⟨group, listed,
        mem_entries_iff.mpr ⟨rfl, route, member, allowed, rfl⟩⟩
    have answered := answers.every _ _ _ entry
    rw [Declared.under_path, Declared.under_handler] at answered
    exact answered
  · intro path endpoint served
    rcases answers.only path endpoint served with
      ⟨kind, route, method, member, rfl, inside⟩
    rcases List.mem_flatMap.mp member with ⟨group, listed, own⟩
    rcases mem_entries_iff.mp own with ⟨rfl, declared, known, allowed, rfl⟩
    rw [Declared.under_handler] at inside
    exact ⟨group, listed, declared, known, method, allowed,
      Declared.under_path _ _, inside⟩

/-- In a guarded application the form below `/admin` answers as a page. -/
theorem endpoints_exact_guarded :
    ∃ built ready mounted after,
      runAction
        (build Security.registry .development guardedDocument)
        (.start fun _ => 0) = (.ok built, ready) ∧
      runAction (built.mountAll guardedGroups) ready =
        (.ok mounted, after) ∧
      ∃ endpoint, mounted.router.Serves "/admin/users" endpoint ∧
        Innermost .html Method.post Router.notFound endpoint := by
  refine ⟨_, _, _, _, rfl, rfl, ?_⟩
  have laws := @endpoints_exact Security.registry .development
    guardedDocument _ (.start fun _ => 0) _ rfl
  exact (laws.1 guardedGroups _ _ _ rfl).1 _ (.tail _ (.head _)) _
    (.head _) _ (.head _)

/-- A table with a name that has a letter outside of the visible octets. -/
def namedTable : Response :=
  .ofBody "text/csv; name=\"é\"" (octets "a,b")

/-- A table on a route for pages, in an application without extensions. -/
def tableGroup : Group :=
  ⟨.html, "", [⟨"/table", [Method.get], fun _ => return namedTable⟩]⟩

def tableRequest : Request :=
  ⟨Method.get, "/table", [], [], none, none, defaultBodyLimit, none, none⟩

/-- A type that is neither missing nor plain text becomes that of pages. -/
theorem table_answered_as_page :
    ¬ LacksType NamesPlain namedTable.headers ∧
      ∃ built ready mounted after endpoint outer,
        runAction (build .empty .development .empty) (.start fun _ => 0) =
          (.ok built, ready) ∧
        runAction (built.mountAll [tableGroup]) ready =
          (.ok mounted, after) ∧
        mounted.router.Serves "/table" endpoint ∧
        runAction (endpoint.handler tableRequest) after =
          (.ok outer, after) ∧
        outer.headers.values contentType = [octets pageText] ∧
        outer.headers.values contentType ≠
          namedTable.headers.values contentType := by
  let type := octets "text/csv; name=\"é\""
  have first : namedTable.headers.values contentType = [type] := rfl
  have member : 0xC3 ∈ type := by
    show _ ∈ octets _
    rw [octets_eq]
    decide
  have begins : ¬ octets "text/plain" <+: type.map smallOctet := by
    show ¬ _ <+: List.map _ (octets _)
    rw [octets_eq, octets_eq]
    decide
  have other : ¬ LacksType NamesPlain namedTable.headers := by
    rw [lacksType_iff_of_first first]
    exact fun plain => begins plain.begins
  have lacks : LacksType TakenForPlain namedTable.headers :=
    .given first (.hidden member rfl)
  have typed := ((defaulted_page namedTable).page rfl).1 lacks
  refine ⟨other, _, _, _, _, _, _, rfl, rfl,
    ⟨_, .head _, rfl, .head _⟩, rfl, typed, ?_⟩
  intro same
  have equal := List.singleton_inj.mp (typed.symm.trans (same.trans first))
  exact octets_injective.ne (by decide) equal

end Application

end Gatehouse.App
