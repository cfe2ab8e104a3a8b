import Gatehouse.Proofs.Outcome
import Gatehouse.Serve.Router

/-!
# Which paths fit into one router

A router takes a path that it has already, and a new one unless it cannot be
told from a path that it has.  Whether paths can all be added one after the
other is therefore a property of the paths alone: each of them spells a
shape, and no two different ones conflict.  Neither the order of the paths
nor the endpoints matter.
-/

namespace Gatehouse.Route.Shape

theorem partsConflict_comm (left right : List ShapePart) :
    partsConflict left right = partsConflict right left := by
  induction left generalizing right with
  | nil => cases right <;> simp [partsConflict]
  | cons first lefts induction =>
      cases right with
      | nil => simp [partsConflict]
      | cons second rights =>
          -- A parameter and a remainder conflict whatever stands behind.
          cases first <;> cases second <;>
            simp [partsConflict, induction rights, BEq.comm]

theorem conflicts_comm (left right : Shape) :
    left.conflicts right = right.conflicts left :=
  partsConflict_comm left.parts right.parts

theorem text_of_parse {text : String} {shape : Shape}
    (parsed : parse text = .ok shape) : shape.text = text := by
  rw [parse] at parsed
  split at parsed
  · cases parsed
  · split at parsed
    · cases parsed
    · rcases Outcome.map_eq_ok_iff.mp parsed with ⟨parts, _, rfl⟩
      rfl

end Gatehouse.Route.Shape

namespace Gatehouse.Serve

open Gatehouse.Outcome
open Gatehouse.Route (Shape ShapeFault)

/-- Paths that fit into one router together. -/
structure Compatible (paths : List String) : Prop where
  formed : ∀ path ∈ paths, ∃ shape, Shape.parse path = .ok shape
  apart : ∀ first ∈ paths, ∀ second ∈ paths, first ≠ second →
    ∀ shape other, Shape.parse first = .ok shape →
      Shape.parse second = .ok other → shape.conflicts other = false

namespace Compatible

theorem nil : Compatible [] := by
  constructor
  · intro path member
    cases member
  · intro first member
    cases member

theorem of_subset {paths others : List String}
    (compatible : Compatible paths) (subset : others ⊆ paths) :
    Compatible others := by
  constructor
  · intro path member
    exact compatible.formed path (subset member)
  · intro first member second other
    exact compatible.apart first (subset member) second (subset other)

/-- What a path has to be in order to fit to others. -/
theorem append_singleton_iff {paths : List String} {path : String} :
    Compatible (paths ++ [path]) ↔
      Compatible paths ∧ ∃ shape, Shape.parse path = .ok shape ∧
        ∀ held ∈ paths, held ≠ path → ∀ other,
          Shape.parse held = .ok other → other.conflicts shape = false := by
  constructor
  · intro compatible
    have last : path ∈ paths ++ [path] := by simp
    rcases compatible.formed path last with ⟨shape, parsed⟩
    refine ⟨compatible.of_subset (List.subset_append_left _ _), shape,
      parsed, ?_⟩
    intro held member differs other found
    exact compatible.apart held (List.mem_append_left _ member) path last
      differs other shape found parsed
  · rintro ⟨compatible, shape, parsed, apart⟩
    constructor
    · intro candidate member
      rcases List.mem_append.mp member with held | last
      · exact compatible.formed candidate held
      · obtain rfl := List.mem_singleton.mp last
        exact ⟨shape, parsed⟩
    · intro first firstMember second secondMember differs left right
        leftParsed rightParsed
      rw [List.mem_append, List.mem_singleton] at firstMember secondMember
      rcases firstMember with firstHeld | rfl
      · rcases secondMember with secondHeld | rfl
        · exact compatible.apart first firstHeld second secondHeld differs
            left right leftParsed rightParsed
        · cases parsed.symm.trans rightParsed
          exact apart first firstHeld differs left leftParsed
      · cases parsed.symm.trans leftParsed
        rcases secondMember with secondHeld | rfl
        · rw [Shape.conflicts_comm]
          exact apart second secondHeld differs.symm right rightParsed
        · exact absurd rfl differs

end Compatible

namespace Router

/-- A router whose branches are for given paths. -/
structure Holds (router : Router) (paths : List String) : Prop where
  parsed : ∀ shape ∈ router.branches.map Branch.shape,
    Shape.parse shape.text = .ok shape
  texts : ∀ path,
    path ∈ paths ↔ ∃ shape ∈ router.branches.map Branch.shape,
      shape.text = path

theorem holds_empty : empty.Holds [] := by
  constructor
  · intro shape member
    cases member
  · intro path
    constructor
    · intro member
      cases member
    · rintro ⟨shape, member, _⟩
      cases member

theorem shapes_addAt (text : String) (endpoint : Endpoint)
    (branches : List Branch) :
    (addAt text endpoint branches).map Branch.shape =
      branches.map Branch.shape := by
  induction branches with
  | nil => rfl
  | cons branch rest induction =>
      rw [addAt]
      split
      · rfl
      · rw [List.map_cons, List.map_cons, induction]

section Adding

variable {router next : Router} {paths : List String} {path : String}
  {endpoint : Endpoint}

theorem any_text_iff (holds : router.Holds paths) :
    router.branches.any (·.shape.text == path) = true ↔
      path ∈ paths := by
  rw [holds.texts, List.any_eq_true]
  constructor
  · rintro ⟨branch, member, same⟩
    exact ⟨branch.shape, List.mem_map_of_mem member, beq_iff_eq.mp same⟩
  · rintro ⟨shape, listed, same⟩
    rcases List.mem_map.mp listed with ⟨branch, member, rfl⟩
    exact ⟨branch, member, beq_iff_eq.mpr same⟩

theorem any_conflicts_iff {shape : Shape} (holds : router.Holds paths) :
    router.branches.any (·.shape.conflicts shape) = true ↔
      ∃ held ∈ paths, ∃ other, Shape.parse held = .ok other ∧
        other.conflicts shape = true := by
  rw [List.any_eq_true]
  constructor
  · rintro ⟨branch, member, conflict⟩
    have listed := List.mem_map_of_mem (f := Branch.shape) member
    exact ⟨branch.shape.text, (holds.texts _).mpr ⟨_, listed, rfl⟩,
      branch.shape, holds.parsed _ listed, conflict⟩
  · rintro ⟨held, known, other, found, conflict⟩
    rcases (holds.texts held).mp known with ⟨shape, listed, rfl⟩
    cases (holds.parsed shape listed).symm.trans found
    rcases List.mem_map.mp listed with ⟨branch, member, rfl⟩
    exact ⟨branch, member, conflict⟩

/-- A known path gets another endpoint, and a new one gets a branch. -/
theorem add_ok (added : router.add path endpoint = .ok next) :
    ∃ shape, Shape.parse path = .ok shape ∧ shape.text = path ∧
      (((∃ branch ∈ router.branches, branch.shape.text = path) ∧
          next = ⟨addAt path endpoint router.branches⟩) ∨
        next = ⟨router.branches ++ [⟨shape, [endpoint]⟩]⟩) := by
  rw [Router.add, bind_eq_ok_iff] at added
  rcases added with ⟨shape, parsed, added⟩
  refine ⟨shape, parsed, Shape.text_of_parse parsed, ?_⟩
  split at added
  · rename_i known
    cases added
    rcases List.any_eq_true.mp known with ⟨branch, member, same⟩
    exact .inl ⟨⟨branch, member, beq_iff_eq.mp same⟩, rfl⟩
  · split at added
    · cases added
    · cases added
      exact .inr rfl

theorem Holds.add (holds : router.Holds paths)
    (added : router.add path endpoint = .ok next) :
    next.Holds (paths ++ [path]) := by
  rcases add_ok added with
    ⟨shape, parsed, text, ⟨⟨branch, member, same⟩, rfl⟩ | rfl⟩
  · constructor
    · rw [shapes_addAt]
      exact holds.parsed
    · intro candidate
      rw [shapes_addAt, ← holds.texts, List.mem_append,
        List.mem_singleton]
      constructor
      · rintro (held | rfl)
        · exact held
        · exact (holds.texts candidate).mpr
            ⟨branch.shape, List.mem_map_of_mem member, same⟩
      · exact .inl
  · constructor
    · intro other member
      rw [List.map_append, List.mem_append] at member
      rcases member with member | member
      · exact holds.parsed other member
      · obtain rfl := List.mem_singleton.mp member
        rw [text]
        exact parsed
    · intro candidate
      rw [List.mem_append, holds.texts, List.mem_singleton,
        List.map_append]
      constructor
      · rintro (⟨other, member, same⟩ | rfl)
        · exact ⟨other, List.mem_append_left _ member, same⟩
        · exact ⟨shape, by simp, text⟩
      · rintro ⟨other, member, same⟩
        rcases List.mem_append.mp member with member | member
        · exact .inl ⟨other, member, same⟩
        · obtain rfl := List.mem_singleton.mp member
          exact .inr (same.symm.trans text)

/-- A path is added exactly if it fits to those that are there. -/
theorem add_ok_iff (holds : router.Holds paths)
    (compatible : Compatible paths) :
    (∃ next, router.add path endpoint = .ok next) ↔
      Compatible (paths ++ [path]) := by
  rw [Compatible.append_singleton_iff, Router.add]
  constructor
  · rintro ⟨next, added⟩
    rw [bind_eq_ok_iff] at added
    rcases added with ⟨shape, parsed, added⟩
    refine ⟨compatible, shape, parsed, ?_⟩
    intro held member differs other found
    split at added
    · rename_i known
      exact compatible.apart held member path
        ((any_text_iff holds).mp known) differs other shape found parsed
    · split at added
      · cases added
      · rename_i free
        rw [any_conflicts_iff holds] at free
        rw [Bool.eq_false_iff]
        intro conflict
        exact free ⟨held, member, other, found, conflict⟩
  · rintro ⟨_, shape, parsed, apart⟩
    by_cases known : path ∈ paths
    · rw [← any_text_iff holds] at known
      rw [parsed]
      exact ⟨_, if_pos known⟩
    · have free : ¬ router.branches.any (·.shape.conflicts shape) = true
          := by
        rw [any_conflicts_iff holds]
        rintro ⟨held, member, other, found, conflict⟩
        have differs : held ≠ path := by
          rintro rfl
          exact known member
        rw [apart held member differs other found] at conflict
        cases conflict
      rw [← any_text_iff holds] at known
      rw [parsed]
      exact ⟨_, (if_neg known).trans (if_neg free)⟩

end Adding

/-! ## What answers at a path -/

/-- At some of the branches for a path there is an endpoint. -/
def ServedBy (branches : List Branch) (path : String)
    (endpoint : Endpoint) : Prop :=
  ∃ branch ∈ branches,
    branch.shape.text = path ∧ endpoint ∈ branch.endpoints

/-- An endpoint of a router answers at a path. -/
def Serves (router : Router) (path : String) (endpoint : Endpoint) : Prop :=
  ServedBy router.branches path endpoint

section Serving

variable {router next : Router} {branch : Branch} {branches : List Branch}
  {path text : String} {endpoint other : Endpoint}

theorem not_serves_empty : ¬ empty.Serves path endpoint := by
  rintro ⟨branch, member, _⟩
  cases member

theorem servedBy_cons_iff :
    ServedBy (branch :: branches) path endpoint ↔
      (branch.shape.text = path ∧ endpoint ∈ branch.endpoints) ∨
      ServedBy branches path endpoint := by
  rw [ServedBy, List.exists_mem_cons_iff]
  rfl

theorem servedBy_addAt_iff
    (known : ∃ branch ∈ branches, branch.shape.text = text) :
    ServedBy (addAt text endpoint branches) path other ↔
      ServedBy branches path other ∨
      (path = text ∧ other = endpoint) := by
  induction branches with
  | nil =>
      rcases known with ⟨branch, member, _⟩
      cases member
  | cons branch rest induction =>
      rw [List.exists_mem_cons_iff] at known
      rw [addAt]
      split
      · rename_i same
        subst same
        rw [servedBy_cons_iff, servedBy_cons_iff, List.mem_append,
          List.mem_singleton, and_or_left, eq_comm (a := path)]
        exact or_right_comm
      · rename_i differs
        rw [servedBy_cons_iff, servedBy_cons_iff,
          induction (known.resolve_left differs), or_assoc]

/-- A router serves what it has served, and one endpoint more. -/
theorem serves_add_iff (added : router.add text endpoint = .ok next) :
    next.Serves path other ↔
      router.Serves path other ∨ (path = text ∧ other = endpoint) := by
  rcases add_ok added with ⟨shape, _, spelled, ⟨known, rfl⟩ | rfl⟩
  · exact servedBy_addAt_iff known
  · simp only [Serves, ServedBy, List.mem_append, List.mem_singleton,
      or_and_right, exists_or, exists_eq_left, spelled, eq_comm (a := path)]

end Serving

end Router

end Gatehouse.Serve
