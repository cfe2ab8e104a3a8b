import Gatehouse.Proofs.Extension.Steady

/-!
# Loading extensions from any state

What loading gives does not depend on the state that it begins in: it fails
with the same cause from every state, or gives extensions with the same ids.
This holds of every registry whose constructors fail for reasons of their
sections only, and the registry of the protective extensions is one.  A dry
run from an empty state therefore foretells what a server will meet.
-/

namespace Gatehouse.Serve

open Gatehouse.Outcome

variable {Failure Other First Second Third Fourth : Type}

/--
Two actions fail with the same cause or give related results, whatever the
states are from which they are run.
-/
def Alike (related : First → Second → Prop) (action : Action Failure First)
    (other : Action Failure Second) : Prop :=
  ∀ state elsewhere, SameOutcome related (runAction action state).1
    (runAction other elsewhere).1

namespace Alike

variable {related : First → Second → Prop}
  {following : Third → Fourth → Prop}

theorem pure {result : First} {other : Second}
    (agree : related result other) :
    Alike related (pure result : Action Failure First) (pure other) :=
  fun _ _ => .given agree

theorem throw (cause : Failure) :
    Alike related (throw cause : Action Failure First) (throw cause) :=
  fun _ _ => .refused cause

theorem ofPure {same : First → First → Prop}
    (agree : ∀ result, same result result)
    (result : Except Failure First) :
    Alike same (Action.ofPure result) (Action.ofPure result) :=
  fun _ _ => SameOutcome.refl agree result

theorem report (event other : Event) :
    Alike (fun _ _ => True) (Action.report event : Action Failure Unit)
      (Action.report other) :=
  fun _ _ => .given trivial

theorem mapFailure {action : Action Failure First}
    {other : Action Failure Second} (same : Alike related action other)
    (read : Failure → Other) :
    Alike related (Action.mapFailure read action)
      (Action.mapFailure read other) := by
  intro state elsewhere
  have outcome := same state elsewhere
  rw [runAction_mapFailure, runAction_mapFailure]
  generalize (runAction action state).1 = first at outcome ⊢
  generalize (runAction other elsewhere).1 = second at outcome ⊢
  cases outcome with
  | refused cause => exact .refused (read cause)
  | given agree => exact .given agree

theorem bind {action : Action Failure First} {other : Action Failure Second}
    {next : First → Action Failure Third}
    {otherNext : Second → Action Failure Fourth}
    (same : Alike related action other)
    (each : ∀ result alike, related result alike →
      Alike following (next result) (otherNext alike)) :
    Alike following (action >>= next) (other >>= otherNext) := by
  intro state elsewhere
  have outcome := same state elsewhere
  rcases left : runAction action state with ⟨first, after⟩
  rcases right : runAction other elsewhere with ⟨second, behind⟩
  rw [left, right] at outcome
  cases outcome with
  | refused cause =>
      rw [runAction_bind_of_error left, runAction_bind_of_error right]
      exact .refused cause
  | given agree =>
      rw [runAction_bind_of_ok left, runAction_bind_of_ok right]
      exact each _ _ agree after behind

end Alike

end Gatehouse.Serve

namespace Gatehouse.Extension

open Gatehouse.Config (Document)
open Gatehouse.Serve

/-- Whether an extension is constructed does not depend on the state. -/
def Registration.Foretold (registration : Registration) : Prop :=
  ∀ config, Alike (fun _ _ => True) (registration.construct config)
    (registration.construct config)

/-- All extensions of a registry are constructed from any state or none. -/
def Registry.Foretold (registry : Registry) : Prop :=
  ∀ id registration, registry.find? id = some registration →
    registration.Foretold

section Loading

variable {registry : Registry} {document : Document}

theorem alike_declarations :
    Alike Eq (declarations document) (declarations document) := by
  rw [declarations]
  dsimp only
  split
  · exact (Alike.report _ _).bind fun _ _ _ => .ofPure (fun _ => rfl) _
  · exact .ofPure (fun _ => rfl) _

theorem alike_build (foretold : registry.Foretold)
    (declaration : Declaration) :
    Alike (fun built other => built.id = other.id)
      (build registry document declaration)
      (build registry document declaration) := by
  rw [build]
  split
  · rename_i registration found
    refine (Alike.ofPure (fun _ => rfl) _).bind fun config other same => ?_
    subst same
    have constructed := (foretold _ _ found config).mapFailure
      (LoadError.construction declaration.id)
    exact constructed.bind fun _ _ _ =>
      (Alike.report _ _).bind fun _ _ _ => .pure rfl
  · exact .throw _

theorem alike_buildAll (foretold : registry.Foretold)
    (declared : List Declaration) (seen : List String) :
    Alike (fun built other => built.map Instance.id = other.map Instance.id)
      (buildAll registry document seen declared)
      (buildAll registry document seen declared) := by
  induction declared generalizing seen with
  | nil =>
      rw [buildAll]
      exact .pure rfl
  | cons declaration rest induction =>
      rw [buildAll]
      split
      · exact .throw _
      · refine (alike_build foretold declaration).bind fun _ _ first => ?_
        refine (induction _).bind fun _ _ others => .pure ?_
        rw [List.map_cons, List.map_cons, first, others]

/-- Loading fails with one cause, or gives extensions with the same ids. -/
theorem alike_load (foretold : registry.Foretold) :
    Alike (fun built other => built.map Instance.id = other.map Instance.id)
      (load registry document) (load registry document) := by
  rw [load]
  refine alike_declarations.bind fun declared _ same => ?_
  subst same
  refine (alike_buildAll foretold declared []).bind fun _ _ same => ?_
  exact (Alike.report _ _).bind fun _ _ _ => .pure same

end Loading

/-! ## Registries whose constructors ignore the state -/

/-- A section is checked, and then the extension is made from it. -/
theorem foretold_of_check {Checked : Type} (key : String)
    (check : Config → Except Fault Checked) (make : Config → Extension) :
    Registration.Foretold ⟨key, fun config => do
      let _ ← Action.ofPure (check config)
      return make config⟩ :=
  fun _ => (Alike.ofPure (fun _ => rfl) _).bind
    fun _ _ _ => .pure trivial

namespace Registry

theorem foretold_empty : empty.Foretold := by
  intro id registration found
  cases found

theorem Foretold.insert {registry : Registry} (foretold : registry.Foretold)
    {id : String} {registration : Registration}
    (own : registration.Foretold) :
    (registry.insert id registration).Foretold :=
  forall_insert foretold own

end Registry

end Gatehouse.Extension

namespace Gatehouse.Security

open Gatehouse.Extension (Registration)
open Gatehouse.Serve

theorem ResponseHeaders.foretold :
    Registration.Foretold ⟨ResponseHeaders.key, construct⟩ :=
  Extension.foretold_of_check _ _ _

theorem RateLimit.foretold :
    Registration.Foretold ⟨RateLimit.key, construct⟩ :=
  Extension.foretold_of_check _ _ _

theorem Csrf.foretold : Registration.Foretold ⟨Csrf.key, construct⟩ :=
  Extension.foretold_of_check _ _ _

theorem Auth.foretold : Registration.Foretold ⟨Auth.key, construct⟩ := by
  intro config
  refine (Alike.ofPure (fun _ => rfl) _).bind fun settings _ same => ?_
  subst same
  split
  · exact (Alike.report _ _).bind fun _ _ _ => .pure trivial
  · exact .pure trivial

/-- Whether a protective extension is built depends on its section only. -/
theorem registry_foretold : registry.Foretold :=
  (((Extension.Registry.foretold_empty.insert
    ResponseHeaders.foretold).insert RateLimit.foretold).insert
    Csrf.foretold).insert Auth.foretold

end Gatehouse.Security
