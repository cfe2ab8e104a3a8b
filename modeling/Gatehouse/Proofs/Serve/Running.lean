import Gatehouse.Proofs.Outcome
import Gatehouse.Serve.State

/-!
# What an action does from a state

One law for each way in which actions are put together: what it gives when
it is run from a state, and in which state it leaves off.  Later proofs take
long actions apart with these laws and never open the computation itself.
-/

namespace Gatehouse.Serve

open Gatehouse.Outcome

variable {Failure Other Result Next : Type} {state after : State}

@[simp]
theorem runAction_report (event : Event) :
    runAction (Action.report event : Action Failure Unit) state =
      (.ok ⟨⟩, { state with reported := event :: state.reported }) := rfl

@[simp]
theorem runAction_ofPure (result : Except Failure Result) :
    runAction (Action.ofPure result) state = (result, state) := rfl

@[simp]
theorem runAction_mapFailure (read : Failure → Other)
    (action : Action Failure Result) :
    runAction (Action.mapFailure read action) state =
      ((runAction action state).1.mapError read,
        (runAction action state).2) := rfl

theorem runAction_bind_of_ok {action : Action Failure Result}
    {next : Result → Action Failure Next} {value : Result}
    {between : State} (done : runAction action state = (.ok value, between)) :
    runAction (action >>= next) state = runAction (next value) between :=
  run_bind_of_ok done

theorem runAction_bind_of_error {action : Action Failure Result}
    {next : Result → Action Failure Next} {cause : Failure}
    (failed : runAction action state = (.error cause, after)) :
    runAction (action >>= next) state = (.error cause, after) :=
  run_bind_of_error failed

theorem runAction_bind_eq_ok_iff {action : Action Failure Result}
    {next : Result → Action Failure Next} {result : Next} :
    runAction (action >>= next) state = (.ok result, after) ↔
      ∃ value between, runAction action state = (.ok value, between) ∧
        runAction (next value) between = (.ok result, after) :=
  run_bind_eq_ok_iff

theorem runAction_bind_eq_error_iff {action : Action Failure Result}
    {next : Result → Action Failure Next} {cause : Failure} :
    runAction (action >>= next) state = (.error cause, after) ↔
      runAction action state = (.error cause, after) ∨
        ∃ value between, runAction action state = (.ok value, between) ∧
          runAction (next value) between = (.error cause, after) :=
  run_bind_eq_error_iff

theorem runAction_mapFailure_eq_ok_iff {read : Failure → Other}
    {action : Action Failure Result} {result : Result} :
    runAction (Action.mapFailure read action) state = (.ok result, after) ↔
      runAction action state = (.ok result, after) := by
  rw [runAction_mapFailure]
  rcases runAction action state with ⟨outcome, between⟩
  rw [Prod.mk.injEq, Prod.mk.injEq, mapError_eq_ok_iff]

theorem runAction_mapFailure_eq_error_iff {read : Failure → Other}
    {action : Action Failure Result} {cause : Other} :
    runAction (Action.mapFailure read action) state =
        (.error cause, after) ↔
      ∃ held, runAction action state = (.error held, after) ∧
        read held = cause := by
  rw [runAction_mapFailure]
  rcases runAction action state with ⟨outcome, between⟩
  simp only [Prod.mk.injEq, mapError_eq_error_iff]
  constructor
  · rintro ⟨⟨held, failed, same⟩, arrived⟩
    exact ⟨held, ⟨failed, arrived⟩, same⟩
  · rintro ⟨held, ⟨failed, arrived⟩, same⟩
    exact ⟨⟨held, failed, same⟩, arrived⟩

/-! ## Actions that succeed -/

/-- An action gives a result when it is run from a state. -/
def Succeeds (action : Action Failure Result) (state : State) : Prop :=
  ∃ result after, runAction action state = (.ok result, after)

theorem succeeds_pure (result : Result) :
    Succeeds (pure result : Action Failure Result) state :=
  ⟨result, state, rfl⟩

theorem succeeds_bind_iff {action : Action Failure Result}
    {next : Result → Action Failure Next} :
    Succeeds (action >>= next) state ↔
      ∃ value between, runAction action state = (.ok value, between) ∧
        Succeeds (next value) between := by
  constructor
  · rintro ⟨result, after, run⟩
    rcases runAction_bind_eq_ok_iff.mp run with ⟨value, between, done, run⟩
    exact ⟨value, between, done, result, after, run⟩
  · rintro ⟨value, between, done, result, after, run⟩
    exact ⟨result, after,
      runAction_bind_eq_ok_iff.mpr ⟨value, between, done, run⟩⟩

/-- What always succeeds behind an action does not decide. -/
theorem succeeds_bind_of_always {action : Action Failure Result}
    {next : Result → Action Failure Next}
    (always : ∀ value between, Succeeds (next value) between) :
    Succeeds (action >>= next) state ↔ Succeeds action state := by
  rw [succeeds_bind_iff]
  constructor
  · rintro ⟨value, between, done, _⟩
    exact ⟨value, between, done⟩
  · rintro ⟨value, between, done⟩
    exact ⟨value, between, done, always value between⟩

theorem succeeds_ofPure_iff {result : Except Failure Result} :
    Succeeds (Action.ofPure result) state ↔
      ∃ value, result = .ok value := by
  constructor
  · rintro ⟨value, after, run⟩
    cases run
    exact ⟨value, rfl⟩
  · rintro ⟨value, rfl⟩
    exact ⟨value, state, rfl⟩

theorem succeeds_mapFailure_iff {read : Failure → Other}
    {action : Action Failure Result} :
    Succeeds (Action.mapFailure read action) state ↔
      Succeeds action state := by
  constructor
  · rintro ⟨result, after, run⟩
    exact ⟨result, after, runAction_mapFailure_eq_ok_iff.mp run⟩
  · rintro ⟨result, after, run⟩
    exact ⟨result, after, runAction_mapFailure_eq_ok_iff.mpr run⟩

end Gatehouse.Serve
