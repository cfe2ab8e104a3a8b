import Mathlib.Data.List.Forall2

/-!
# When a computation that may be refused gives a result

Inversion for the ways in which such computations are put together.  Each
law says exactly when a composed computation gives a result, so that a proof
takes a long computation apart one action at a time.
-/

namespace Gatehouse.Outcome

variable {Fault Other First Second Third : Type}

theorem bind_eq_ok_iff {action : Except Fault First}
    {next : First → Except Fault Second} {result : Second} :
    action >>= next = .ok result ↔
      ∃ value, action = .ok value ∧ next value = .ok result := by
  cases action with
  | error cause =>
      constructor
      · intro equal
        cases equal
      · rintro ⟨value, equal, _⟩
        cases equal
  | ok value =>
      constructor
      · intro equal
        exact ⟨value, rfl, equal⟩
      · rintro ⟨_, found, equal⟩
        cases found
        exact equal

theorem bind_eq_error_iff {action : Except Fault First}
    {next : First → Except Fault Second} {cause : Fault} :
    action >>= next = .error cause ↔
      action = .error cause ∨
        ∃ value, action = .ok value ∧ next value = .error cause := by
  cases action with
  | error held =>
      constructor
      · intro equal
        cases equal
        exact .inl rfl
      · rintro (equal | ⟨value, equal, _⟩)
        · cases equal
          rfl
        · cases equal
  | ok value =>
      constructor
      · intro equal
        exact .inr ⟨value, rfl, equal⟩
      · rintro (equal | ⟨_, found, equal⟩)
        · cases equal
        · cases found
          exact equal

theorem map_eq_ok_iff {action : Except Fault First}
    {change : First → Second} {result : Second} :
    change <$> action = .ok result ↔
      ∃ value, action = .ok value ∧ change value = result := by
  cases action with
  | error cause =>
      constructor
      · intro equal
        cases equal
      · rintro ⟨_, found, _⟩
        cases found
  | ok value =>
      constructor
      · intro equal
        exact ⟨value, rfl, Except.ok.inj equal⟩
      · rintro ⟨_, found, rfl⟩
        cases found
        rfl

theorem map_eq_error_iff {action : Except Fault First}
    {change : First → Second} {cause : Fault} :
    change <$> action = .error cause ↔ action = .error cause := by
  cases action with
  | error held =>
      constructor
      · intro equal
        cases equal
        rfl
      · intro equal
        cases equal
        rfl
  | ok value =>
      constructor
      · intro equal
        cases equal
      · intro equal
        cases equal

@[simp]
theorem mapError_ok (change : Fault → Other) (result : First) :
    (Except.ok result : Except Fault First).mapError change =
      .ok result := rfl

theorem mapError_eq_ok_iff {action : Except Fault First}
    {change : Fault → Other} {result : First} :
    action.mapError change = .ok result ↔ action = .ok result := by
  cases action with
  | error cause =>
      constructor
      · intro equal
        cases equal
      · intro equal
        cases equal
  | ok value => rw [mapError_ok, Except.ok.injEq, Except.ok.injEq]

theorem mapError_eq_error_iff {action : Except Fault First}
    {change : Fault → Other} {cause : Other} :
    action.mapError change = .error cause ↔
      ∃ held, action = .error held ∧ change held = cause := by
  cases action with
  | error held =>
      constructor
      · intro equal
        exact ⟨held, rfl, Except.error.inj equal⟩
      · rintro ⟨_, found, rfl⟩
        cases found
        rfl
  | ok value =>
      constructor
      · intro equal
        cases equal
      · rintro ⟨_, found, _⟩
        cases found

theorem pure_eq_ok_iff {value result : First} :
    (pure value : Except Fault First) = .ok result ↔ value = result := by
  constructor
  · intro equal
    cases equal
    rfl
  · rintro rfl
    rfl

/-- What is made of a result does not decide whether there is one. -/
theorem exists_ok_of_change_iff {action : Except Fault First}
    {change : First → Second} :
    (∃ result, (action >>= fun value => pure (change value)) =
        .ok result) ↔
      ∃ value, action = .ok value := by
  constructor
  · rintro ⟨result, found⟩
    rcases bind_eq_ok_iff.mp found with ⟨value, done, _⟩
    exact ⟨value, done⟩
  · rintro ⟨value, done⟩
    exact ⟨change value, bind_eq_ok_iff.mpr ⟨value, done, rfl⟩⟩

/-- Two actions give a result together exactly if each of them does. -/
theorem exists_ok_of_both_iff {action : Except Fault First}
    {other : Except Fault Second} {join : First → Second → Third} :
    (∃ result, (action >>= fun value =>
        other >>= fun second => pure (join value second)) =
        .ok result) ↔
      (∃ value, action = .ok value) ∧ ∃ second, other = .ok second := by
  constructor
  · rintro ⟨result, found⟩
    rcases bind_eq_ok_iff.mp found with ⟨value, done, found⟩
    rcases bind_eq_ok_iff.mp found with ⟨second, remaining, _⟩
    exact ⟨⟨value, done⟩, second, remaining⟩
  · rintro ⟨⟨value, done⟩, second, remaining⟩
    exact ⟨join value second, bind_eq_ok_iff.mpr ⟨value, done,
      bind_eq_ok_iff.mpr ⟨second, remaining, rfl⟩⟩⟩

/-- A list of actions gives a result exactly if each of them does. -/
theorem mapM_eq_ok_iff {action : First → Except Fault Second}
    {items : List First} {results : List Second} :
    items.mapM action = .ok results ↔
      List.Forall₂ (fun item result => action item = .ok result)
        items results := by
  induction items generalizing results with
  | nil =>
      rw [List.mapM_nil, pure_eq_ok_iff, List.forall₂_nil_left_iff]
      exact eq_comm
  | cons item rest induction =>
      rw [List.mapM_cons, bind_eq_ok_iff, List.forall₂_cons_left_iff]
      constructor
      · rintro ⟨first, done, found⟩
        rcases bind_eq_ok_iff.mp found with ⟨others, remaining, equal⟩
        have shape : first :: others = results := pure_eq_ok_iff.mp equal
        exact ⟨first, others, done, induction.mp remaining, shape.symm⟩
      · rintro ⟨first, others, done, remaining, rfl⟩
        exact ⟨first, done,
          bind_eq_ok_iff.mpr ⟨others, induction.mpr remaining, rfl⟩⟩

theorem mapM_map_eq_ok {spell : Third → First}
    {read : First → Except Fault Second} {ask : Third → Second}
    {names : List Third}
    (each : ∀ name ∈ names, read (spell name) = .ok (ask name)) :
    (names.map spell).mapM read = .ok (names.map ask) := by
  rw [mapM_eq_ok_iff, List.forall₂_map_left_iff,
    List.forall₂_map_right_iff, List.forall₂_same]
  exact each

/-- If a list of actions gives results, then each of the actions does. -/
theorem exists_ok_of_mapM {action : First → Except Fault Second}
    {items : List First} {results : List Second}
    (done : items.mapM action = .ok results) :
    ∀ item ∈ items, ∃ result, action item = .ok result := by
  rw [mapM_eq_ok_iff] at done
  have both := done.imp fun item result own =>
    And.intro (Exists.intro result own) trivial
  exact ((List.forall₂_and_left _ _).mp both).1

/-- A list of actions is refused where the first of them is refused. -/
theorem mapM_eq_error_iff {action : First → Except Fault Second}
    {items : List First} {cause : Fault} :
    items.mapM action = .error cause ↔
      ∃ front item behind, items = front ++ item :: behind ∧
        (∀ earlier ∈ front, ∃ result, action earlier = .ok result) ∧
        action item = .error cause := by
  induction items with
  | nil =>
      constructor
      · intro equal
        cases equal
      · rintro ⟨front, item, behind, equal, _⟩
        cases front <;> cases equal
  | cons first rest induction =>
      rw [List.mapM_cons, bind_eq_error_iff]
      constructor
      · rintro (refused | ⟨result, done, refused⟩)
        · exact ⟨[], first, rest, rfl, by simp, refused⟩
        · rcases bind_eq_error_iff.mp refused with later | ⟨_, _, equal⟩
          · rcases induction.mp later with
              ⟨front, item, behind, rfl, each, found⟩
            refine ⟨first :: front, item, behind, rfl, ?_, found⟩
            rw [List.forall_mem_cons]
            exact ⟨⟨result, done⟩, each⟩
          · cases equal
      · rintro ⟨front, item, behind, equal, each, found⟩
        cases front with
        | nil =>
            cases equal
            exact .inl found
        | cons earlier front =>
            cases equal
            rw [List.forall_mem_cons] at each
            rcases each with ⟨⟨result, done⟩, each⟩
            refine .inr ⟨result, done, bind_eq_error_iff.mpr (.inl ?_)⟩
            exact induction.mpr ⟨front, item, behind, rfl, each, found⟩

/-! ## Two computations with the same outcome -/

/-- Two computations are refused alike, or give related results. -/
inductive SameOutcome (related : First → Second → Prop) :
    Except Fault First → Except Fault Second → Prop where
  | refused (cause : Fault) :
      SameOutcome related (.error cause) (.error cause)
  | given {result : First} {other : Second}
      (agree : related result other) :
      SameOutcome related (.ok result) (.ok other)

namespace SameOutcome

variable {Fourth : Type} {related : First → Second → Prop}
  {following : Third → Fourth → Prop}

theorem refl {same : First → First → Prop}
    (alike : ∀ result, same result result)
    (action : Except Fault First) : SameOutcome same action action := by
  cases action with
  | error cause => exact .refused cause
  | ok result => exact .given (alike result)

theorem imp {weaker : First → Second → Prop}
    {action : Except Fault First} {other : Except Fault Second}
    (same : SameOutcome related action other)
    (implies : ∀ result alike, related result alike →
      weaker result alike) :
    SameOutcome weaker action other := by
  cases same with
  | refused cause => exact .refused cause
  | given agree => exact .given (implies _ _ agree)

theorem bind {action : Except Fault First}
    {other : Except Fault Second} {next : First → Except Fault Third}
    {otherNext : Second → Except Fault Fourth}
    (same : SameOutcome related action other)
    (each : ∀ result alike, related result alike →
      SameOutcome following (next result) (otherNext alike)) :
    SameOutcome following (action >>= next) (other >>= otherNext) := by
  cases same with
  | refused cause => exact .refused cause
  | given agree => exact each _ _ agree

/-- What is made of a result does not decide whether there is one. -/
theorem change {action : Except Fault First} {other : Except Fault Second}
    (same : SameOutcome related action other) (make : First → Third)
    {onward : Third → Second → Prop}
    (keeps : ∀ result alike, related result alike →
      onward (make result) alike) :
    SameOutcome onward (action >>= fun result => pure (make result))
      other := by
  cases same with
  | refused cause => exact .refused cause
  | given agree => exact .given (keeps _ _ agree)

theorem exists_ok_iff {action : Except Fault First}
    {other : Except Fault Second} (same : SameOutcome related action other) :
    (∃ result, action = .ok result) ↔ ∃ result, other = .ok result := by
  cases same with
  | refused cause =>
      constructor
      · rintro ⟨_, equal⟩
        cases equal
      · rintro ⟨_, equal⟩
        cases equal
  | given agree => exact ⟨fun _ => ⟨_, rfl⟩, fun _ => ⟨_, rfl⟩⟩

theorem error_iff {action : Except Fault First}
    {other : Except Fault Second} (same : SameOutcome related action other)
    (cause : Fault) :
    action = .error cause ↔ other = .error cause := by
  cases same with
  | refused held =>
      rw [Except.error.injEq, Except.error.injEq]
  | given agree =>
      constructor
      · intro equal
        cases equal
      · intro equal
        cases equal

/-- Related items that have the same outcome one by one have it together. -/
theorem mapM {items : List First} {others : List Second}
    {action : First → Except Fault Third}
    {otherAction : Second → Except Fault Fourth}
    (agree : List.Forall₂ related items others)
    (each : ∀ item other, related item other →
      SameOutcome following (action item) (otherAction other)) :
    SameOutcome (List.Forall₂ following) (items.mapM action)
      (others.mapM otherAction) := by
  induction agree with
  | nil => exact .given .nil
  | cons this _ induction =>
      rw [List.mapM_cons, List.mapM_cons]
      refine (each _ _ this).bind fun first second agree => ?_
      refine induction.bind fun rest remaining alike => ?_
      exact .given (.cons agree alike)

end SameOutcome

/-! ## Computations that carry a state -/

section Carried

variable {State : Type} {action : ExceptT Fault (StateM State) First}
  {next : First → ExceptT Fault (StateM State) Second}
  {state after : State}

theorem run_bind_of_ok {value : First} {between : State}
    (done : action.run.run state = (.ok value, between)) :
    (action >>= next).run.run state = (next value).run.run between := by
  rw [ExceptT.run_bind, StateT.run_bind]
  simp only [done]
  rfl

theorem run_bind_of_error {cause : Fault}
    (failed : action.run.run state = (.error cause, after)) :
    (action >>= next).run.run state = (.error cause, after) := by
  rw [ExceptT.run_bind, StateT.run_bind]
  simp only [failed]
  rfl

theorem run_bind_eq_ok_iff {result : Second} :
    (action >>= next).run.run state = (.ok result, after) ↔
      ∃ value between, action.run.run state = (.ok value, between) ∧
        (next value).run.run between = (.ok result, after) := by
  rcases found : action.run.run state with ⟨cause | value, between⟩
  · rw [run_bind_of_error found]
    constructor
    · intro equal
      cases equal
    · rintro ⟨_, _, equal, _⟩
      cases equal
  · rw [run_bind_of_ok found]
    constructor
    · intro equal
      exact ⟨value, between, rfl, equal⟩
    · rintro ⟨_, _, same, equal⟩
      cases same
      exact equal

theorem run_bind_eq_error_iff {cause : Fault} :
    (action >>= next).run.run state = (.error cause, after) ↔
      action.run.run state = (.error cause, after) ∨
        ∃ value between, action.run.run state = (.ok value, between) ∧
          (next value).run.run between = (.error cause, after) := by
  rcases found : action.run.run state with ⟨held | value, between⟩
  · rw [run_bind_of_error found]
    constructor
    · intro equal
      cases equal
      exact .inl rfl
    · rintro (equal | ⟨_, _, equal, _⟩)
      · cases equal
        rfl
      · cases equal
  · rw [run_bind_of_ok found]
    constructor
    · intro equal
      exact .inr ⟨value, between, rfl, equal⟩
    · rintro (equal | ⟨_, _, same, equal⟩)
      · cases equal
      · cases same
        exact equal

end Carried

end Gatehouse.Outcome
