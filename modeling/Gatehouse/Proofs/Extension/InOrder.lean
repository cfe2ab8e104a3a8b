import Gatehouse.Extension.Load
import Gatehouse.Proofs.Extension.Declared
import Gatehouse.Proofs.Serve.Running

/-!
# Extensions are built in order, up to the first that cannot be

Loading is said here without the loop that does it: what a constructor is
called with for a declared extension, and what makes an extension the one at
which loading stops.  A list of calls, each made in the state that the one
before it left behind, stands for the constructors that are called.  The main
statement says for every registry, whatever its constructors do, exactly how
loading ends: with one call for each declared extension, or with those of the
extensions in front of the first one that offends, and with its own call only
if that call is what failed.
-/

namespace Gatehouse.Serve

/-- The state behind a report. -/
def State.reporting (state : State) (event : Event) : State :=
  { state with reported := event :: state.reported }

end Gatehouse.Serve

namespace Gatehouse.Extension

open Gatehouse.Config (Document)
open Gatehouse.Outcome
open Gatehouse.Serve
open Gatehouse.Yaml

/-! ## The section of a declared extension -/

/-- Null or a mapping. -/
def IsSection (value : Value) : Prop :=
  value = .null ∨ ∃ entries, value = .mapping entries

section Choosing

variable (document : Document) (declaration : Declaration) (key : String)

/-- A section is given both with the id and at the top level. -/
def GivenTwice : Prop :=
  (∃ value, document.get? key = some value) ∧
    ∃ value, declaration.given = some value

/-- The top-level section, else the one given with the id, else null. -/
def chosen : Value :=
  ((document.get? key).or declaration.given).getD .null

variable {document declaration key}

theorem chooseSection_of_givenTwice
    (twice : GivenTwice document declaration key) :
    chooseSection document declaration key =
      .error (.givenTwice declaration.id key) := by
  rcases twice with ⟨⟨top, atTop⟩, own, given⟩
  rw [chooseSection, atTop, given]

/-- A section that is given once has to be null or a mapping. -/
theorem chooseSection_of_once
    (once : ¬ GivenTwice document declaration key) :
    chooseSection document declaration key =
      match chosen document declaration key with
      | .null => .ok ⟨key, .null⟩
      | .mapping entries => .ok ⟨key, .mapping entries⟩
      | _ => .error (.notAMapping declaration.id key) := by
  rw [chooseSection, chosen]
  rcases atTop : document.get? key with _ | top
  · rcases declaration.given with _ | own <;> rfl
  · rcases given : declaration.given with _ | own
    · rfl
    · exact absurd ⟨⟨top, atTop⟩, own, given⟩ once

theorem chooseSection_eq_ok_iff {config : Config} :
    chooseSection document declaration key = .ok config ↔
      ¬ GivenTwice document declaration key ∧
      IsSection (chosen document declaration key) ∧
      config = ⟨key, chosen document declaration key⟩ := by
  by_cases twice : GivenTwice document declaration key
  · rw [chooseSection_of_givenTwice twice]
    simp [twice]
  · rw [chooseSection_of_once twice]
    cases chosen document declaration key <;>
      simp [twice, IsSection, eq_comm]

theorem chooseSection_eq_error_iff {failure : LoadError} :
    chooseSection document declaration key = .error failure ↔
      (GivenTwice document declaration key ∧
        failure = .givenTwice declaration.id key) ∨
      (¬ GivenTwice document declaration key ∧
        ¬ IsSection (chosen document declaration key) ∧
        failure = .notAMapping declaration.id key) := by
  by_cases twice : GivenTwice document declaration key
  · rw [chooseSection_of_givenTwice twice]
    simp [twice, eq_comm]
  · rw [chooseSection_of_once twice]
    cases chosen document declaration key <;>
      simp [twice, IsSection, eq_comm]

end Choosing

/-! ## Calls of constructors -/

/-- A constructor with the section that it is called with. -/
structure Call where
  id : String
  registration : Registration
  config : Config

/-- What is reported once an extension is constructed. -/
def Call.event (call : Call) : Event :=
  .debug "Extension constructed"
    [("extension", call.id), ("section", call.registration.key)]

/-- A constructor that is called once gives an extension. -/
inductive Call.Gives (call : Call) (before : State) :
    Instance → State → Prop where
  | intro {extension : Extension} {after : State}
      (run : runAction (call.registration.construct call.config) before =
        (.ok extension, after)) :
      Gives call before ⟨call.id, call.config, extension⟩
        (after.reporting call.event)

/-- Constructors are called once each, one after the other. -/
inductive Calls : State → List Call → List Instance → State → Prop where
  | none (state : State) : Calls state [] [] state
  | next {before between after : State} {call : Call} {rest : List Call}
      {first : Instance} {others : List Instance}
      (gives : call.Gives before first between)
      (calls : Calls between rest others after) :
      Calls before (call :: rest) (first :: others) after

section Building

variable (registry : Registry) (document : Document)

/--
A declared extension asks for a call: it is registered, and its section is
given at most once and is null or a mapping.
-/
structure Asks (declaration : Declaration) (call : Call) : Prop where
  id : call.id = declaration.id
  registered : registry.find? declaration.id = some call.registration
  once : ¬ GivenTwice document declaration call.registration.key
  isSection : IsSection (chosen document declaration call.registration.key)
  config : call.config = ⟨call.registration.key,
    chosen document declaration call.registration.key⟩

/-- Why a declared extension that is new is not built, in order. -/
inductive Refuses (declaration : Declaration) (before : State) :
    LoadError → State → Prop where
  | unknown (missing : registry.find? declaration.id = none) :
      Refuses declaration before (.unknown declaration.id registry.ids) before
  | givenTwice {registration : Registration}
      (registered : registry.find? declaration.id = some registration)
      (twice : GivenTwice document declaration registration.key) :
      Refuses declaration before
        (.givenTwice declaration.id registration.key) before
  | notAMapping {registration : Registration}
      (registered : registry.find? declaration.id = some registration)
      (once : ¬ GivenTwice document declaration registration.key)
      (noSection :
        ¬ IsSection (chosen document declaration registration.key)) :
      Refuses declaration before
        (.notAMapping declaration.id registration.key) before
  | construction {call : Call} {cause : Fault} {after : State}
      (asks : Asks registry document declaration call)
      (run : runAction (call.registration.construct call.config) before =
        (.error cause, after)) :
      Refuses declaration before (.construction declaration.id cause) after

/-- A declared extension stops loading behind others with some ids. -/
inductive Offends (earlier : List String) (declaration : Declaration)
    (before : State) : LoadError → State → Prop where
  | duplicate (again : declaration.id ∈ earlier) :
      Offends earlier declaration before
        (.duplicate declaration.id) before
  | own {failure : LoadError} {after : State}
      (new : declaration.id ∉ earlier)
      (refuses : Refuses registry document declaration before failure after) :
      Offends earlier declaration before failure after

/-- What is reported before anything is built. -/
def warned (before : State) : State :=
  if Declaration.isOldForm (document.get? Declaration.key) then
    before.reporting oldFormEvent
  else before

/-- What is reported when everything is built. -/
def loadedEvent (built : List Instance) : Event :=
  .info "Extensions loaded"
    [("extensions", Text.quotedList (built.map Instance.id))]

/-- How loading the extensions of a document ends. -/
inductive Ends (before : State) :
    Except LoadError (List Instance) → State → Prop where
  | loaded {declared : List Declaration} {calls : List Call}
      {built : List Instance} {after : State}
      (declares : Declares (document.get? Declaration.key) declared)
      (distinct : (declared.map Declaration.id).Nodup)
      (asks : List.Forall₂ (Asks registry document) declared calls)
      (called : Calls (warned document before) calls built after) :
      Ends before (.ok built) (after.reporting (loadedEvent built))
  | malformed {value : Value} {cause : DeclarationFault}
      (present : document.get? Declaration.key = some value)
      (misdeclares : Misdeclares value cause) :
      Ends before (.error (.invalidList cause)) (warned document before)
  | stopped {front behind : List Declaration} {offending : Declaration}
      {calls : List Call} {built : List Instance} {between after : State}
      {failure : LoadError}
      (declares : Declares (document.get? Declaration.key)
        (front ++ offending :: behind))
      (distinct : (front.map Declaration.id).Nodup)
      (asks : List.Forall₂ (Asks registry document) front calls)
      (called : Calls (warned document before) calls built between)
      (offends : Offends registry document (front.map Declaration.id)
        offending between failure after) :
      Ends before (.error failure) after

variable {registry document} {before after : State}

/-! ## Building one extension -/

section One

variable {declaration : Declaration}

theorem runAction_build_of_refused {registration : Registration}
    {failure : LoadError}
    (registered : registry.find? declaration.id = some registration)
    (refused : chooseSection document declaration registration.key =
      .error failure) :
    runAction (build registry document declaration) before =
      (.error failure, before) := by
  rw [build, registered]
  apply runAction_bind_of_error
  rw [runAction_ofPure, refused]

theorem runAction_build_of_asks {call : Call}
    (asks : Asks registry document declaration call) :
    runAction (build registry document declaration) before =
      runAction (do
        let extension ← Action.mapFailure
          (LoadError.construction declaration.id)
          (call.registration.construct call.config)
        Action.report call.event
        return ⟨call.id, call.config, extension⟩) before := by
  rcases call with ⟨id, registration, config⟩
  rcases asks with ⟨same, registered, once, isSection, equal⟩
  dsimp only at same registered once isSection equal
  subst same equal
  rw [build, registered]
  apply runAction_bind_of_ok
  rw [runAction_ofPure,
    chooseSection_eq_ok_iff.mpr ⟨once, isSection, rfl⟩]

theorem runAction_build_of_gives {call : Call} {built : Instance}
    (asks : Asks registry document declaration call)
    (gives : call.Gives before built after) :
    runAction (build registry document declaration) before =
      (.ok built, after) := by
  cases gives with
  | intro run =>
      rw [runAction_build_of_asks asks,
        runAction_bind_of_ok (runAction_mapFailure_eq_ok_iff.mpr run)]
      rfl

theorem runAction_build_of_refuses {failure : LoadError}
    (refuses : Refuses registry document declaration before failure after) :
    runAction (build registry document declaration) before =
      (.error failure, after) := by
  cases refuses with
  | unknown missing =>
      rw [build, missing]
      rfl
  | givenTwice registered twice =>
      exact runAction_build_of_refused registered
        (chooseSection_eq_error_iff.mpr (.inl ⟨twice, rfl⟩))
  | notAMapping registered once noSection =>
      exact runAction_build_of_refused registered
        (chooseSection_eq_error_iff.mpr (.inr ⟨once, noSection, rfl⟩))
  | construction asks run =>
      rw [runAction_build_of_asks asks]
      apply runAction_bind_of_error
      exact runAction_mapFailure_eq_error_iff.mpr ⟨_, run, rfl⟩

/-- A declared extension is built with one call, or is refused. -/
theorem gives_or_refuses (registry : Registry) (document : Document)
    (declaration : Declaration) (before : State) :
    (∃ call built after, Asks registry document declaration call ∧
      call.Gives before built after) ∨
    ∃ failure after,
      Refuses registry document declaration before failure after := by
  rcases registered : registry.find? declaration.id with _ | registration
  · exact .inr ⟨_, _, .unknown registered⟩
  rcases choose : chooseSection document declaration registration.key with
    failure | config
  · rcases chooseSection_eq_error_iff.mp choose with
      ⟨twice, rfl⟩ | ⟨once, noSection, rfl⟩
    · exact .inr ⟨_, _, .givenTwice registered twice⟩
    · exact .inr ⟨_, _, .notAMapping registered once noSection⟩
  rcases chooseSection_eq_ok_iff.mp choose with ⟨once, isSection, equal⟩
  have asks : Asks registry document declaration
      ⟨declaration.id, registration, config⟩ :=
    ⟨rfl, registered, once, isSection, equal⟩
  rcases run : runAction (registration.construct config) before with
    ⟨cause | extension, after⟩
  · exact .inr ⟨_, _, .construction asks run⟩
  · exact .inl ⟨_, _, _, asks, .intro run⟩

end One

/-! ## Building one extension after the other -/

section Several

variable {seen : List String} {calls : List Call} {built : List Instance}

/-- The ids that were seen behind some declared extensions, latest first. -/
def idsBehind (seen : List String) (declared : List Declaration) :
    List String :=
  (declared.map Declaration.id).reverse ++ seen

@[simp]
theorem idsBehind_nil (seen : List String) : idsBehind seen [] = seen := rfl

@[simp]
theorem idsBehind_cons (seen : List String) (declaration : Declaration)
    (rest : List Declaration) :
    idsBehind seen (declaration :: rest) =
      idsBehind (declaration.id :: seen) rest := by
  simp [idsBehind]

theorem new_of_idsBehind {declaration : Declaration}
    {rest : List Declaration}
    (distinct : (idsBehind (declaration.id :: seen) rest).Nodup) :
    declaration.id ∉ seen :=
  (List.nodup_cons.mp (List.nodup_append.mp distinct).2.1).1

theorem runAction_buildAll_of_new {declaration : Declaration}
    {rest : List Declaration} (new : declaration.id ∉ seen) :
    runAction (buildAll registry document seen (declaration :: rest)) before =
      runAction (do
        let first ← build registry document declaration
        let others ←
          buildAll registry document (declaration.id :: seen) rest
        return first :: others) before := by
  rw [buildAll, if_neg (by simpa using new)]

theorem runAction_buildAll_of_calls {declared : List Declaration}
    (distinct : (idsBehind seen declared).Nodup)
    (asks : List.Forall₂ (Asks registry document) declared calls)
    (called : Calls before calls built after) :
    runAction (buildAll registry document seen declared) before =
      (.ok built, after) := by
  induction asks generalizing seen before built with
  | nil =>
      cases called
      rfl
  | cons own _ induction =>
      cases called with
      | next gives called =>
          rw [idsBehind_cons] at distinct
          rw [runAction_buildAll_of_new (new_of_idsBehind distinct),
            runAction_bind_of_ok (runAction_build_of_gives own gives),
            runAction_bind_of_ok (induction distinct called)]
          rfl

theorem runAction_buildAll_of_offends {front behind : List Declaration}
    {offending : Declaration} {between : State} {failure : LoadError}
    (distinct : (idsBehind seen front).Nodup)
    (asks : List.Forall₂ (Asks registry document) front calls)
    (called : Calls before calls built between)
    (offends : Offends registry document (idsBehind seen front) offending
      between failure after) :
    runAction (buildAll registry document seen (front ++ offending :: behind))
      before = (.error failure, after) := by
  induction asks generalizing seen before built with
  | nil =>
      cases called
      cases offends with
      | duplicate again =>
          rw [List.nil_append, buildAll, if_pos (by simpa using again)]
          rfl
      | own new refuses =>
          rw [idsBehind_nil] at new
          rw [List.nil_append, runAction_buildAll_of_new new]
          exact runAction_bind_of_error (runAction_build_of_refuses refuses)
  | cons own _ induction =>
      cases called with
      | next gives called =>
          rw [idsBehind_cons] at distinct offends
          rw [List.cons_append,
            runAction_buildAll_of_new (new_of_idsBehind distinct),
            runAction_bind_of_ok (runAction_build_of_gives own gives)]
          exact runAction_bind_of_error (induction distinct called offends)

/-- All of them are built, or there is a first one that offends. -/
theorem calls_or_offends (registry : Registry) (document : Document)
    (declared : List Declaration) (distinct : seen.Nodup)
    (before : State) :
    (∃ calls built after, (idsBehind seen declared).Nodup ∧
      List.Forall₂ (Asks registry document) declared calls ∧
      Calls before calls built after) ∨
    ∃ front offending behind calls built between failure after,
      declared = front ++ offending :: behind ∧
      (idsBehind seen front).Nodup ∧
      List.Forall₂ (Asks registry document) front calls ∧
      Calls before calls built between ∧
      Offends registry document (idsBehind seen front) offending between
        failure after := by
  induction declared generalizing seen before with
  | nil => exact .inl ⟨[], [], before, distinct, .nil, .none before⟩
  | cons declaration rest induction =>
      by_cases again : declaration.id ∈ seen
      · exact .inr ⟨[], declaration, rest, [], [], before, _, _, rfl,
          distinct, .nil, .none before, .duplicate again⟩
      rcases gives_or_refuses registry document declaration before with
        ⟨call, first, between, own, gives⟩ | ⟨failure, after, refuses⟩
      · have wider : (declaration.id :: seen).Nodup :=
          List.nodup_cons.mpr ⟨again, distinct⟩
        simp only [idsBehind_cons]
        rcases induction wider between with
          ⟨calls, others, after, apart, asks, called⟩ |
          ⟨front, offending, behind, calls, others, onward, failure, after,
            rfl, apart, asks, called, offends⟩
        · exact .inl ⟨call :: calls, first :: others, after, apart,
            .cons own asks, .next gives called⟩
        · refine .inr ⟨declaration :: front, offending, behind,
            call :: calls, first :: others, onward, failure, after, rfl,
            ?_, .cons own asks, .next gives called, ?_⟩
          · rw [idsBehind_cons]
            exact apart
          · rw [idsBehind_cons]
            exact offends
      · exact .inr ⟨[], declaration, rest, [], [], before, failure, after,
          rfl, distinct, .nil, .none before, .own again refuses⟩

end Several

/-! ## Loading -/

theorem Offends.of_mem_iff {earlier others : List String}
    {declaration : Declaration} {failure : LoadError}
    (offends : Offends registry document earlier declaration before failure
      after)
    (same : ∀ id, id ∈ earlier ↔ id ∈ others) :
    Offends registry document others declaration before failure after := by
  cases offends with
  | duplicate again => exact .duplicate ((same _).mp again)
  | own new refuses =>
      exact .own (fun again => new ((same _).mpr again)) refuses

theorem mem_idsBehind_nil_iff {declared : List Declaration} {id : String} :
    id ∈ idsBehind [] declared ↔ id ∈ declared.map Declaration.id := by
  simp [idsBehind]

theorem nodup_idsBehind_nil_iff {declared : List Declaration} :
    (idsBehind [] declared).Nodup ↔
      (declared.map Declaration.id).Nodup := by
  rw [idsBehind, List.append_nil, (List.reverse_perm _).nodup_iff]

theorem runAction_declarations :
    runAction (declarations document) before =
      ((Declaration.readAll (document.get? Declaration.key)).mapError
        LoadError.invalidList, warned document before) := by
  rw [declarations, warned]
  dsimp only
  split
  · rw [runAction_bind_of_ok (runAction_report _)]
    rfl
  · rfl

theorem runAction_load_of_declares {declared : List Declaration}
    (declares : Declares (document.get? Declaration.key) declared) :
    runAction (load registry document) before =
      runAction (do
        let built ← buildAll registry document [] declared
        Action.report (loadedEvent built)
        return built) (warned document before) := by
  apply runAction_bind_of_ok
  rw [runAction_declarations,
    Declaration.readAll_eq_ok_iff.mpr declares, mapError_ok]

theorem runAction_load_of_ends
    {outcome : Except LoadError (List Instance)}
    (ends : Ends registry document before outcome after) :
    runAction (load registry document) before = (outcome, after) := by
  cases ends with
  | loaded declares distinct asks called =>
      rw [runAction_load_of_declares declares,
        runAction_bind_of_ok (runAction_buildAll_of_calls
          (nodup_idsBehind_nil_iff.mpr distinct) asks called)]
      rfl
  | malformed present misdeclares =>
      apply runAction_bind_of_error
      rw [runAction_declarations, Declaration.readAll_eq_error_iff.mpr
        ⟨_, present, misdeclares⟩]
      rfl
  | stopped declares distinct asks called offends =>
      rw [runAction_load_of_declares declares]
      apply runAction_bind_of_error
      exact runAction_buildAll_of_offends
        (nodup_idsBehind_nil_iff.mpr distinct) asks called
        (offends.of_mem_iff fun _ => mem_idsBehind_nil_iff.symm)

theorem exists_ends (registry : Registry) (document : Document)
    (before : State) :
    ∃ outcome after, Ends registry document before outcome after := by
  rcases read : Declaration.readAll (document.get? Declaration.key) with
    cause | declared
  · rcases Declaration.readAll_eq_error_iff.mp read with
      ⟨value, present, misdeclares⟩
    exact ⟨_, _, .malformed present misdeclares⟩
  · have declares := Declaration.readAll_eq_ok_iff.mp read
    rcases calls_or_offends registry document declared List.nodup_nil
        (warned document before) with
      ⟨calls, built, after, distinct, asks, called⟩ |
      ⟨front, offending, behind, calls, built, between, failure, after, rfl,
        distinct, asks, called, offends⟩
    · exact ⟨_, _, .loaded declares (nodup_idsBehind_nil_iff.mp distinct)
        asks called⟩
    · exact ⟨_, _, .stopped declares (nodup_idsBehind_nil_iff.mp distinct)
        asks called (offends.of_mem_iff fun _ => mem_idsBehind_nil_iff)⟩

/--
Whatever the constructors of a registry do, loading ends as it is said by
`Ends`: all declared extensions are built in order, or the declaration is
badly formed and nothing is called, or the first extension that offends stops
it.
-/
theorem load_ends_iff (registry : Registry) (document : Document)
    (before : State) (outcome : Except LoadError (List Instance))
    (after : State) :
    runAction (load registry document) before = (outcome, after) ↔
      Ends registry document before outcome after := by
  constructor
  · intro run
    rcases exists_ends registry document before with
      ⟨other, behind, ends⟩
    cases run.symm.trans (runAction_load_of_ends ends)
    exact ends
  · exact runAction_load_of_ends

end Building

end Gatehouse.Extension
