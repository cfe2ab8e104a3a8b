import Gatehouse.App.Build
import Gatehouse.Cli.Run
import Gatehouse.Proofs.Extension.Foretold

/-!
# A check foretells a start

A check and a start look at a document in the same stages.  A start ends at
the first stage that fails, while a check goes on and tells about all of
them, unless the sections cannot be read at all.  So a check succeeds exactly
if an application can be built, and shows the numbers of that application.
If none can be built, the reason is what the check finds at the first stage
at which it finds anything.
-/

namespace Gatehouse.App

open Gatehouse.Config (Document Environment Settings)
open Gatehouse.Extension (Registry)
open Gatehouse.Outcome
open Gatehouse.Serve
open Gatehouse.Route (Table)

/-! ## The stages of a start -/

/-- What is looked at on the way to an application, one after the other. -/
inductive Stage where
  /-- Whether the sections of the settings can be read. -/
  | sections
  /-- Whether the settings keep their rules. -/
  | values
  | table
  | extensions
  deriving DecidableEq, Repr

/-- The stages in order. -/
def Stage.all : List Stage :=
  [.sections, .values, .table, .extensions]

namespace BuildError

/-- The stage at which an application is not built. -/
def stage : BuildError → Stage
  | .config (.invalidSettings _) => .values
  | .config _ => .sections
  | .table _ => .table
  | .extensions _ => .extensions

/-- What is wrong, with every broken rule by itself. -/
def reasons : BuildError → List String
  | .config (.invalidSettings violations) =>
    violations.map Config.Violation.text
  | cause => [cause.message]

end BuildError

theorem section_eq_error {Settings : Type} {document : Document}
    {key : String} {decoder : Yaml.Decoder Settings} {defaults : Settings}
    {cause : Config.Error}
    (refused : document.section key decoder defaults = .error cause) :
    ∃ origin fault, cause = .invalidSection key origin fault := by
  rw [Document.section] at refused
  split at refused
  · cases refused
  · split at refused
    · cases refused
    · rcases mapError_eq_error_iff.mp refused with ⟨fault, _, same⟩
      exact ⟨_, fault, same.symm⟩

/-- Sections that cannot be read fail at the first stage. -/
theorem stage_of_ofDocument {document : Document} {cause : Config.Error}
    (refused : Settings.ofDocument document = .error cause) :
    (BuildError.config cause).stage = .sections ∧
      (BuildError.config cause).reasons = [cause.message] := by
  have invalid : ∃ key origin fault,
      cause = .invalidSection key origin fault := by
    rcases bind_eq_error_iff.mp refused with server | ⟨_, _, refused⟩
    · rcases section_eq_error server with ⟨origin, fault, same⟩
      exact ⟨_, origin, fault, same⟩
    · rcases bind_eq_error_iff.mp refused with observability | ⟨_, _, given⟩
      · rcases section_eq_error observability with ⟨origin, fault, same⟩
        exact ⟨_, origin, fault, same⟩
      · cases given
  rcases invalid with ⟨key, origin, fault, rfl⟩
  exact ⟨rfl, rfl⟩

/-- A pure computation is followed by what its result asks for. -/
theorem runAction_ofPure_bind {Failure Result Next : Type}
    {result : Except Failure Result} {next : Result → Action Failure Next}
    {state : State} :
    runAction (Action.ofPure result >>= next) state =
      match result with
      | .error cause => (.error cause, state)
      | .ok value => runAction (next value) state := by
  cases result with
  | error cause => exact runAction_bind_of_error rfl
  | ok value => exact runAction_bind_of_ok rfl

section Building

variable {registry : Registry} {environment : Environment}
  {document : Document} {state : State} {settings : Settings}

theorem build_of_sections {cause : Config.Error}
    (refused : Settings.ofDocument document = .error cause) :
    (runAction (build registry environment document) state).1 =
      .error (.config cause) := by
  rw [build, runAction_ofPure_bind, refused]
  rfl

theorem build_of_values
    (read : Settings.ofDocument document = .ok settings)
    (broken : settings.violations ≠ []) :
    (runAction (build registry environment document) state).1 =
      .error (.config (.invalidSettings settings.violations)) := by
  have refused : settings.checked =
      .error (.invalidSettings settings.violations) := by
    rw [Settings.checked, if_neg (by simpa using broken)]
  have given : Settings.ofDocument document >>= Settings.checked =
      .error (.invalidSettings settings.violations) := by
    rw [read]
    exact refused
  rw [build, runAction_ofPure_bind, given]
  rfl

/-- Settings that keep their rules leave the table and the extensions. -/
theorem build_of_checked
    (read : Settings.ofDocument document = .ok settings)
    (kept : settings.violations = []) :
    (runAction (build registry environment document) state).1 =
      match Table.ofDocument document with
      | .error cause => .error (.table cause)
      | .ok table =>
        match (runAction (Extension.load registry document) state).1 with
        | .error cause => .error (.extensions cause)
        | .ok extensions =>
          .ok ⟨environment, document, settings, table, extensions, .empty,
            [], []⟩ := by
  have accepted : settings.checked = .ok settings := by
    rw [Settings.checked, kept]
    rfl
  have given : Settings.ofDocument document >>= Settings.checked =
      .ok settings := by
    rw [read]
    exact accepted
  rw [build, runAction_ofPure_bind, given]
  dsimp only [mapError_ok]
  rw [runAction_ofPure_bind]
  cases Table.ofDocument document with
  | error cause => rfl
  | ok table =>
      dsimp only [mapError_ok]
      rcases loaded : runAction (Extension.load registry document) state with
        ⟨cause | extensions, after⟩
      · have failed : runAction (Action.mapFailure BuildError.extensions
            (Extension.load registry document)) state =
            (.error (.extensions cause), after) :=
          runAction_mapFailure_eq_error_iff.mpr ⟨cause, loaded, rfl⟩
        rw [runAction_bind_of_error failed]
      · have done : runAction (Action.mapFailure BuildError.extensions
            (Extension.load registry document)) state =
            (.ok extensions, after) :=
          runAction_mapFailure_eq_ok_iff.mpr loaded
        rw [runAction_bind_of_ok done,
          runAction_bind_of_ok (runAction_report _)]
        rfl

end Building

end Gatehouse.App

namespace Gatehouse.Cli

open Gatehouse.App (Application BuildError Stage)
open Gatehouse.Config (Document Environment Resolved Settings)
open Gatehouse.Extension (Instance)
open Gatehouse.Outcome
open Gatehouse.Route (Table)
open Gatehouse.Serve

/-! ## The stages of a check -/

/--
What a check finds at a stage; behind sections that cannot be read it does
not look any further.
-/
def findings (document : Document) (stage : Stage) : List String :=
  match Settings.ofDocument document with
  | .error cause => if stage = .sections then [cause.message] else []
  | .ok settings =>
    match stage with
    | .sections => []
    | .values => settingsFinding settings
    | .table => (tableFinding document).complaints
    | .extensions => (extensionFinding document).complaints

/-- What a check prints about a stage behind the sections. -/
def stageLines (document : Document) (stage : Stage) : List String :=
  (findings document stage).map ("error: " ++ ·)

/-- The stages behind the sections. -/
def laterStages : List Stage :=
  [.values, .table, .extensions]

/-- How a check ends: with the reason to give up, if there is one. -/
def closing (document : Document) : List String :=
  match Settings.ofDocument document with
  | .error cause => ["Error: " ++ inspectConfig cause]
  | .ok _ =>
    if laterStages.flatMap (findings document) = [] then []
    else ["Error: " ++ Failure.checkFailed.inspect]

/-- A stage is the first at which a check finds something. -/
def FirstFailing (document : Document) (stage : Stage) : Prop :=
  ∃ before behind, Stage.all = before ++ stage :: behind ∧
    (∀ earlier ∈ before, findings document earlier = []) ∧
    findings document stage ≠ []

/-- What a check prints when it finds nothing. -/
def successLines (resolved : Resolved) (app : Application) : List String :=
  ["route patterns: " ++ toString app.table.entries.length,
    "extensions: " ++ ", ".intercalate (app.extensions.map Instance.id),
    "ok: " ++ resolved.source ++ " (" ++ resolved.environment.name ++ ")"]

/--
A check foretells the result of building an application: it succeeds exactly
if there is one, and shows what that application has.  Its complaints are
what it finds stage by stage and the reason to give up, and the reason why
there is no application is what it finds at the first stage at which it finds
anything.
-/
structure Foretells (resolved : Resolved) (outcome : Outcome)
    (result : Except BuildError Application) : Prop where
  complaints : outcome.complaints =
    laterStages.flatMap (stageLines resolved.document) ++
      closing resolved.document
  code : outcome.code = 0 ↔ ∃ app, result = .ok app
  success : ∀ app, result = .ok app →
    outcome = .done (linesText (successLines resolved app))
  failure : ∀ cause, result = .error cause →
    FirstFailing resolved.document cause.stage ∧
      findings resolved.document cause.stage = cause.reasons

section Checking

variable {resolved : Resolved} {settings : Settings}

theorem checkAll_of_sections {cause : Config.Error}
    (refused : Settings.ofDocument resolved.document = .error cause) :
    checkAll resolved = .failed (.config cause) := by
  rw [checkAll, refused]

theorem checkAll_of_settings
    (read : Settings.ofDocument resolved.document = .ok settings) :
    checkAll resolved =
      if settingsFinding settings ++
          (tableFinding resolved.document).complaints ++
          (extensionFinding resolved.document).complaints = [] then
        .done (linesText ((tableFinding resolved.document).lines ++
          (extensionFinding resolved.document).lines ++
          ["ok: " ++ resolved.source ++ " (" ++
            resolved.environment.name ++ ")"]))
      else
        ⟨1, linesText ((tableFinding resolved.document).lines ++
            (extensionFinding resolved.document).lines),
          (settingsFinding settings ++
            (tableFinding resolved.document).complaints ++
            (extensionFinding resolved.document).complaints).map
              ("error: " ++ ·) ++
            ["Error: " ++ Failure.checkFailed.inspect]⟩ := by
  rw [checkAll, read]
  simp only [List.isEmpty_iff]

theorem findings_of_sections {document : Document} {cause : Config.Error}
    (refused : Settings.ofDocument document = .error cause)
    (stage : Stage) :
    findings document stage =
      if stage = .sections then [cause.message] else [] := by
  rw [findings, refused]

theorem findings_of_settings {document : Document}
    (read : Settings.ofDocument document = .ok settings) (stage : Stage) :
    findings document stage =
      match stage with
      | .sections => []
      | .values => settingsFinding settings
      | .table => (tableFinding document).complaints
      | .extensions => (extensionFinding document).complaints := by
  rw [findings, read]

/-- A check complains about what it finds, stage by stage. -/
theorem complaints_checkAll (resolved : Resolved) :
    (checkAll resolved).complaints =
      laterStages.flatMap (stageLines resolved.document) ++
        closing resolved.document := by
  cases read : Settings.ofDocument resolved.document with
  | error cause =>
      have found := findings_of_sections read
      rw [checkAll_of_sections read, closing, read]
      simp [Outcome.failed, Failure.inspect, laterStages, stageLines, found]
  | ok settings =>
      have each := findings_of_settings read
      have found : laterStages.flatMap (findings resolved.document) =
          settingsFinding settings ++
            (tableFinding resolved.document).complaints ++
            (extensionFinding resolved.document).complaints := by
        simp [laterStages, each]
      have printed : laterStages.flatMap (stageLines resolved.document) =
          (settingsFinding settings ++
            (tableFinding resolved.document).complaints ++
            (extensionFinding resolved.document).complaints).map
              ("error: " ++ ·) := by
        simp [laterStages, stageLines, each]
      rw [checkAll_of_settings read, closing, read, printed]
      dsimp only
      rw [found]
      split
      · rename_i nothing
        rw [nothing]
        rfl
      · rfl

/-- A check that succeeds has found nothing at any stage. -/
theorem findings_of_code_zero (succeeds : (checkAll resolved).code = 0)
    (stage : Stage) : findings resolved.document stage = [] := by
  cases read : Settings.ofDocument resolved.document with
  | error cause =>
      rw [checkAll_of_sections read] at succeeds
      cases succeeds
  | ok settings =>
      rw [checkAll_of_settings read] at succeeds
      split at succeeds
      · rename_i nothing
        rw [List.append_eq_nil_iff, List.append_eq_nil_iff] at nothing
        rcases nothing with ⟨⟨values, table⟩, extensions⟩
        rw [findings_of_settings read]
        cases stage with
        | sections => rfl
        | values => exact values
        | table => exact table
        | extensions => exact extensions
      · cases succeeds

/-! ## The check and the start side by side -/

/-- What a check finds about the extensions is found from every state. -/
theorem extensionFinding_eq (document : Document) (state : State) :
    extensionFinding document =
      match (runAction (Extension.load Security.registry document) state).1 with
      | .ok built =>
        .ok ("extensions: " ++ ", ".intercalate (built.map Instance.id))
      | .error cause => .error [cause.message] := by
  have same := @Extension.alike_load _ document Security.registry_foretold
    (.start fun _ => 0) state
  rw [extensionFinding]
  generalize (runAction _ (State.start fun _ => 0)).1 = first at same ⊢
  generalize (runAction _ state).1 = second at same ⊢
  cases same with
  | refused cause => rfl
  | given agree =>
      dsimp only
      rw [agree]

/-- Behind stages at which nothing is found, a finding is the first one. -/
theorem firstFailing_of_found (before : List Stage) {behind : List Stage}
    {document : Document} {stage : Stage} {reasons : List String}
    (order : Stage.all = before ++ stage :: behind)
    (nothing : ∀ earlier ∈ before, findings document earlier = [])
    (found : findings document stage = reasons) (some : reasons ≠ []) :
    FirstFailing document stage ∧ findings document stage = reasons :=
  ⟨⟨before, behind, order, nothing, found ▸ some⟩, found⟩

section Building

variable {environment : Environment} {state : State}

/-- The reason to end is what the check finds at its first failing stage. -/
theorem failing_of_build {document : Document} {cause : BuildError}
    (refused : (runAction
      (App.build Security.registry environment document) state).1 =
        .error cause) :
    FirstFailing document cause.stage ∧
      findings document cause.stage = cause.reasons := by
  cases read : Settings.ofDocument document with
  | error fault =>
      rw [App.build_of_sections read] at refused
      cases refused
      rcases App.stage_of_ofDocument read with ⟨stage, reasons⟩
      rw [stage, reasons]
      have found := findings_of_sections read .sections
      rw [if_pos rfl] at found
      exact firstFailing_of_found [] rfl (List.forall_mem_nil _) found
        (List.cons_ne_nil _ _)
  | ok settings =>
      have sections : findings document .sections = [] :=
        findings_of_settings read .sections
      have values : findings document .values = settingsFinding settings :=
        findings_of_settings read .values
      by_cases kept : settings.violations = []
      · have noValues : findings document .values = [] := by
          rw [values, settingsFinding, kept]
          rfl
        rw [App.build_of_checked read kept] at refused
        cases compiled : Table.ofDocument document with
        | error fault =>
            rw [compiled] at refused
            cases refused
            have table : findings document .table = [fault.message] := by
              rw [findings_of_settings read, tableFinding, compiled]
              rfl
            refine firstFailing_of_found [.sections, .values] rfl ?_ table
              (List.cons_ne_nil _ _)
            simp [sections, noValues]
        | ok table =>
            have noTable : findings document .table = [] := by
              rw [findings_of_settings read, tableFinding, compiled]
              rfl
            rw [compiled] at refused
            dsimp only at refused
            split at refused
            · rename_i fault loaded
              cases refused
              have extensions : findings document .extensions =
                  [fault.message] := by
                rw [findings_of_settings read, extensionFinding_eq _ state,
                  loaded]
                rfl
              refine firstFailing_of_found [.sections, .values, .table] rfl
                ?_ extensions (List.cons_ne_nil _ _)
              simp [sections, noValues, noTable]
            · cases refused
      · rw [App.build_of_values read kept] at refused
        cases refused
        refine firstFailing_of_found [.sections] rfl ?_ values ?_
        · simp [sections]
        · exact fun none => kept (List.map_eq_nil_iff.mp none)

/-- Where an application is built, the check shows what it has. -/
theorem checkAll_of_build {app : Application}
    (built : (runAction (App.build Security.registry environment
      resolved.document) state).1 = .ok app) :
    checkAll resolved = .done (linesText (successLines resolved app)) := by
  cases read : Settings.ofDocument resolved.document with
  | error fault =>
      rw [App.build_of_sections read] at built
      cases built
  | ok settings =>
      by_cases kept : settings.violations = []
      · rw [App.build_of_checked read kept] at built
        cases compiled : Table.ofDocument resolved.document with
        | error fault =>
            rw [compiled] at built
            cases built
        | ok table =>
            rw [compiled] at built
            dsimp only at built
            split at built
            · cases built
            · rename_i extensions loaded
              cases built
              have values : settingsFinding settings = [] := by
                rw [settingsFinding, kept]
                rfl
              rw [checkAll_of_settings read, values, tableFinding, compiled,
                extensionFinding_eq _ state, loaded]
              rfl
      · rw [App.build_of_values read kept] at built
        cases built

end Building

end Checking

/--
For every document, in every environment and from every state: the check of
the document foretells the result of building an application from it.
-/
theorem check_foretells_build (resolved : Resolved)
    (environment : Environment) (state : State) :
    Foretells resolved (Command.check.run resolved)
      (runAction (App.build Security.registry environment resolved.document)
        state).1 where
  complaints := complaints_checkAll resolved
  code := by
    constructor
    · intro succeeds
      have nothing := findings_of_code_zero succeeds
      cases built : (runAction (App.build Security.registry environment
          resolved.document) state).1 with
      | error cause =>
          rcases failing_of_build built with ⟨⟨_, _, _, _, some⟩, _⟩
          exact (some (nothing _)).elim
      | ok app => exact ⟨app, rfl⟩
    · rintro ⟨app, built⟩
      rw [Command.run, checkAll_of_build built]
      rfl
  success := fun _ built => checkAll_of_build built
  failure := fun _ refused => failing_of_build refused

end Gatehouse.Cli
