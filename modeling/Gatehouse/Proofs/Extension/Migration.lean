import Gatehouse.Proofs.Config.Entries
import Gatehouse.Proofs.Extension.Foretold
import Gatehouse.Proofs.Extension.InOrder
import Gatehouse.Proofs.Yaml.Overlays

/-!
# From the older form of a declaration to the list

A document that gives sections together with the ids can be written with a
list of the ids and the sections at the top level.  The main statement is
that loading the one document is loading the other behind the warning about
the older form: the same constructors are called in the same states with the
same sections, and what comes of it is the same.  A constructor cannot see
what has been reported, so the warning makes no difference to it; with that
said of the registry, both loads agree from every state.
-/

namespace Gatehouse.Serve

open Gatehouse.Outcome

variable {Failure Other Result Next : Type}

/-! ## Actions that do not look at the reports -/

/-- The state without its reports. -/
def State.silent (state : State) : State :=
  { state with reported := [] }

@[simp]
theorem State.silent_reporting (state : State) (event : Event) :
    (state.reporting event).silent = state.silent := rfl

/-- Two runs give the same and leave states that differ in reports only. -/
def SameRun (run other : Except Failure Result × State) : Prop :=
  run.1 = other.1 ∧ run.2.silent = other.2.silent

/-- What an action does is the same whatever has been reported. -/
def Blind (action : Action Failure Result) : Prop :=
  ∀ state other, state.silent = other.silent →
    SameRun (runAction action state) (runAction action other)

namespace Blind

theorem pure (result : Result) :
    Blind (pure result : Action Failure Result) :=
  fun _ _ same => ⟨rfl, same⟩

theorem throw (cause : Failure) :
    Blind (throw cause : Action Failure Result) :=
  fun _ _ same => ⟨rfl, same⟩

theorem ofPure (result : Except Failure Result) :
    Blind (Action.ofPure result) :=
  fun _ _ same => ⟨rfl, same⟩

theorem report (event : Event) :
    Blind (Action.report event : Action Failure Unit) :=
  fun _ _ same => ⟨rfl, same⟩

theorem mapFailure {action : Action Failure Result}
    (blind : Blind action) (read : Failure → Other) :
    Blind (Action.mapFailure read action) := by
  intro state other same
  rcases blind state other same with ⟨outcome, left⟩
  exact ⟨congrArg (Except.mapError read) outcome, left⟩

theorem bind {action : Action Failure Result}
    {next : Result → Action Failure Next} (blind : Blind action)
    (each : ∀ result, Blind (next result)) :
    Blind (action >>= next) := by
  intro state other same
  have first := blind state other same
  rcases run : runAction action state with ⟨outcome, after⟩
  rcases again : runAction action other with ⟨outcome', behind⟩
  rw [run, again] at first
  rcases first with ⟨rfl, left⟩
  cases outcome with
  | error cause =>
      rw [runAction_bind_of_error run, runAction_bind_of_error again]
      exact ⟨rfl, left⟩
  | ok result =>
      rw [runAction_bind_of_ok run, runAction_bind_of_ok again]
      exact each result after behind left

end Blind

end Gatehouse.Serve

namespace Gatehouse.Extension

open Gatehouse.Config (Document)
open Gatehouse.Outcome
open Gatehouse.Serve
open Gatehouse.Yaml

/-- No constructor of a registry looks at the reports. -/
def Registry.Blind (registry : Registry) : Prop :=
  ∀ id registration, registry.find? id = some registration →
    ∀ config, Serve.Blind (registration.construct config)

section Blindness

variable {registry : Registry} {document : Document}

theorem blind_declarations : Serve.Blind (declarations document) := by
  rw [declarations]
  dsimp only
  split
  · exact (Blind.report _).bind fun _ => .ofPure _
  · exact .ofPure _

theorem blind_build (blind : registry.Blind) (declaration : Declaration) :
    Serve.Blind (build registry document declaration) := by
  rw [build]
  split
  · rename_i registration found
    refine (Blind.ofPure _).bind fun config => ?_
    have construct := blind _ _ found config
    exact (construct.mapFailure _).bind fun _ =>
      (Blind.report _).bind fun _ => .pure _
  · exact .throw _

theorem blind_buildAll (blind : registry.Blind)
    (declared : List Declaration) (seen : List String) :
    Serve.Blind (buildAll registry document seen declared) := by
  induction declared generalizing seen with
  | nil => exact .pure _
  | cons declaration rest induction =>
      rw [buildAll]
      split
      · exact .throw _
      · exact (blind_build blind declaration).bind fun _ =>
          (induction _).bind fun _ => .pure _

theorem blind_load (blind : registry.Blind) :
    Serve.Blind (load registry document) :=
  blind_declarations.bind fun declared =>
    (blind_buildAll blind declared []).bind fun _ =>
      (Blind.report _).bind fun _ => .pure _

end Blindness

/-! ## Writing a declaration anew -/

/-- An entry of a declaration in the older form, with its registration. -/
structure Inline where
  name : String
  value : Value
  registration : Registration

/-- The registered section of the entry. -/
def Inline.key (inline : Inline) : String :=
  inline.registration.key

/--
A document declares extensions in the older form, and the sections of these
extensions are free: no two of them are the same, none is the key of the
declaration, and none is at the top of the document.
-/
structure Migratable (registry : Registry) (document : Document)
    (inlines : List Inline) : Prop where
  declared : document.get? Declaration.key =
    some (.recordOf (inlines.map fun inline => (inline.name, inline.value)))
  spoken : ∀ inline ∈ inlines, Text.trimmed inline.name ≠ ""
  registered : ∀ inline ∈ inlines,
    registry.find? (Text.trimmed inline.name) = some inline.registration
  distinct : (inlines.map Inline.key).Nodup
  apart : Declaration.key ∉ inlines.map Inline.key
  absent : ∀ inline ∈ inlines, document.get? inline.key = none

/--
Another document lists the names, has every section that is not null at the
top level, and has everything else as before.
-/
structure Migrates (document other : Document) (inlines : List Inline) :
    Prop where
  listed : other.get? Declaration.key =
    some (.texts (inlines.map Inline.name))
  moved : ∀ inline ∈ inlines, other.get? inline.key = given? inline.value
  kept : ∀ key, key ≠ Declaration.key → key ∉ inlines.map Inline.key →
    other.get? key = document.get? key

/-- The settings that the moved sections become. -/
def movedEntries (origin : String) (inlines : List Inline) :
    List Config.Entry :=
  inlines.filterMap fun inline =>
    (given? inline.value).map fun value => ⟨inline.key, value, origin⟩

/-- The document with its declaration written anew. -/
def migrated (document : Document) (origin : String)
    (inlines : List Inline) : Document where
  values :=
    Mapping.put document.values (.string Declaration.key)
        (.texts (inlines.map Inline.name)) ++
      Config.valuesOf (movedEntries origin inlines)
  origins :=
    document.origins ++ Config.originsOf (movedEntries origin inlines)

section Migrating

variable {registry : Registry} {document other : Document}
  {inlines : List Inline} {origin : String}

/-- A document that is written anew has its settings and those moved. -/
theorem get?_migrated (key : String) :
    (migrated document origin inlines).get? key =
      (if key = Declaration.key then
          some (.texts (inlines.map Inline.name))
        else document.get? key).or
      (((movedEntries origin inlines).find? (·.key == key)).map
        (·.value)) := by
  have moved :=
    Config.get?_valuesOf (movedEntries origin inlines) key
  rw [Document.get?, migrated, Mapping.get?, Mapping.find?_append,
    Mapping.find?_put]
  rw [Mapping.get?, Config.entryOf?] at moved
  simp only [moved, Value.sameKey, beq_iff_eq, @eq_comm _ Declaration.key]
  rfl

theorem find?_movedEntries_of_not_mem {key : String}
    (elsewhere : key ∉ inlines.map Inline.key) :
    (movedEntries origin inlines).find? (·.key == key) = none := by
  rw [List.find?_eq_none]
  intro entry member
  rcases List.mem_filterMap.mp member with ⟨inline, listed, moved⟩
  rcases Option.map_eq_some_iff.mp moved with ⟨value, _, rfl⟩
  intro same
  exact elsewhere (List.mem_map.mpr ⟨inline, listed, beq_iff_eq.mp same⟩)

/-- Where sections are distinct, each of them is found among those moved. -/
theorem find?_movedEntries_of_mem {inline : Inline}
    (distinct : (inlines.map Inline.key).Nodup) (member : inline ∈ inlines) :
    ((movedEntries origin inlines).find? (·.key == inline.key)).map
      (·.value) = given? inline.value := by
  induction inlines with
  | nil => cases member
  | cons first rest induction =>
      rw [List.map_cons, List.nodup_cons] at distinct
      rcases List.mem_cons.mp member with rfl | later
      · rw [movedEntries, List.filterMap_cons]
        cases given? inline.value with
        | none =>
            exact congrArg (Option.map _)
              (find?_movedEntries_of_not_mem distinct.1)
        | some value => simp
      · have differs : first.key ≠ inline.key := fun same =>
          distinct.1 (List.mem_map.mpr ⟨inline, later, same.symm⟩)
        rw [← induction distinct.2 later, movedEntries, List.filterMap_cons]
        cases given? first.value with
        | none => rfl
        | some value => simp [movedEntries, differs]

/-- A document that is written anew is what the migration asks for. -/
theorem migrates_migrated
    (migratable : Migratable registry document inlines) (origin : String) :
    Migrates document (migrated document origin inlines) inlines where
  listed := by
    rw [get?_migrated, if_pos rfl]
    rfl
  moved := by
    intro inline member
    have differs : inline.key ≠ Declaration.key := fun same =>
      migratable.apart (same ▸ List.mem_map_of_mem member)
    rw [get?_migrated, if_neg differs, migratable.absent inline member,
      Option.none_or, find?_movedEntries_of_mem migratable.distinct member]
  kept := by
    intro key other elsewhere
    rw [get?_migrated, find?_movedEntries_of_not_mem elsewhere,
      Option.map_none, Option.or_none, if_neg other]

/-! ## Loading -/

/-- The section of a moved entry is chosen from the top as it was before. -/
theorem chooseSection_of_migrates
    (migratable : Migratable registry document inlines)
    (migrates : Migrates document other inlines)
    {inline : Inline} (member : inline ∈ inlines) (id : String) :
    chooseSection document ⟨id, given? inline.value⟩ inline.key =
      chooseSection other ⟨id, none⟩ inline.key := by
  have absent := migratable.absent inline member
  have before : ¬ GivenTwice document ⟨id, given? inline.value⟩
      inline.key := by
    rintro ⟨⟨value, present⟩, _⟩
    cases absent.symm.trans present
  have behind : ¬ GivenTwice other ⟨id, none⟩ inline.key := by
    rintro ⟨_, value, given⟩
    cases given
  have same : chosen document ⟨id, given? inline.value⟩ inline.key =
      chosen other ⟨id, none⟩ inline.key := by
    rw [chosen, chosen, absent, migrates.moved inline member,
      Option.none_or, Option.or_none]
  rw [chooseSection_of_once before, chooseSection_of_once behind, same]

theorem build_of_migrates
    (migratable : Migratable registry document inlines)
    (migrates : Migrates document other inlines)
    {inline : Inline} (member : inline ∈ inlines) :
    build registry document
        ⟨Text.trimmed inline.name, given? inline.value⟩ =
      build registry other ⟨Text.trimmed inline.name, none⟩ := by
  have choose := chooseSection_of_migrates migratable migrates member
    (Text.trimmed inline.name)
  rw [Inline.key] at choose
  rw [build, build, migratable.registered inline member]
  dsimp only
  rw [choose]

/-- Declarations that are built alike one by one are built alike together. -/
theorem buildAll_map_congr {Item : Type} {items : List Item}
    {declare again : Item → Declaration}
    (same : ∀ item ∈ items, (declare item).id = (again item).id)
    (each : ∀ item ∈ items, build registry document (declare item) =
      build registry other (again item)) (seen : List String) :
    buildAll registry document seen (items.map declare) =
      buildAll registry other seen (items.map again) := by
  induction items generalizing seen with
  | nil => rfl
  | cons item rest induction =>
      rw [List.forall_mem_cons] at same each
      rw [List.map_cons, List.map_cons, buildAll, buildAll, same.1, each.1]
      simp only [induction same.2 each.2]

theorem buildAll_of_migrates
    (migratable : Migratable registry document inlines)
    (migrates : Migrates document other inlines) :
    buildAll registry document [] (inlines.map fun inline =>
        ⟨Text.trimmed inline.name, given? inline.value⟩) =
      buildAll registry other [] (inlines.map fun inline =>
        ⟨Text.trimmed inline.name, none⟩) := by
  apply buildAll_map_congr
  · exact fun _ _ => rfl
  · exact fun _ member => build_of_migrates migratable migrates member

/--
Loading a document with the older form of a declaration is loading any
document that it migrates to, behind the warning about the older form.  If
no constructor looks at the reports, then both loads agree from every state:
they give the same extensions or fail with the same cause, and what they
leave behind differs in the reports only.
-/
theorem load_of_migrates
    (migratable : Migratable registry document inlines)
    (migrates : Migrates document other inlines) :
    (∀ before, runAction (load registry document) before =
      runAction (load registry other) (before.reporting oldFormEvent)) ∧
    (registry.Blind → ∀ before,
      SameRun (runAction (load registry document) before)
        (runAction (load registry other) before)) := by
  have spoken : ∀ name ∈ inlines.map Inline.name,
      Text.trimmed name ≠ "" := by
    simpa using migratable.spoken
  have older := Declares.mapped
    (inlines.map fun inline => (inline.name, inline.value))
  have listed := Declares.listed spoken
  rw [← migratable.declared] at older
  rw [← migrates.listed] at listed
  have behind : ∀ before, runAction (load registry document) before =
      runAction (load registry other) (before.reporting oldFormEvent) := by
    intro before
    have warning : warned document before =
        before.reporting oldFormEvent := by
      rw [warned, migratable.declared]
      rfl
    have silence : warned other (before.reporting oldFormEvent) =
        before.reporting oldFormEvent := by
      rw [warned, migrates.listed]
      rfl
    rw [runAction_load_of_declares older, runAction_load_of_declares listed,
      warning, silence]
    simp only [List.map_map, Function.comp_def,
      buildAll_of_migrates migratable migrates]
  refine ⟨behind, fun blind before => ?_⟩
  rw [behind before]
  exact blind_load blind _ _ (State.silent_reporting before oldFormEvent)

end Migrating

namespace Registry

theorem blind_empty : empty.Blind := by
  intro id registration found
  cases found

theorem Blind.insert {registry : Registry} (blind : registry.Blind)
    {id : String} {registration : Registration}
    (own : ∀ config, Serve.Blind (registration.construct config)) :
    (registry.insert id registration).Blind :=
  forall_insert blind own

end Registry

/-- A section is checked, and then the extension is made from it. -/
theorem blind_of_check {Checked : Type}
    (check : Config → Except Fault Checked) (make : Config → Extension)
    (config : Config) :
    Serve.Blind (do
      let _ ← Action.ofPure (check config)
      return make config) :=
  (Blind.ofPure _).bind fun _ => .pure _

end Gatehouse.Extension

namespace Gatehouse.Security

open Gatehouse.Extension
open Gatehouse.Serve
open Gatehouse.Yaml (Value)

theorem Auth.blind (config : Config) : Blind (Auth.construct config) := by
  refine (Blind.ofPure _).bind fun settings => ?_
  split
  · exact (Blind.report _).bind fun _ => .pure _
  · exact .pure _

/-- No protective extension looks at the reports when it is built. -/
theorem registry_blind : registry.Blind :=
  (((Registry.blind_empty.insert (blind_of_check _ _)).insert
    (blind_of_check _ _)).insert (blind_of_check _ _)).insert Auth.blind

/-- A section for form tokens and none for tokens of bearers. -/
def olderDeclaration : List Inline :=
  [⟨"csrf", .recordOf [("protect_api", .bool true)],
      ⟨Csrf.key, Csrf.construct⟩⟩,
    ⟨"auth", .null, ⟨Auth.key, Auth.construct⟩⟩]

/-- A document with nothing but that declaration. -/
def olderDocument : Gatehouse.Config.Document :=
  .ofEntries [⟨Declaration.key, .recordOf (olderDeclaration.map fun inline =>
    (inline.name, inline.value)), "app.yaml"⟩]

theorem load_of_migrates_older :
    Migratable registry olderDocument olderDeclaration ∧
      Migrates olderDocument
        (migrated olderDocument "app.yaml" olderDeclaration)
        olderDeclaration ∧
      SameRun
        (runAction (load registry olderDocument) (.start fun _ => 0))
        (runAction (load registry
          (migrated olderDocument "app.yaml" olderDeclaration))
          (.start fun _ => 0)) := by
  have migratable : Migratable registry olderDocument olderDeclaration := {
    declared := rfl
    spoken := by
      simp only [olderDeclaration, List.forall_mem_cons]
      exact ⟨by decide, by decide, by simp⟩
    registered := by
      simp only [olderDeclaration, List.forall_mem_cons]
      exact ⟨rfl, rfl, by simp⟩
    distinct := by decide
    apart := by decide
    absent := by
      simp only [olderDeclaration, List.forall_mem_cons]
      exact ⟨rfl, rfl, by simp⟩ }
  have migrates := migrates_migrated migratable "app.yaml"
  exact ⟨migratable, migrates, (load_of_migrates migratable migrates).2
    registry_blind (.start fun _ => 0)⟩

end Gatehouse.Security
