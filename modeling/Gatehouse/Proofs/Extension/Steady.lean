import Gatehouse.Extension.Compose
import Gatehouse.Proofs.Extension.Loading
import Gatehouse.Security.Builtin

/-!
# Extensions that do not look at the state

A steady extension accepts or refuses a route whatever has happened before.
Whether steady extensions can be composed for a route is then a property of
the route and its settings alone.  The protective extensions are steady:
only the limiters look at the state at all, and only to join those that are
in force.
-/

namespace Gatehouse.Extension

open Gatehouse.Config (Document)
open Gatehouse.Outcome
open Gatehouse.Route (Info Overrides)
open Gatehouse.Serve

/-- Whether the extension accepts a route does not depend on the state. -/
def Steady (extension : Extension) : Prop :=
  ∀ route overrides state other,
    Succeeds (extension.attach route overrides) state →
    Succeeds (extension.attach route overrides) other

theorem steady_of_pure {name : String}
    {applies : Info → Overrides → Bool}
    (attach : Info → Overrides → Except Fault Layer) :
    Steady ⟨name, applies, fun route overrides =>
      Action.ofPure (attach route overrides)⟩ := by
  intro route overrides state other succeeds
  exact succeeds_ofPure_iff.mpr (succeeds_ofPure_iff.mp succeeds)

/-! ## Composing steady extensions -/

section Composing

variable {route : Info} {overrides : Overrides}

theorem succeeds_attachAll_iff {chosen : List Instance}
    (steady : ∀ built ∈ chosen, built.extension.Steady) {state : State} :
    Succeeds (attachAll route overrides chosen) state ↔
      ∀ built ∈ chosen, ∀ other,
        Succeeds (built.extension.attach route overrides) other := by
  induction chosen generalizing state with
  | nil =>
      constructor
      · intro _ built member
        cases member
      · intro _
        exact succeeds_pure _
  | cons built rest induction =>
      rw [List.forall_mem_cons] at steady
      rcases steady with ⟨own, steady⟩
      rw [attachAll, succeeds_bind_iff, List.forall_mem_cons]
      constructor
      · rintro ⟨inner, between, attached, succeeds⟩
        rw [succeeds_bind_of_always fun _ _ => succeeds_pure _,
          succeeds_mapFailure_iff] at succeeds
        constructor
        · intro other
          exact own route overrides between other succeeds
        · exact (induction steady).mp ⟨inner, between, attached⟩
      · rintro ⟨succeeds, others⟩
        have inside : Succeeds (attachAll route overrides rest) state :=
          (induction steady).mpr others
        rcases inside with ⟨inner, between, attached⟩
        refine ⟨inner, between, attached, ?_⟩
        rw [succeeds_bind_of_always fun _ _ => succeeds_pure _,
          succeeds_mapFailure_iff]
        exact succeeds between

/-- All extensions that apply to a route accept it. -/
def Composable (extensions : List Instance) (route : Info)
    (overrides : Overrides) : Prop :=
  ∀ built ∈ applicable extensions route overrides, ∀ state,
    Succeeds (built.extension.attach route overrides) state

theorem succeeds_compose_iff {extensions : List Instance}
    (steady : ∀ built ∈ extensions, built.extension.Steady)
    {state : State} :
    Succeeds (compose extensions route overrides) state ↔
      Composable extensions route overrides := by
  rw [compose, succeeds_bind_of_always]
  · apply succeeds_attachAll_iff
    intro built member
    exact steady built (List.mem_of_mem_filter member)
  · intro layers between
    exact succeeds_bind_iff.mpr ⟨_, _, runAction_report _, succeeds_pure _⟩

end Composing

/-! ## Registries of steady extensions -/

/-- All extensions that a registration constructs are steady. -/
def Registration.Steady (registration : Registration) : Prop :=
  ∀ config before extension after,
    runAction (registration.construct config) before =
      (.ok extension, after) →
    Extension.Steady extension

/-- All registrations construct steady extensions. -/
def Registry.Steady (registry : Registry) : Prop :=
  ∀ id registration, registry.find? id = some registration →
    registration.Steady

/-- A section is checked, and then the extension is made from it. -/
theorem steady_of_check {Checked : Type} (key : String)
    (check : Config → Except Fault Checked) (make : Config → Extension)
    (each : ∀ config, (make config).Steady) :
    Registration.Steady ⟨key, fun config => do
      let _ ← Action.ofPure (check config)
      return make config⟩ := by
  intro config before extension after run
  rcases runAction_bind_eq_ok_iff.mp run with ⟨_, _, _, run⟩
  cases run
  exact each config

namespace Registry

theorem find?_insert {registry : Registry} {id other : String}
    {registration found : Registration}
    (held : (registry.insert id registration).find? other = some found) :
    found = registration ∨ registry.find? other = some found := by
  rcases registry with ⟨entries⟩
  have listed : (insertEntry id registration entries).lookup other =
      some found := held
  show found = registration ∨ entries.lookup other = some found
  clear held
  induction entries with
  | nil =>
      rw [insertEntry, List.lookup_cons] at listed
      split at listed
      · exact .inl (Option.some.inj listed).symm
      · cases listed
  | cons entry rest induction =>
      rcases entry with ⟨first, earlier⟩
      rw [insertEntry] at listed
      split at listed
      · -- The entry with the same id gives way.
        rename_i same
        subst same
        rw [List.lookup_cons] at listed ⊢
        split at listed
        · exact .inl (Option.some.inj listed).symm
        · exact .inr listed
      · split at listed
        · rw [List.lookup_cons] at listed
          split at listed
          · exact .inl (Option.some.inj listed).symm
          · exact .inr listed
        · rw [List.lookup_cons] at listed ⊢
          split at listed
          · exact .inr listed
          · exact induction listed

/-- What holds of all registrations still does behind one more of its kind. -/
theorem forall_insert {holds : Registration → Prop} {registry : Registry}
    (each : ∀ id registration, registry.find? id = some registration →
      holds registration)
    {id : String} {registration : Registration} (own : holds registration) :
    ∀ other found,
      (registry.insert id registration).find? other = some found →
      holds found := by
  intro other found held
  rcases find?_insert held with rfl | earlier
  · exact own
  · exact each other found earlier

theorem Steady.insert {registry : Registry} (steady : registry.Steady)
    {id : String} {registration : Registration}
    (own : registration.Steady) :
    (registry.insert id registration).Steady :=
  forall_insert steady own

theorem steady_empty : empty.Steady := by
  intro id registration found
  cases found

end Registry

theorem steady_of_load {registry : Registry} (steady : registry.Steady)
    {document : Document} {loaded : List Instance} {before after : State}
    (run : runAction (load registry document) before =
      (.ok loaded, after)) :
    ∀ built ∈ loaded, built.extension.Steady := by
  rcases builds_of_load run with ⟨declared, read, builds⟩
  clear run read
  induction builds with
  | nil =>
      intro built member
      cases member
  | cons first _ induction =>
      rw [List.forall_mem_cons]
      rcases first.constructed with
        ⟨registration, before, after, found, construct⟩
      exact ⟨steady _ registration found _ before _ after construct,
        induction⟩

end Gatehouse.Extension

namespace Gatehouse.Security

open Gatehouse.Extension (Config Registration)
open Gatehouse.Serve

theorem ResponseHeaders.steady :
    Registration.Steady ⟨ResponseHeaders.key, construct⟩ :=
  Extension.steady_of_check _ _ _ fun _ => Extension.steady_of_pure _

theorem Csrf.steady : Registration.Steady ⟨Csrf.key, construct⟩ :=
  Extension.steady_of_check _ _ _ fun _ => Extension.steady_of_pure _

theorem Auth.steady : Registration.Steady ⟨Auth.key, construct⟩ := by
  intro config before extension after run
  rcases runAction_bind_eq_ok_iff.mp run with ⟨settings, _, _, run⟩
  have made : extension = Auth.extension settings := by
    split at run
    · rw [runAction_bind_of_ok (runAction_report _)] at run
      cases run
      rfl
    · cases run
      rfl
  rw [made]
  exact Extension.steady_of_pure _

theorem RateLimit.succeeds_attach_iff {base : Yaml.Value}
    {route : Route.Info} {overrides : Route.Overrides} {state : State} :
    Succeeds (attach base route overrides) state ↔
      ∃ settings, settingsOf base overrides = .ok settings := by
  rw [attach, succeeds_bind_of_always, succeeds_ofPure_iff]
  intro settings between
  exact ⟨_, _, rfl⟩

theorem RateLimit.steady :
    Registration.Steady ⟨RateLimit.key, construct⟩ := by
  apply Extension.steady_of_check
  intro config route overrides state other succeeds
  exact succeeds_attach_iff.mpr (succeeds_attach_iff.mp succeeds)

/-- The protective extensions are steady. -/
theorem registry_steady : registry.Steady :=
  (((Extension.Registry.steady_empty.insert ResponseHeaders.steady).insert
    RateLimit.steady).insert Csrf.steady).insert Auth.steady

end Gatehouse.Security
