import Gatehouse.Proofs.Extension.Composition
import Gatehouse.Proofs.Security.Bearer

/-!
# Routes that opt out of protection

Where all routes are protected, a route is public only if its settings say
so.  Two ways of saying it switch any extension off: `false`, and a mapping
with `enabled: false`.  But a mapping that can be read also opts out if it
says `required: false`, or one of the two behind a tag.  Any other settings,
those that cannot be read among them, lead to a gate or to a refusal to
register the route.
-/

namespace Gatehouse.Security.Auth

open Gatehouse.Extension (Composed Config Fault Instance)
open Gatehouse.Http
open Gatehouse.Outcome
open Gatehouse.Route (Info Overrides)
open Gatehouse.Serve
open Gatehouse.Yaml

/-! ## What a mapping says about protection -/

/-- An entry says, with tags or without, that there is no protection. -/
def Waives (entry : Value × Value) : Prop :=
  (entry.1.untagged = .string "enabled" ∨
      entry.1.untagged = .string "required") ∧
    entry.2.untagged = .bool false

theorem isRequired_eq_false_iff {settings : RouteAuth} :
    settings.isRequired = false ↔
      settings.enabled = some false ∨ settings.required = some false := by
  have flag (given : Option Bool) :
      given.getD true = false ↔ given = some false := by
    cases given <;> simp
  rw [RouteAuth.isRequired, Bool.and_eq_false_iff, flag, flag]

theorem optional_bool_eq_false_iff {value : Value} {flag : Option Bool}
    (read : Decode.optional Decode.bool value = .ok flag) :
    flag = some false ↔ value.untagged = .bool false := by
  unfold Decode.optional at read
  split at read
  · cases read
    simp [Value.untagged]
  · rcases map_eq_ok_iff.mp read with ⟨found, decoded, rfl⟩
    unfold Decode.bool at decoded
    split at decoded
    · rename_i same
      cases decoded
      rw [same]
      simp
    · cases decoded

/-- What is read into a record says of protection what the entries say. -/
theorem isRequired_of_readFields {found : Mapping} {seen : List String}
    {settings result : RouteAuth}
    (read : Decode.readFields RouteAuth.fields true found seen settings =
      .ok result)
    (enabledOpen : "enabled" ∉ seen → settings.enabled = none)
    (requiredOpen : "required" ∉ seen → settings.required = none) :
    result.isRequired = false ↔
      settings.isRequired = false ∨ ∃ entry ∈ found, Waives entry := by
  induction found generalizing seen settings with
  | nil =>
      cases read
      simp
  | cons entry rest induction =>
      rcases entry with ⟨name, value⟩
      rcases Decode.readFields_cons_ok read with
        ⟨field, member, next, label, fresh, applied, behind⟩
      have others := induction behind
      rw [List.exists_mem_cons_iff, ← or_assoc]
      simp only [RouteAuth.fields, List.mem_cons, List.not_mem_nil,
        or_false] at member
      rcases member with rfl | rfl | rfl
      all_goals
        rcases map_eq_ok_iff.mp applied with ⟨given, decoded, rfl⟩
        simp only [Decode.Field.of] at label fresh others
      case inl =>
        have reads := optional_bool_eq_false_iff decoded
        rw [others (by simp) (by simpa using requiredOpen),
          isRequired_eq_false_iff, isRequired_eq_false_iff,
          enabledOpen fresh, Waives, label]
        simp [reads, or_comm]
      case inr.inl =>
        have reads := optional_bool_eq_false_iff decoded
        rw [others (by simpa using enabledOpen) (by simp),
          isRequired_eq_false_iff, isRequired_eq_false_iff,
          requiredOpen fresh, Waives, label]
        simp [reads]
      case inr.inr =>
        rw [others (by simpa using enabledOpen) (by simpa using requiredOpen),
          isRequired_eq_false_iff, isRequired_eq_false_iff, Waives, label]
        simp

theorem isRequired_of_decoder {entries : Mapping} {route : RouteAuth}
    (read : RouteAuth.decoder (.mapping entries) = .ok route) :
    route.isRequired = false ↔ ∃ entry ∈ entries, Waives entry := by
  have fields : Decode.readFields RouteAuth.fields true entries []
      ⟨none, none, []⟩ = .ok route := read
  rw [isRequired_of_readFields fields (fun _ => rfl) (fun _ => rfl)]
  simp [RouteAuth.isRequired]

/-! ## Which routes are public -/

/-- A setting that switches any extension off. -/
theorem isDisabled_iff {overrides : Overrides} {name : String} :
    overrides.isDisabled name = true ↔
      overrides.get? name = some (.bool false) ∨
      ∃ entries, overrides.get? name = some (.mapping entries) ∧
        Mapping.get? entries "enabled" = some (.bool false) := by
  unfold Overrides.isDisabled
  split
  · rename_i given
    simp [given]
  · rename_i entries given
    split
    · rename_i off
      simp [given, off]
    · rename_i silent
      simp only [given, Bool.false_eq_true, false_iff]
      rintro (flag | ⟨_, same, off⟩)
      · cases flag
      · cases same
        exact silent off
  · rename_i notFlag notMapping
    simp only [Bool.false_eq_true, false_iff]
    rintro (flag | ⟨entries, given, _⟩)
    · exact notFlag flag
    · exact notMapping entries given

/-- The settings of a route that leave it public where others are not. -/
inductive OptsOut (overrides : Overrides) : Prop where
  | flag (given : overrides.get? key = some (.bool false))
  | disabled {entries : Mapping}
      (given : overrides.get? key = some (.mapping entries))
      (off : Mapping.get? entries "enabled" = some (.bool false))
  /-- A mapping that can be read, and an entry of it takes protection back. -/
  | waived {entries : Mapping} {route : RouteAuth} {entry : Value × Value}
      (given : overrides.get? key = some (.mapping entries))
      (read : RouteAuth.decoder (.mapping entries) = .ok route)
      (member : entry ∈ entries) (waives : Waives entry)

theorem optsOut_of_isDisabled {overrides : Overrides}
    (disabled : overrides.isDisabled key = true) : OptsOut overrides := by
  rcases isDisabled_iff.mp disabled with given | ⟨entries, given, off⟩
  · exact .flag given
  · exact .disabled given off

/-- A route is public if reading its settings comes to that result. -/
theorem applies_eq_false_iff {settings : AuthSettings}
    {overrides : Overrides} :
    applies settings overrides = false ↔
      requirement settings overrides = .ok none := by
  rw [applies]
  rcases requirement settings overrides with cause | names
  · simp
  · cases names <;> simp

/-- Whoever opts out is heard, whether all routes are protected or not. -/
theorem OptsOut.requirement_eq {overrides : Overrides}
    (optsOut : OptsOut overrides) (settings : AuthSettings) :
    requirement settings overrides = .ok none := by
  rw [requirement]
  by_cases disabled : overrides.isDisabled key = true
  · rw [if_pos disabled]
  · rw [if_neg disabled]
    cases optsOut with
    | flag given => exact absurd (isDisabled_iff.mpr (.inl given)) disabled
    | disabled given off =>
        exact absurd (isDisabled_iff.mpr (.inr ⟨_, given, off⟩)) disabled
    | waived given read member waives =>
        have required := (isRequired_of_decoder read).mpr
          ⟨_, member, waives⟩
        rw [given]
        dsimp only
        rw [read]
        dsimp only
        rw [required, if_neg Bool.false_ne_true]

/-- Where all routes are protected, nothing else makes a route public. -/
theorem optsOut_of_requirement {settings : AuthSettings}
    {overrides : Overrides} (all : settings.requireAll = true)
    (isPublic : requirement settings overrides = .ok none) :
    OptsOut overrides := by
  unfold requirement at isPublic
  rw [all, if_pos rfl] at isPublic
  split at isPublic
  case isTrue disabled => exact optsOut_of_isDisabled disabled
  case isFalse enabled =>
    split at isPublic
    case h_1 => cases isPublic
    case h_2 => cases isPublic
    case h_3 required given =>
      cases required with
      | false => exact .flag given
      | true => cases isPublic
    case h_4 entries given =>
      split at isPublic
      case h_1 route read =>
        cases required : route.isRequired with
        | true =>
            rw [required] at isPublic
            cases isPublic
        | false =>
            rcases (isRequired_of_decoder read).mp required with
              ⟨entry, member, waives⟩
            exact .waived given read member waives
      case h_2 => cases isPublic
    case h_5 => cases isPublic

/-! ## Guarded routes -/

/-- A route with a layer that protects it with the tokens that it lists. -/
def Guarded (settings : AuthSettings) (route : Info) (overrides : Overrides)
    (composed : Composed) : Prop :=
  ∃ layer ∈ composed.layers, ∃ allow, AllowList overrides allow ∧
    (∀ name ∈ allow, name ∈ settings.tokens.map Prod.fst) ∧
    Protects layer settings allow route.path

/--
Wherever all routes are to be protected: exactly the routes that opt out are
public, and any other one is registered with a gate or not at all.
-/
theorem guarded_unless_optsOut {config : Config} {begun built : State}
    {extension : Extension}
    (constructed : runAction (construct config) begun =
      (.ok extension, built))
    {settings : AuthSettings}
    (read : Extension.sectionSettings key AuthSettings.decoder .default
      config = .ok settings)
    (all : settings.requireAll = true) (route : Info)
    (overrides : Overrides) :
    (extension.applies route overrides = false ↔ OptsOut overrides) ∧
      (¬ OptsOut overrides →
        ∀ (extensions : List Instance) (own : Instance),
          own ∈ extensions → own.extension = extension →
          ∀ composed before after,
            runAction (Extension.compose extensions route overrides)
              before = (.ok composed, after) →
            Guarded settings route overrides composed) := by
  have applied : extension.applies route overrides = false ↔
      OptsOut overrides := by
    rcases construct_ok constructed with ⟨found, same, _, rfl⟩
    obtain rfl := Except.ok.inj (same.symm.trans read)
    exact applies_eq_false_iff.trans
      ⟨optsOut_of_requirement all, fun optsOut => optsOut.requirement_eq _⟩
  refine ⟨applied, ?_⟩
  rintro demands extensions own member rfl composed before after composes
  have guarded : own.extension.applies route overrides = true := by
    rw [← Bool.not_eq_false, applied]
    exact demands
  rcases Extension.compose_ok composes with
    ⟨pairs, attached, chosen, attaches, rfl, _⟩
  have present : own ∈ pairs.map Prod.fst := by
    rw [chosen]
    exact List.mem_filter.mpr ⟨member, guarded⟩
  rcases List.mem_map.mp present with ⟨⟨_, layer⟩, paired, rfl⟩
  rcases attaches.exists_run (List.mem_reverse.mpr paired) with
    ⟨_, _, attach⟩
  rcases protects_of_attach constructed guarded attach with
    ⟨found, allow, same, _, lists, known, protects⟩
  obtain rfl := Except.ok.inj (same.symm.trans read)
  exact ⟨layer, List.mem_map.mpr ⟨_, paired, rfl⟩, allow, lists, known,
    protects⟩

/-- One token, and all routes are to be protected. -/
def strictConfig : Config :=
  ⟨key, .mapping [(.string "tokens", .mapping
      [(.string "deploy", .string "d-secret")]),
    (.string "require_all", .bool true)]⟩

def strictSettings : AuthSettings :=
  ⟨[("deploy", "d-secret")], true, "trellis"⟩

theorem construct_strictConfig :
    runAction (construct strictConfig) (.start fun _ => 0) =
      (.ok (extension strictSettings), .start fun _ => 0) := by
  cbv

theorem read_strictConfig :
    Extension.sectionSettings key AuthSettings.decoder .default
      strictConfig = .ok strictSettings := by
  cbv

/-- A page that says nothing of protection is guarded. -/
theorem guarded_of_silence :
    let page : Info := ⟨"/report", .get, .html⟩
    let overrides : Overrides := .ofMapping []
    runAction (construct strictConfig) (.start fun _ => 0) =
        (.ok (extension strictSettings), .start fun _ => 0) ∧
      Extension.sectionSettings key AuthSettings.decoder .default
        strictConfig = .ok strictSettings ∧
      strictSettings.requireAll = true ∧
      ¬ OptsOut overrides ∧
      ∃ composed after,
        runAction (Extension.compose
            [⟨key, strictConfig, extension strictSettings⟩] page overrides)
          (.start fun _ => 0) = (.ok composed, after) ∧
        Guarded strictSettings page overrides composed := by
  intro page overrides
  have demands : ¬ OptsOut overrides := by
    intro optsOut
    cases optsOut with
    | flag given => cases given
    | disabled given => cases given
    | waived given => cases given
  let own : Instance := ⟨key, strictConfig, extension strictSettings⟩
  have guarded := (guarded_unless_optsOut construct_strictConfig
    read_strictConfig rfl page overrides).2 demands [own] own
    (List.mem_singleton_self own) rfl
  exact ⟨construct_strictConfig, read_strictConfig, rfl, demands, _, _, rfl,
    guarded _ (.start fun _ => 0) _ rfl⟩

/-- A page is public because a mapping with nothing off waives protection. -/
theorem public_if_not_required :
    let page : Info := ⟨"/report", .get, .html⟩
    let overrides : Overrides :=
      .ofMapping [(.string key, .mapping [(.string "required", .bool false)])]
    runAction (construct strictConfig) (.start fun _ => 0) =
        (.ok (extension strictSettings), .start fun _ => 0) ∧
      strictSettings.requireAll = true ∧
      overrides.isDisabled key = false ∧
      (extension strictSettings).applies page overrides = false ∧
      ∃ after,
        runAction (Extension.compose
            [⟨key, strictConfig, extension strictSettings⟩] page overrides)
          (.start fun _ => 0) = (.ok ⟨[], []⟩, after) :=
  ⟨construct_strictConfig, rfl, rfl, rfl, _, rfl⟩

end Gatehouse.Security.Auth
