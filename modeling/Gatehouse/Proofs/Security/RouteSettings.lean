import Gatehouse.Proofs.Extension.Foretold
import Gatehouse.Proofs.Security.FormTokens

/-!
# Settings of a route beside those of a section

An extension checks settings in two places: when it is built from its
section, and when it is attached to a route whose settings are set in that
section.  Main statement: for headers of responses and for rate limits both
places accept the same settings and refuse others for the same cause, and
against forged requests a route is refused whatever a section would be
refused for, with one exception.  Whether the exempt texts are patterns is
seen in a section only.
-/

namespace Gatehouse.Extension

open Gatehouse.Outcome
open Gatehouse.Route (Overrides mergeSettings)
open Gatehouse.Serve
open Gatehouse.Yaml

/-! ## Both places -/

/-- The section with the settings of a route set in it. -/
def Config.within (config : Config) (key : String) (overrides : Overrides) :
    Config :=
  { config with
    value := .mapping (mergeSettings config.value (overrides.get? key)) }

/-- A route reads what a section with its settings would be read to. -/
theorem sectionSettings_within {Settings : Type} (key : String)
    (decoder : Decoder Settings) (defaults : Settings) (config : Config)
    (overrides : Overrides) :
    sectionSettings key decoder defaults (config.within key overrides) =
      routeSettings key decoder config.value overrides := rfl

/-- Building an extension comes to what checking its section comes to. -/
theorem outcome_of_check {Checked : Type} (check : Except Fault Checked)
    (made : Extension) (state : State) :
    (runAction (do let _ ← Action.ofPure check; return made) state).1 =
      (fun _ => made) <$> check := by
  cases check <;> rfl

/--
Extensions accept the settings of a route exactly if they could be built
from the section with those settings, and refuse them for the same cause.
-/
def Registration.AsStrict (registration : Registration) : Prop :=
  ∀ config begun extension built,
    runAction (registration.construct config) begun =
      (.ok extension, built) →
    ∀ route overrides state elsewhere,
      let attached := runAction (extension.attach route overrides) state
      let constructed := runAction (registration.construct
        (config.within registration.key overrides)) elsewhere
      ((∃ layer, attached.1 = .ok layer) ↔
        ∃ other, constructed.1 = .ok other) ∧
      ∀ cause, attached.1 = .error cause ↔ constructed.1 = .error cause

/-- A registration whose two checks come to the same is as strict. -/
theorem asStrict_of_check {Checked : Type} {key : String}
    {check : Config → Except Fault Checked} {make : Config → Extension}
    (same : ∀ config route overrides state,
      SameOutcome (fun _ _ => True)
        (runAction ((make config).attach route overrides) state).1
        (check (config.within key overrides))) :
    Registration.AsStrict ⟨key, fun config => do
      let _ ← Action.ofPure (check config)
      return make config⟩ := by
  intro config begun extension built constructed route overrides state
    elsewhere
  rcases runAction_bind_eq_ok_iff.mp constructed with ⟨_, _, _, made⟩
  cases made
  have outcome := same config route overrides state
  dsimp only
  rw [outcome_of_check]
  simp only [map_eq_ok_iff, map_eq_error_iff]
  refine ⟨?_, outcome.error_iff⟩
  rw [outcome.exists_ok_iff]
  constructor
  · rintro ⟨checked, found⟩
    exact ⟨_, checked, found, rfl⟩
  · rintro ⟨_, checked, found, _⟩
    exact ⟨checked, found⟩

end Gatehouse.Extension

namespace Gatehouse.Security

open Gatehouse.Extension (Config Registration sectionSettings)
open Gatehouse.Outcome
open Gatehouse.Route (Info Overrides Pattern)
open Gatehouse.Serve
open Gatehouse.Yaml

theorem ResponseHeaders.asStrict :
    Registration.AsStrict ⟨ResponseHeaders.key, construct⟩ := by
  apply Extension.asStrict_of_check
  intro config route overrides state
  rw [Extension.sectionSettings_within]
  show SameOutcome _ (attach config.value overrides) _
  refine (SameOutcome.refl (fun _ => rfl) _).bind ?_
  rintro settings _ rfl
  refine (SameOutcome.refl (fun _ => rfl) _).bind ?_
  rintro added _ rfl
  exact .given trivial

theorem RateLimit.outcome_attach (base : Value) (route : Info)
    (overrides : Overrides) (state : State) :
    (runAction (attach base route overrides) state).1 =
      (fun _ => gate state.limiters.length) <$> settingsOf base overrides := by
  rw [attach]
  cases settingsOf base overrides <;> rfl

theorem RateLimit.asStrict :
    Registration.AsStrict ⟨RateLimit.key, construct⟩ := by
  apply Extension.asStrict_of_check
  intro config route overrides state
  rw [Extension.sectionSettings_within]
  show SameOutcome _ (runAction (attach config.value route overrides) state).1
    _
  rw [outcome_attach]
  have same : SameOutcome (fun _ _ => True)
      (settingsOf config.value overrides)
      (do
        let settings ← Extension.routeSettings key RateLimitSettings.decoder
          config.value overrides
        let _ ← settings.checked) := by
    refine (SameOutcome.refl (fun _ => rfl) _).bind ?_
    rintro settings _ rfl
    cases settings.checked with
    | error cause => exact .refused cause
    | ok settings => exact .given trivial
  exact same.change _ fun _ _ _ => trivial

/-! ## Against forged requests -/

namespace Csrf

/-- The texts that a section exempts, if it can be read, are patterns. -/
def ExemptsPatterns (config : Config) : Prop :=
  ∀ settings, sectionSettings key CsrfSettings.decoder .default config =
      .ok settings →
    ∀ text ∈ settings.exempt, ∃ pattern, Pattern.parse text = .ok pattern

theorem checkExemptions_eq_ok_iff {texts : List String} :
    checkExemptions texts = .ok () ↔
      ∀ text ∈ texts, ∃ pattern, Pattern.parse text = .ok pattern := by
  induction texts with
  | nil => simp [checkExemptions]
  | cons text rest induction =>
      rw [checkExemptions, List.forall_mem_cons, ← induction]
      cases Pattern.parse text <;> simp

theorem check_eq_ok_iff {settings : CsrfSettings} :
    check settings = .ok () ↔
      (∃ guard, guardOf settings = .ok guard) ∧
        ∀ text ∈ settings.exempt,
          ∃ pattern, Pattern.parse text = .ok pattern := by
  rw [check, bind_eq_ok_iff, checkExemptions_eq_ok_iff]
  constructor
  · rintro ⟨guard, made, patterns⟩
    exact ⟨⟨guard, made⟩, patterns⟩
  · rintro ⟨⟨guard, made⟩, patterns⟩
    exact ⟨guard, made, patterns⟩

section Routes

variable {config : Config} {route : Info} {overrides : Overrides}

/-- A section is accepted if a route is, and what it exempts are patterns. -/
theorem exists_checked_iff :
    (∃ done, sectionSettings key CsrfSettings.decoder .default
        (config.within key overrides) >>= check = .ok done) ↔
      (∃ layer, attach config.value route overrides = .ok layer) ∧
        ExemptsPatterns (config.within key overrides) := by
  constructor
  · rintro ⟨done, checked⟩
    rcases bind_eq_ok_iff.mp checked with ⟨settings, read, checked⟩
    rcases check_eq_ok_iff.mp checked with ⟨⟨guard, made⟩, patterns⟩
    refine ⟨⟨_, attach_eq_ok_iff.mpr ⟨settings, guard, read, made, rfl⟩⟩, ?_⟩
    intro other same
    obtain rfl := Except.ok.inj (read.symm.trans same)
    exact patterns
  · rintro ⟨⟨layer, attached⟩, patterns⟩
    rcases attach_eq_ok_iff.mp attached with
      ⟨settings, guard, read, made, _⟩
    have checked := check_eq_ok_iff.mpr
      ⟨⟨guard, made⟩, patterns settings read⟩
    exact ⟨(), bind_eq_ok_iff.mpr ⟨settings, read, checked⟩⟩

/-- A section is refused for whatever a route is refused for. -/
theorem refused_of_attach {cause : Extension.Fault}
    (refused : attach config.value route overrides = .error cause) :
    sectionSettings key CsrfSettings.decoder .default
      (config.within key overrides) >>= check = .error cause := by
  apply bind_eq_error_iff.mpr
  rcases bind_eq_error_iff.mp refused with unread | ⟨settings, read, refused⟩
  · exact .inl unread
  · refine .inr ⟨settings, read, bind_eq_error_iff.mpr (.inl ?_)⟩
    rcases bind_eq_error_iff.mp refused with malformed | ⟨_, _, impossible⟩
    · exact malformed
    · cases impossible

end Routes

/-- A section would be accepted if its route is and it exempts patterns. -/
theorem section_of_route {config : Config} {begun built : State}
    {extension : Extension}
    (constructed : runAction (construct config) begun =
      (.ok extension, built))
    (route : Info) (overrides : Overrides) (state elsewhere : State) :
    let attached := runAction (extension.attach route overrides) state
    let alike := runAction (construct (config.within key overrides)) elsewhere
    ((∃ other, alike.1 = .ok other) ↔
      (∃ layer, attached.1 = .ok layer) ∧
        ExemptsPatterns (config.within key overrides)) ∧
    ∀ cause, attached.1 = .error cause → alike.1 = .error cause := by
  rcases runAction_bind_eq_ok_iff.mp constructed with ⟨_, _, _, made⟩
  cases made
  dsimp only
  have outcome : (runAction (construct (config.within key overrides))
      elsewhere).1 =
        (fun _ => Csrf.extension (config.within key overrides).value) <$>
          (sectionSettings key CsrfSettings.decoder .default
            (config.within key overrides) >>= check) :=
    Extension.outcome_of_check _ _ _
  rw [outcome]
  refine ⟨?_, fun cause refused => ?_⟩
  · show _ ↔ (∃ layer, attach config.value route overrides = .ok layer) ∧ _
    rw [← exists_checked_iff]
    simp only [map_eq_ok_iff]
    constructor
    · rintro ⟨_, done, checked, _⟩
      exact ⟨done, checked⟩
    · rintro ⟨done, checked⟩
      exact ⟨_, done, checked, rfl⟩
  · rw [map_eq_error_iff]
    exact refused_of_attach refused

end Csrf

/-! ## All of them -/

/-- The extensions that routes can set differently from their sections. -/
inductive Adjustable : Registration → Prop where
  | responseHeaders :
      Adjustable ⟨ResponseHeaders.key, ResponseHeaders.construct⟩
  | rateLimit : Adjustable ⟨RateLimit.key, RateLimit.construct⟩
  | csrf : Adjustable ⟨Csrf.key, Csrf.construct⟩

/--
Whatever section an extension was built from, and whatever a route says: the
section with the settings of the route would be accepted exactly if the
route is, except that against forged requests all texts that are exempt have
to be patterns as well; and what a route is refused for, such a section is
refused for too.
-/
theorem registers_as_section {registration : Registration}
    (adjustable : Adjustable registration) {config : Config}
    {begun built : State} {extension : Extension}
    (constructed : runAction (registration.construct config) begun =
      (.ok extension, built))
    (route : Info) (overrides : Overrides) (state elsewhere : State) :
    let merged := config.within registration.key overrides
    let attached := runAction (extension.attach route overrides) state
    let alike := runAction (registration.construct merged) elsewhere
    ((∃ other, alike.1 = .ok other) ↔
      (∃ layer, attached.1 = .ok layer) ∧
        (registration.key = Csrf.key → Csrf.ExemptsPatterns merged)) ∧
    ∀ cause, attached.1 = .error cause → alike.1 = .error cause := by
  cases adjustable with
  | responseHeaders =>
      have strict := ResponseHeaders.asStrict config begun extension built
        constructed route overrides state elsewhere
      have other : ResponseHeaders.key ≠ Csrf.key := by decide
      exact ⟨strict.1.symm.trans
        (iff_self_and.mpr fun _ same => (other same).elim),
        fun cause => (strict.2 cause).mp⟩
  | rateLimit =>
      have strict := RateLimit.asStrict config begun extension built
        constructed route overrides state elsewhere
      have other : RateLimit.key ≠ Csrf.key := by decide
      exact ⟨strict.1.symm.trans
        (iff_self_and.mpr fun _ same => (other same).elim),
        fun cause => (strict.2 cause).mp⟩
  | csrf =>
      have alike := Csrf.section_of_route constructed route overrides state
        elsewhere
      exact ⟨alike.1.trans (and_congr_right fun _ =>
        ⟨fun patterns _ => patterns, fun patterns => patterns rfl⟩),
        alike.2⟩

/-- The section of an extension of which a configuration says nothing. -/
def silent (key : String) : Config :=
  ⟨key, .null⟩

/-- A section without any header. -/
def headerless : Config :=
  ⟨ResponseHeaders.key, .mapping
    [(.string "content_type_options", .null),
      (.string "frame_options", .null),
      (.string "referrer_policy", .null)]⟩

/-- Settings of a route for three extensions, two of which are malformed. -/
def overriding : Overrides :=
  .ofMapping
    [(.string ResponseHeaders.key, .mapping
        [(.string "extra", .mapping [(.string "no name", .string "x")])]),
      (.string RateLimit.key, .mapping [(.string "burst", .int 0)]),
      (.string Csrf.key, .mapping
        [(.string "exempt", .sequence [.string "/hooks/*"])])]

/-- What would be accepted or refused in a section is so for a route. -/
theorem registers_as_section_overriding :
    let page : Info := ⟨"/form", .post, .html⟩
    let start : State := .start fun _ => 0
    let headers := ResponseHeaders.extension headerless.value
    let limits := RateLimit.extension .null
    let forms := Csrf.extension .null
    runAction (ResponseHeaders.construct headerless) start =
        (.ok headers, start) ∧
      runAction (RateLimit.construct (silent RateLimit.key)) start =
        (.ok limits, start) ∧
      runAction (Csrf.construct (silent Csrf.key)) start =
        (.ok forms, start) ∧
      (¬ ∃ layer, (runAction (headers.attach page overriding) start).1 =
        .ok layer) ∧
      (¬ ∃ layer, (runAction (limits.attach page overriding) start).1 =
        .ok layer) ∧
      (∃ layer, (runAction (forms.attach page overriding) start).1 =
        .ok layer) ∧
      Csrf.ExemptsPatterns ((silent Csrf.key).within Csrf.key overriding) := by
  intro page start headers limits forms
  have asHeaders : runAction (ResponseHeaders.construct headerless) start =
      (.ok headers, start) := rfl
  have asLimits : runAction (RateLimit.construct (silent RateLimit.key))
      start = (.ok limits, start) := rfl
  have asForms : runAction (Csrf.construct (silent Csrf.key)) start =
      (.ok forms, start) := rfl
  refine ⟨asHeaders, asLimits, asForms, ?_, ?_, ?_⟩
  · intro attached
    have merged := (registers_as_section .responseHeaders asHeaders page
      overriding start start).1.mpr ⟨attached, nofun⟩
    rcases merged with ⟨_, impossible⟩
    cases impossible
  · intro attached
    have merged := (registers_as_section .rateLimit asLimits page
      overriding start start).1.mpr ⟨attached, nofun⟩
    rcases merged with ⟨_, impossible⟩
    cases impossible
  · have route := (registers_as_section .csrf asForms page overriding
      start start).1.mp ⟨_, rfl⟩
    exact ⟨route.1, route.2 rfl⟩

/-- A route exempts what is no pattern, which a section may not. -/
theorem attached_despite_exemption :
    let page : Info := ⟨"/form", .post, .html⟩
    let start : State := .start fun _ => 0
    let overrides : Overrides := .ofMapping
      [(.string Csrf.key, .mapping
        [(.string "exempt", .sequence [.string "/hooks*"])])]
    runAction (Csrf.construct (silent Csrf.key)) start =
        (.ok (Csrf.extension .null), start) ∧
      overrides.isDisabled Csrf.key = false ∧
      (Csrf.extension .null).applies page overrides = true ∧
      (∃ layer, runAction ((Csrf.extension .null).attach page overrides)
        start = (.ok layer, start)) ∧
      runAction (Csrf.construct ((silent Csrf.key).within Csrf.key
          overrides)) start =
        (.error (.invalidExemption "/hooks*" .partialWildcard), start) :=
  ⟨rfl, rfl, rfl, ⟨_, rfl⟩, rfl⟩

end Gatehouse.Security
