import Gatehouse.Proofs.Security.FormTokens
import Gatehouse.Proofs.Security.OptOut

/-!
# Pages without a guard against forged requests

Whether a route is guarded is asked before its settings are checked, so
settings that cannot be used have to lead to a refusal and never to a page
without a guard.  The main statement lists the exemptions: a route that is
switched off, a route that serves data where these are not guarded, and a
path that a readable pattern exempts.  A route that is exempt is composed as
if there were no such extension; any other one gets the guard of its merged
settings or is not composed.  What an exempt route says besides is not looked
at, so it can be exempt with names that no guard could have.
-/

namespace Gatehouse.Security.Csrf

open Gatehouse.Extension (Composed Config Instance compose_without
  exists_layer_of_compose)
open Gatehouse.Outcome
open Gatehouse.Route (Info Overrides Pattern mergeSettings)
open Gatehouse.Serve
open Gatehouse.Yaml

/-! ## Exempt routes -/

/-- The section with the mapping of a route laid over it reads as settings. -/
def Merged (base : Value) (overrides : Overrides)
    (settings : CsrfSettings) : Prop :=
  CsrfSettings.decoder (.mapping (mergeSettings base (overrides.get? key))) =
    .ok settings

/-- A route says that it is not guarded. -/
inductive SwitchedOff (overrides : Overrides) : Prop where
  | flag (given : overrides.get? key = some (.bool false))
  | mapping {entries : Mapping}
      (given : overrides.get? key = some (.mapping entries))
      (off : Mapping.get? entries "enabled" = some (.bool false))

/-- A route is not to be guarded. -/
inductive Exempt (base : Value) (route : Info) (overrides : Overrides) :
    Prop where
  | switchedOff (off : SwitchedOff overrides)
  | data {settings : CsrfSettings} (merged : Merged base overrides settings)
      (kind : route.kind = .api) (unprotected : settings.protectApi = false)
  | listed {settings : CsrfSettings} {text : String} {pattern : Pattern}
      (merged : Merged base overrides settings)
      (member : text ∈ settings.exempt)
      (parses : Pattern.parse text = .ok pattern)
      (matched : pattern.matches route.path = true)

/-- No guard can be made from the merged settings. -/
inductive Malformed (base : Value) (overrides : Overrides) : Prop where
  | unreadable (unread : ∀ settings, ¬ Merged base overrides settings)
  | misnamed {settings : CsrfSettings}
      (merged : Merged base overrides settings)
      (refused : ∀ guard, guardOf settings ≠ .ok guard)

section Deciding

variable {base : Value} {route : Info} {overrides : Overrides}
  {settings : CsrfSettings}

theorem settingsOf_eq_ok_iff :
    settingsOf base overrides = .ok settings ↔
      Merged base overrides settings :=
  mapError_eq_ok_iff

theorem Merged.unique {other : CsrfSettings}
    (merged : Merged base overrides settings)
    (again : Merged base overrides other) : settings = other :=
  Except.ok.inj (merged.symm.trans again)

theorem isDisabled_iff_switchedOff :
    overrides.isDisabled key = true ↔ SwitchedOff overrides := by
  rw [Auth.isDisabled_iff]
  constructor
  · rintro (given | ⟨entries, given, off⟩)
    · exact .flag given
    · exact .mapping given off
  · intro off
    cases off with
    | flag given => exact .inl given
    | mapping given off => exact .inr ⟨_, given, off⟩

theorem exempts_eq_true_iff {path : String} :
    settings.exempts path = true ↔
      ∃ text ∈ settings.exempt, ∃ pattern,
        Pattern.parse text = .ok pattern ∧ pattern.matches path = true := by
  rw [CsrfSettings.exempts, List.any_eq_true]
  constructor
  · rintro ⟨text, member, found⟩
    split at found
    · rename_i pattern parses
      exact ⟨text, member, pattern, parses, found⟩
    · cases found
  · rintro ⟨text, member, pattern, parses, matched⟩
    exact ⟨text, member, by rw [parses]; exact matched⟩

/-- Settings that cannot be read exempt no route that is not switched off. -/
theorem Exempt.switchedOff_of_unreadable
    (exempt : Exempt base route overrides)
    (unread : ∀ settings, ¬ Merged base overrides settings) :
    SwitchedOff overrides := by
  cases exempt with
  | switchedOff off => exact off
  | data merged _ _ => exact absurd merged (unread _)
  | listed merged _ _ _ => exact absurd merged (unread _)

/-- With readable settings, it is they that tell about other routes. -/
theorem exempt_iff_of_merged (merged : Merged base overrides settings) :
    Exempt base route overrides ↔ SwitchedOff overrides ∨
      (route.kind = .api ∧ settings.protectApi = false) ∨
      settings.exempts route.path = true := by
  rw [exempts_eq_true_iff]
  constructor
  · intro exempt
    cases exempt with
    | switchedOff off => exact .inl off
    | data again kind unprotected =>
        obtain rfl := merged.unique again
        exact .inr (.inl ⟨kind, unprotected⟩)
    | listed again member parses matched =>
        obtain rfl := merged.unique again
        exact .inr (.inr ⟨_, member, _, parses, matched⟩)
  · rintro (off | ⟨kind, unprotected⟩ |
      ⟨text, member, pattern, parses, matched⟩)
    · exact .switchedOff off
    · exact .data merged kind unprotected
    · exact .listed merged member parses matched

/-- The extension does not apply to exempt routes, and to no others. -/
theorem applies_eq_false_iff :
    applies base route overrides = false ↔
      Exempt base route overrides := by
  rw [applies]
  by_cases disabled : overrides.isDisabled key = true
  · rw [if_pos disabled]
    have off := isDisabled_iff_switchedOff.mp disabled
    exact ⟨fun _ => .switchedOff off, fun _ => rfl⟩
  rw [if_neg disabled]
  have on := mt isDisabled_iff_switchedOff.mpr disabled
  rcases read : settingsOf base overrides with cause | settings
  · constructor
    · intro impossible
      cases impossible
    · intro exempt
      refine absurd (exempt.switchedOff_of_unreadable ?_) on
      intro settings merged
      cases read.symm.trans (settingsOf_eq_ok_iff.mpr merged)
  · rw [exempt_iff_of_merged (settingsOf_eq_ok_iff.mp read)]
    rcases route with ⟨path, method, kind⟩
    dsimp only
    cases kind <;> cases settings.protectApi <;>
      cases settings.exempts path <;> simp [on]

/-- Where a layer is attached, nothing is malformed. -/
theorem not_malformed_of_attach {layer : Layer}
    (attached : attach base route overrides = .ok layer) :
    ¬ Malformed base overrides := by
  rcases attach_eq_ok_iff.mp attached with ⟨settings, guard, read, made, _⟩
  have merged := settingsOf_eq_ok_iff.mp read
  intro malformed
  cases malformed with
  | unreadable unread => exact unread settings merged
  | misnamed again refused =>
      obtain rfl := merged.unique again
      exact refused guard made

end Deciding

/-! ## Guarded routes -/

/-- One of the composed layers is the guard of the merged settings. -/
def Covered (base : Value) (overrides : Overrides) (composed : Composed) :
    Prop :=
  ∃ layer ∈ composed.layers, ∃ settings sameSite,
    Merged base overrides settings ∧
    sameSite ∈ ["Strict", "Lax", "None"] ∧
    Guards layer settings (attributesOf sameSite settings.secureCookie)

theorem construct_ok {config : Config} {begun built : State}
    {extension : Extension}
    (constructed : runAction (construct config) begun =
      (.ok extension, built)) :
    extension = Csrf.extension config.value := by
  rcases runAction_bind_eq_ok_iff.mp constructed with ⟨_, _, _, made⟩
  cases made
  rfl

/--
Exactly the exempt routes are composed as if there were no guard against
forged requests, and any other route is composed with the guard of its merged
settings or not at all.  It is not composed if these settings are malformed;
and those that cannot be read leave a route unguarded only if it is switched
off.
-/
theorem covered_unless_exempt {config : Config} {begun built : State}
    {extension : Extension}
    (constructed : runAction (construct config) begun =
      (.ok extension, built))
    (route : Info) (overrides : Overrides) :
    (extension.applies route overrides = false ↔
      Exempt config.value route overrides) ∧
    (∀ (front behind : List Instance) (own : Instance),
      own.extension = extension →
      (Exempt config.value route overrides →
        Extension.compose (front ++ own :: behind) route overrides =
          Extension.compose (front ++ behind) route overrides) ∧
      (¬ Exempt config.value route overrides →
        ∀ composed before after,
          runAction (Extension.compose (front ++ own :: behind) route
            overrides) before = (.ok composed, after) →
          Covered config.value overrides composed ∧
          ¬ Malformed config.value overrides)) ∧
    ((∀ settings, ¬ Merged config.value overrides settings) →
      (Exempt config.value route overrides ↔ SwitchedOff overrides)) := by
  obtain rfl := construct_ok constructed
  have applied : (extension config.value).applies route overrides = false ↔
      Exempt config.value route overrides := applies_eq_false_iff
  refine ⟨applied, ?composing, ?unreadable⟩
  case composing =>
    intro front behind own same
    rw [← same] at applied
    constructor
    · intro exempt
      exact compose_without (applied.mpr exempt)
    · intro demands composed before after run
      have needed : own.extension.applies route overrides = true := by
        rw [← Bool.not_eq_false, applied]
        exact demands
      have member : own ∈ front ++ own :: behind := by simp
      rcases exists_layer_of_compose run member needed with
        ⟨layer, within, attaching, attached, attaches⟩
      rw [same] at attaches
      rcases guards_of_attach attaches with
        ⟨settings, sameSite, read, known, guards⟩
      exact ⟨⟨layer, within, settings, sameSite,
        settingsOf_eq_ok_iff.mp read, known, guards⟩,
        not_malformed_of_attach (congrArg Prod.fst attaches)⟩
  case unreadable =>
    intro unread
    constructor
    · exact fun exempt => exempt.switchedOff_of_unreadable unread
    · exact .switchedOff

/-- With nothing said about it, a form is guarded. -/
theorem covered_form :
    let page : Info := ⟨"/form", .post, .html⟩
    let overrides : Overrides := .ofMapping []
    let own : Instance := ⟨key, ⟨key, .null⟩, extension .null⟩
    runAction (construct ⟨key, .null⟩) (.start fun _ => 0) =
        (.ok (extension .null), .start fun _ => 0) ∧
      ¬ Exempt .null page overrides ∧
      ∃ composed after,
        runAction (Extension.compose [own] page overrides)
          (.start fun _ => 0) = (.ok composed, after) ∧
        Covered .null overrides composed := by
  intro page overrides own
  have constructed : runAction (construct ⟨key, .null⟩)
      (.start fun _ => 0) = (.ok (extension .null), .start fun _ => 0) := rfl
  have covered := covered_unless_exempt constructed page overrides
  have demands : ¬ Exempt .null page overrides := by
    rw [← covered.1]
    decide
  have composes : ∃ composed after,
      runAction (Extension.compose [own] page overrides)
        (.start fun _ => 0) = (.ok composed, after) := ⟨_, _, rfl⟩
  rcases composes with ⟨composed, after, run⟩
  exact ⟨constructed, demands, composed, after, run,
    ((covered.2.1 [] [] own rfl).2 demands composed _ after run).1⟩

/--
A form is not guarded although the name of its cookie is malformed, since its
settings exempt it; and data are not guarded although the section says so,
since the section stands behind a tag.
-/
theorem unguarded_though_malformed :
    let page : Info := ⟨"/form", .post, .html⟩
    let malformed : Overrides := .ofMapping [(.string key, .recordOf
      [("exempt", .texts ["/form"]), ("cookie_name", .string "a b")])]
    let own : Instance := ⟨key, ⟨key, .null⟩, extension .null⟩
    let items : Info := ⟨"/items", .post, .api⟩
    let tagged : Config :=
      ⟨key, .tagged "t" (.recordOf [("protect_api", .bool true)])⟩
    (runAction (construct own.config) (.start fun _ => 0) =
        (.ok own.extension, .start fun _ => 0) ∧
      Malformed own.config.value malformed ∧
      ∃ after, runAction (Extension.compose [own] page malformed)
        (.start fun _ => 0) = (.ok ⟨[], []⟩, after)) ∧
    runAction (construct tagged) (.start fun _ => 0) =
        (.ok (extension tagged.value), .start fun _ => 0) ∧
      Extension.sectionSettings key CsrfSettings.decoder .default tagged =
        .ok ⟨"csrftoken", "x-csrf-token", true, [], false, "Lax"⟩ ∧
      ∃ after, runAction (Extension.compose
          [⟨key, tagged, extension tagged.value⟩] items (.ofMapping []))
        (.start fun _ => 0) = (.ok ⟨[], []⟩, after) := by
  intro page malformed own items tagged
  let misnamed : CsrfSettings :=
    ⟨"a b", "x-csrf-token", false, ["/form"], false, "Lax"⟩
  have merged : Merged .null malformed misnamed := rfl
  have fault : guardOf misnamed = .error (.invalidCookieName "a b") :=
    if_pos (by decide)
  have refused : ∀ guard, guardOf misnamed ≠ .ok guard := by
    intro guard made
    cases fault.symm.trans made
  have exempt : own.extension.applies page malformed = false := by decide
  have alone : Extension.compose [own] page malformed =
      Extension.compose [] page malformed :=
    @compose_without page malformed [] [] own exempt
  have composes : ∃ after,
      runAction (Extension.compose [own] page malformed)
        (.start fun _ => 0) = (.ok ⟨[], []⟩, after) := by
    rw [alone]
    exact ⟨_, rfl⟩
  exact ⟨⟨rfl, .misnamed merged refused, composes⟩, rfl, rfl, _, rfl⟩

end Gatehouse.Security.Csrf
