import Gatehouse.Proofs.Security.HeaderGaps
import Gatehouse.Proofs.Yaml.Records

/-!
# Further headers whose names are taken

A configured header is left out where the response has its name, and a
response has it also if another configured header brought it before.  Such
settings are accepted all the same.  Main statement: a further header is sent
to a response that lacks it exactly if no standard option sets its name to
another text and, without an option, no other spelling of the name that
comes before all others has another text.
-/

namespace Gatehouse.Security

open Gatehouse.Extension (Config routeSettings sectionSettings)
open Gatehouse.Http
open Gatehouse.Outcome
open Gatehouse.Route (Overrides)
open Gatehouse.Serve
open Gatehouse.Text
open Gatehouse.Yaml

namespace SecurityHeadersSettings

/-! ## Where a text comes from -/

/-- The names of the standard headers, with the texts that are set for them. -/
def standard (settings : SecurityHeadersSettings) :
    List (String × Option String) :=
  [("x-content-type-options", settings.contentTypeOptions),
    ("x-frame-options", settings.frameOptions),
    ("referrer-policy", settings.referrerPolicy),
    ("strict-transport-security", settings.hsts),
    ("content-security-policy", settings.contentSecurityPolicy)]

/-- A standard option sets the text of a name. -/
def Sets (settings : SecurityHeadersSettings) (name text : String) : Prop :=
  (name, some text) ∈ settings.standard

/-- A further header that comes before all other spellings of its name. -/
structure Leads (settings : SecurityHeadersSettings)
    (spelling text : String) : Prop where
  member : (spelling, text) ∈ settings.extra
  least : ∀ entry ∈ settings.extra,
    lowercased entry.1 = lowercased spelling → spelling ≤ entry.1

/-- The texts of the standard headers that are set. -/
def standardTexts (settings : SecurityHeadersSettings) :
    List (String × String) :=
  settings.standard.filterMap fun (name, text) =>
    text.map fun text => (name, text)

theorem texts_eq (settings : SecurityHeadersSettings) :
    settings.texts = settings.standardTexts ++ settings.extra := rfl

section Sources

variable {settings : SecurityHeadersSettings} {name text : String}

theorem mem_standardTexts_iff :
    (name, text) ∈ settings.standardTexts ↔ settings.Sets name text := by
  rw [standardTexts, List.mem_filterMap, Sets]
  constructor
  · rintro ⟨⟨held, option⟩, member, found⟩
    rcases Option.map_eq_some_iff.mp found with ⟨_, rfl, same⟩
    cases same
    exact member
  · intro member
    exact ⟨_, member, rfl⟩

theorem standard_names (settings : SecurityHeadersSettings) :
    settings.standard.map Prod.fst =
      ["x-content-type-options", "x-frame-options", "referrer-policy",
        "strict-transport-security", "content-security-policy"] := rfl

theorem Sets.lowercased_eq (sets : settings.Sets name text) :
    lowercased name = name := by
  have lower : ∀ standard ∈ ["x-content-type-options", "x-frame-options",
      "referrer-policy", "strict-transport-security",
      "content-security-policy"], lowercased standard = standard := by
    decide
  have member : name ∈ settings.standard.map Prod.fst :=
    List.mem_map_of_mem sets
  rw [standard_names] at member
  exact lower name member

theorem pairwise_standardTexts :
    settings.standardTexts.Pairwise fun former latter =>
      former.1 ≠ latter.1 := by
  have names : settings.standard.Pairwise fun former latter =>
      former.1 ≠ latter.1 := by
    rw [← List.pairwise_map, standard_names]
    decide
  rw [standardTexts, List.pairwise_filterMap]
  refine names.imp ?_
  rintro former latter apart first found second held
  rcases Option.map_eq_some_iff.mp found with ⟨_, _, rfl⟩
  rcases Option.map_eq_some_iff.mp held with ⟨_, _, rfl⟩
  exact apart

/-- A standard option that is set comes before everything else. -/
theorem Sets.supplies (sets : settings.Sets name text) :
    settings.Supplies name text := by
  rcases List.append_of_mem (mem_standardTexts_iff.mpr sets) with
    ⟨front, behind, split⟩
  refine ⟨front, name, behind ++ settings.extra, ?_, sets.lowercased_eq, ?_⟩
  · rw [texts_eq, split, List.append_assoc, List.cons_append]
  · rintro ⟨other, held⟩ member
    have own : settings.Sets other held := by
      rw [← mem_standardTexts_iff, split]
      exact List.mem_append_left _ member
    have apart := settings.pairwise_standardTexts
    rw [split, List.pairwise_append] at apart
    rw [own.lowercased_eq]
    exact apart.2.2 _ member _ List.mem_cons_self

/-- Without an option the first spelling of a name comes first. -/
theorem Leads.supplies (ordered : Decode.Ordered settings.extra)
    (unset : ∀ other, ¬ settings.Sets (lowercased name) other)
    (leads : settings.Leads name text) :
    settings.Supplies (lowercased name) text := by
  rcases List.append_of_mem leads.member with ⟨front, behind, split⟩
  refine ⟨settings.standardTexts ++ front, name, behind, ?_, rfl, ?_⟩
  · rw [texts_eq, split, List.append_assoc]
  · rintro ⟨other, held⟩ member same
    rcases List.mem_append.mp member with inner | inner
    · have own := mem_standardTexts_iff.mp inner
      rw [own.lowercased_eq] at same
      exact unset held (same ▸ own)
    · have listed : (other, held) ∈ settings.extra := by
        rw [split]
        exact List.mem_append_left _ inner
      rw [split] at ordered
      have before := (List.pairwise_append.mp ordered).2.2 _ inner _
        List.mem_cons_self
      exact absurd (leads.least _ listed same) (not_le_of_gt before)

theorem exists_leads (ordered : Decode.Ordered settings.extra)
    (member : (name, text) ∈ settings.extra) :
    ∃ spelling other, lowercased spelling = lowercased name ∧
      settings.Leads spelling other := by
  rcases found : settings.extra.find?
      (fun entry => lowercased entry.1 == lowercased name) with
    _ | ⟨spelling, other⟩
  · rw [List.find?_eq_none] at found
    exact absurd (beq_self_eq_true _) (found _ member)
  · rcases ordered.find?_eq_some_iff.mp found with ⟨listed, same, least⟩
    rw [beq_iff_eq] at same
    refine ⟨spelling, other, same, listed, ?_⟩
    intro entry held alike
    exact least entry held (beq_iff_eq.mpr (alike.trans same))

end Sources

/-! ## Further headers that are not sent -/

/-- For the name of a further header another text is sent. -/
inductive Overruled (settings : SecurityHeadersSettings)
    (name text : String) : Prop where
  | option {other : String}
      (sets : settings.Sets (lowercased name) other)
      (differs : other ≠ text)
  | spelling {spelling other : String}
      (unset : ∀ other, ¬ settings.Sets (lowercased name) other)
      (same : lowercased spelling = lowercased name)
      (leads : settings.Leads spelling other)
      (differs : other ≠ text)

theorem supplies_iff_not_overruled {settings : SecurityHeadersSettings}
    {name text : String} (ordered : Decode.Ordered settings.extra)
    (member : (name, text) ∈ settings.extra) :
    settings.Supplies (lowercased name) text ↔
      ¬ settings.Overruled name text := by
  constructor
  · intro supplies overruled
    cases overruled with
    | option sets differs => exact differs (sets.supplies.unique supplies)
    | spelling unset same leads differs =>
        rw [← same] at unset supplies
        exact differs ((leads.supplies ordered unset).unique supplies)
  · intro free
    by_cases option : ∃ other, settings.Sets (lowercased name) other
    · rcases option with ⟨other, sets⟩
      by_cases equal : other = text
      · exact equal ▸ sets.supplies
      · exact absurd (.option sets equal) free
    · rw [not_exists] at option
      rcases exists_leads ordered member with ⟨spelling, other, same, leads⟩
      by_cases equal : other = text
      · subst equal
        rw [← same] at option ⊢
        exact leads.supplies ordered option
      · exact absurd (.spelling option same leads equal) free

end SecurityHeadersSettings

namespace ResponseHeaders

/-! ## Accepted settings -/

theorem ordered_of_decoder {value : Value}
    {settings : SecurityHeadersSettings}
    (read : SecurityHeadersSettings.decoder value = .ok settings) :
    Decode.Ordered settings.extra := by
  have nothing : Decode.Ordered SecurityHeadersSettings.default.extra :=
    List.Pairwise.nil
  have kept : ∀ field ∈ SecurityHeadersSettings.fields, field.Keeps
      fun settings => Decode.Ordered settings.extra := by
    intro field member
    simp only [SecurityHeadersSettings.fields, List.mem_cons,
      List.not_mem_nil, or_false] at member
    rcases member with rfl | rfl | rfl | rfl | rfl | rfl
    case inr.inr.inr.inr.inr =>
      exact Decode.Field.keeps_of _ fun value table decoded _ _ =>
        Decode.ordered_of_textTable decoded
    all_goals
      exact Decode.Field.keeps_of _ fun _ _ _ _ ordered => ordered
  have ordered := Decode.record_keeps kept read nothing
  exact ordered

/-- Settings all of whose texts can be sent. -/
def Sound (settings : SecurityHeadersSettings) : Prop :=
  ∀ entry ∈ settings.texts,
    SecurityHeadersSettings.Sendable entry.1 entry.2

theorem exists_headers_iff {settings : SecurityHeadersSettings} :
    (∃ added, settings.headers = .ok added) ↔ Sound settings := by
  simp only [SecurityHeadersSettings.headers_eq_ok_iff]
  exact ⟨fun ⟨_, sound, _⟩ => sound, fun sound => ⟨_, sound, rfl⟩⟩

theorem runAction_construct {config : Config} {state : State}
    {settings : SecurityHeadersSettings} {added : Headers}
    (read : sectionSettings key SecurityHeadersSettings.decoder .default
      config = .ok settings)
    (listed : settings.headers = .ok added) :
    runAction (construct config) state =
      (.ok (extension config.value), state) := by
  rw [construct, read]
  refine runAction_bind_eq_ok_iff.mpr ⟨⟨⟩, state, ?_, rfl⟩
  rw [runAction_ofPure]
  show (settings.headers >>= fun _ => pure PUnit.unit, state) = _
  rw [listed]
  rfl

/-- A section is accepted if it can be read and its texts can be sent. -/
theorem exists_construct_iff {config : Config} {state : State} :
    (∃ extension built,
      runAction (construct config) state = (.ok extension, built)) ↔
      ∃ settings, sectionSettings key SecurityHeadersSettings.decoder
          .default config = .ok settings ∧ Sound settings := by
  simp only [← exists_headers_iff]
  constructor
  · rintro ⟨extension, built, run⟩
    rcases runAction_bind_eq_ok_iff.mp run with ⟨_, _, checked, _⟩
    have accepted := congrArg Prod.fst checked
    rcases bind_eq_ok_iff.mp accepted with ⟨settings, read, made⟩
    rcases bind_eq_ok_iff.mp made with ⟨added, listed, _⟩
    exact ⟨settings, read, added, listed⟩
  · rintro ⟨settings, read, added, listed⟩
    exact ⟨_, state, runAction_construct read listed⟩

section Routes

variable {base : Value} {overrides : Overrides} {layer : Layer}

theorem attach_eq_ok_iff :
    attach base overrides = .ok layer ↔
      ∃ settings added,
        routeSettings key SecurityHeadersSettings.decoder base overrides =
          .ok settings ∧
        settings.headers = .ok added ∧ layer = gate added := by
  rw [attach, bind_eq_ok_iff]
  constructor
  · rintro ⟨settings, read, made⟩
    rcases bind_eq_ok_iff.mp made with ⟨added, listed, equal⟩
    exact ⟨settings, added, read, listed, (pure_eq_ok_iff.mp equal).symm⟩
  · rintro ⟨settings, added, read, listed, rfl⟩
    exact ⟨settings, read, bind_eq_ok_iff.mpr ⟨added, listed, rfl⟩⟩

theorem exists_attach_iff :
    (∃ layer, attach base overrides = .ok layer) ↔
      ∃ settings,
        routeSettings key SecurityHeadersSettings.decoder base overrides =
          .ok settings ∧ Sound settings := by
  simp only [attach_eq_ok_iff, ← exists_headers_iff]
  constructor
  · rintro ⟨_, settings, added, read, listed, rfl⟩
    exact ⟨settings, read, added, listed⟩
  · rintro ⟨settings, read, added, listed⟩
    exact ⟨_, settings, added, read, listed, rfl⟩

end Routes

/--
Whether a further header is sent.  Sections and routes are accepted if what
they say can be read and sent, entry by entry, so no settings are refused
because the name of a further header is taken.  A response that lacks the
header then gets its text exactly if it is not overruled.
-/
theorem extra_sent_iff (config : Config) (overrides : Overrides)
    (state : State) :
    ((∃ extension built,
        runAction (construct config) state = (.ok extension, built)) ↔
      ∃ settings, sectionSettings key SecurityHeadersSettings.decoder
          .default config = .ok settings ∧ Sound settings) ∧
    ((∃ layer, attach config.value overrides = .ok layer) ↔
      ∃ settings,
        routeSettings key SecurityHeadersSettings.decoder config.value
          overrides = .ok settings ∧ Sound settings) ∧
    ∀ layer, attach config.value overrides = .ok layer →
      ∃ settings,
        routeSettings key SecurityHeadersSettings.decoder config.value
          overrides = .ok settings ∧
        ∀ name text, (name, text) ∈ settings.extra →
        ∀ (handler : Handler) request before inner after,
          runAction (handler request) before = (.ok inner, after) →
          inner.headers.has (lowercased name) = false →
          ∃ outer,
            runAction (layer.around handler request) before =
              (.ok outer, after) ∧
            (outer.headers.values (lowercased name) = [octets text] ↔
              ¬ settings.Overruled name text) := by
  refine ⟨exists_construct_iff, exists_attach_iff, ?_⟩
  intro layer attached
  rcases attach_eq_ok_iff.mp attached with ⟨settings, added, read, listed, rfl⟩
  have ordered := ordered_of_decoder (mapError_eq_ok_iff.mp read)
  refine ⟨settings, read, ?_⟩
  intro name text member handler request before inner after run absent
  obtain ⟨_, rfl⟩ := SecurityHeadersSettings.headers_eq_ok_iff.mp listed
  refine ⟨_, runAction_gate_of_ok run, ?_⟩
  rw [← SecurityHeadersSettings.supplies_iff_not_overruled ordered member]
  constructor
  · intro values
    have configured : (name, text) ∈ settings.texts :=
      List.mem_append_right _ member
    rcases SecurityHeadersSettings.exists_supplies_iff.mpr
      ⟨_, configured, rfl⟩ with ⟨first, supplies⟩
    have filled := values_fillAll_of_supplies supplies absent
    have same := List.singleton_inj.mp (filled.symm.trans values)
    exact octets_injective same ▸ supplies
  · intro supplies
    exact values_fillAll_of_supplies supplies absent

/-- A section with further headers and with the standard options. -/
def further (entries : List (String × String)) : Config :=
  ⟨key, .mapping [(.string "extra",
    .mapping (entries.map fun entry => (.string entry.1, .string entry.2)))]⟩

/-- A response without any headers. -/
def bare : Response := .empty 200

/-- Of two spellings of a name the one in capital letters is sent. -/
theorem extra_sent_iff_spellings :
    let start : State := .start fun _ => 0
    let config := further [("x-team", "b"), ("X-Team", "a")]
    ∃ layer outer, attach config.value (.ofMapping []) = .ok layer ∧
      bare.headers.has (lowercased "X-Team") = false ∧
      runAction (layer.around (fun _ => return bare) visiting) start =
        (.ok outer, start) ∧
      outer.headers.values (lowercased "X-Team") = [octets "a"] := by
  intro start config
  let settings : SecurityHeadersSettings :=
    { SecurityHeadersSettings.default with
      extra := [("X-Team", "a"), ("x-team", "b")] }
  have read : routeSettings key SecurityHeadersSettings.decoder config.value
      (.ofMapping []) = .ok settings := by cbv
  have listed : settings.headers = .ok (settings.texts.map
      SecurityHeadersSettings.spelledOut) := by cbv
  have attached := attach_eq_ok_iff.mpr ⟨settings, _, read, listed, rfl⟩
  rcases (extra_sent_iff config (.ofMapping []) start).2.2 _ attached with
    ⟨_, again, sent⟩
  obtain rfl := Except.ok.inj (read.symm.trans again)
  rcases sent "X-Team" "a" (by decide) (fun _ => return bare) visiting start
    bare start rfl rfl with ⟨outer, run, values⟩
  refine ⟨_, outer, attached, rfl, run, values.mpr ?_⟩
  intro overruled
  cases overruled with
  | option sets differs =>
      have member := List.mem_map_of_mem (f := Prod.fst) sets
      rw [SecurityHeadersSettings.standard_names] at member
      have absent : lowercased "X-Team" ∉ ["x-content-type-options",
          "x-frame-options", "referrer-policy", "strict-transport-security",
          "content-security-policy"] := by decide
      exact absent member
  | spelling unset same leads differs =>
      rcases leads with ⟨member, least⟩
      rcases List.mem_cons.mp member with own | other
      · cases own
        exact differs rfl
      · cases List.mem_singleton.mp other
        exact absurd (least ("X-Team", "a") List.mem_cons_self (by decide))
          (by decide)

/-- A standard option takes the place of a further header that is accepted. -/
theorem option_instead_of_extra :
    let start : State := .start fun _ => 0
    let config := further [("X-Frame-Options", "SAMEORIGIN")]
    runAction (construct config) start =
        (.ok (extension config.value), start) ∧
      ∃ settings layer outer,
        routeSettings key SecurityHeadersSettings.decoder config.value
          (.ofMapping []) = .ok settings ∧
        ("X-Frame-Options", "SAMEORIGIN") ∈ settings.extra ∧
        attach config.value (.ofMapping []) = .ok layer ∧
        bare.headers.has (lowercased "X-Frame-Options") = false ∧
        runAction (layer.around (fun _ => return bare) visiting) start =
          (.ok outer, start) ∧
        outer.headers.values (lowercased "X-Frame-Options") =
          [octets "DENY"] ∧
        octets "DENY" ≠ octets "SAMEORIGIN" := by
  intro start config
  let settings : SecurityHeadersSettings :=
    { SecurityHeadersSettings.default with
      extra := [("X-Frame-Options", "SAMEORIGIN")] }
  have read : routeSettings key SecurityHeadersSettings.decoder config.value
      (.ofMapping []) = .ok settings := by cbv
  have listed : settings.headers = .ok (settings.texts.map
      SecurityHeadersSettings.spelledOut) := by cbv
  have own : sectionSettings key SecurityHeadersSettings.decoder
      .default config = .ok settings := by cbv
  have deny : settings.Sets (lowercased "X-Frame-Options") "DENY" :=
    .tail _ (.head _)
  refine ⟨runAction_construct own listed, settings, _, _, read,
    List.mem_cons_self,
    attach_eq_ok_iff.mpr ⟨settings, _, read, listed, rfl⟩, rfl,
    runAction_gate_of_ok rfl, ?_, octets_injective.ne (by decide)⟩
  exact values_fillAll_of_supplies deny.supplies rfl

end ResponseHeaders

end Gatehouse.Security
