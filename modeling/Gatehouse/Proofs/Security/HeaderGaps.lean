import Gatehouse.Proofs.Http.Filling
import Gatehouse.Proofs.Http.Values
import Gatehouse.Proofs.Outcome
import Gatehouse.Proofs.Serve.Passage
import Gatehouse.Security.ResponseHeaders
import Mathlib

/-!
# Protective headers where a response has none

Configured headers are filled in one after the other, so a header can also
find its name taken by one that was filled in before.  Of the configured
texts for a name, in whatever letters, only the first one is ever sent.  Main
statement: a response keeps all that it has, gets the first configured value
of every configured name that it lacks, and nothing else, however often the
layer is put around it.
-/

namespace Gatehouse.Security

open Gatehouse.Http
open Gatehouse.Outcome
open Gatehouse.Serve
open Gatehouse.Text

namespace SecurityHeadersSettings

/-! ## Configured headers -/

/-- A name and a text that can be sent as a header. -/
structure Sendable (name text : String) : Prop where
  filled : name ≠ ""
  short : name.length ≤ nameLimit
  named : ∀ character ∈ name.toList, isNameCharacter character = true
  spelled : ∀ octet ∈ octets text, isValueOctet octet = true

/-- A configured name and text as a header. -/
def spelledOut (entry : String × String) : Header :=
  ⟨lowercased entry.1, octets entry.2⟩

theorem headerOf_eq_ok_iff {name text : String} {header : Header} :
    headerOf name text = .ok header ↔
      Sendable name text ∧ header = spelledOut (name, text) := by
  constructor
  · intro made
    unfold headerOf at made
    split at made
    · cases made
    rename_i lower named
    split at made
    · cases made
    rename_i value spelled
    cases made
    rcases headerName?_eq_some_iff.mp named with ⟨⟨filled, short, each⟩, rfl⟩
    rcases headerValue?_eq_some_iff.mp spelled with ⟨all, rfl⟩
    exact ⟨⟨filled, short, each, all⟩, rfl⟩
  · rintro ⟨⟨filled, short, named, spelled⟩, rfl⟩
    rw [headerOf, headerName?_eq_some_iff.mpr ⟨⟨filled, short, named⟩, rfl⟩,
      headerValue?_eq_some_iff.mpr ⟨spelled, rfl⟩]
    rfl

/-- Settings are accepted if each text can be sent, whatever the others. -/
theorem headers_eq_ok_iff {settings : SecurityHeadersSettings}
    {added : Headers} :
    settings.headers = .ok added ↔
      (∀ entry ∈ settings.texts, Sendable entry.1 entry.2) ∧
        added = settings.texts.map spelledOut := by
  rw [headers, mapM_eq_ok_iff]
  simp only [headerOf_eq_ok_iff]
  rw [List.forall₂_and_left]
  refine and_congr_right fun _ => ?_
  rw [← List.forall₂_eq_eq_eq, List.forall₂_map_right_iff]
  exact ⟨List.Forall₂.flip, List.Forall₂.flip⟩

/-- The first of the configured texts for a name, in whatever letters. -/
def Supplies (settings : SecurityHeadersSettings) (name text : String) :
    Prop :=
  ∃ front spelling behind,
    settings.texts = front ++ (spelling, text) :: behind ∧
    lowercased spelling = name ∧
    ∀ entry ∈ front, lowercased entry.1 ≠ name

section Supplying

variable {settings : SecurityHeadersSettings} {name : String}

theorem first?_spelledOut_iff {value : Octets} :
    Headers.first? (settings.texts.map spelledOut) name = some value ↔
      ∃ text, settings.Supplies name text ∧ value = octets text := by
  rw [Headers.first?_eq_some_iff]
  constructor
  · rintro ⟨front, behind, shape, others⟩
    rcases List.map_eq_append_iff.mp shape with
      ⟨before, rest, split, rfl, tail⟩
    rcases List.map_eq_cons_iff.mp tail with
      ⟨⟨spelling, text⟩, after, rfl, made, rfl⟩
    cases made
    refine ⟨text, ⟨before, spelling, after, split, rfl, ?_⟩, rfl⟩
    exact fun entry member => others _ (List.mem_map_of_mem member)
  · rintro ⟨text, ⟨front, spelling, behind, split, rfl, others⟩, rfl⟩
    refine ⟨front.map spelledOut, behind.map spelledOut, ?_, ?_⟩
    · rw [split, List.map_append, List.map_cons]
      rfl
    · exact List.forall_mem_map.mpr others

theorem has_spelledOut_iff :
    Headers.has (settings.texts.map spelledOut) name = true ↔
      ∃ entry ∈ settings.texts, lowercased entry.1 = name := by
  rw [Headers.has, List.any_map, List.any_eq_true]
  simp only [Function.comp, spelledOut, beq_iff_eq]

/-- A name that is configured in some letters has a first text. -/
theorem exists_supplies_iff :
    (∃ text, settings.Supplies name text) ↔
      ∃ entry ∈ settings.texts, lowercased entry.1 = name := by
  rw [← has_spelledOut_iff, ← Headers.exists_first?_iff]
  simp only [first?_spelledOut_iff]
  constructor
  · rintro ⟨text, supplies⟩
    exact ⟨_, text, supplies, rfl⟩
  · rintro ⟨_, text, supplies, _⟩
    exact ⟨text, supplies⟩

theorem Supplies.unique {text other : String}
    (supplies : settings.Supplies name text)
    (again : settings.Supplies name other) : text = other := by
  have first := first?_spelledOut_iff.mpr ⟨text, supplies, rfl⟩
  have second := first?_spelledOut_iff.mpr ⟨other, again, rfl⟩
  exact octets_injective (Option.some.inj (first.symm.trans second))

end Supplying

end SecurityHeadersSettings

namespace ResponseHeaders

/-! ## Filling in all of them -/

section Filling

variable {added headers : Headers} {name : String}

theorem fillAll_cons (header : Header) :
    fillAll (header :: added) headers =
      fillAll added (headers.fill header.name header.value) := rfl

theorem values_fillAll :
    Headers.values (fillAll added headers) name =
      if headers.has name then headers.values name
      else (added.first? name).toList := by
  induction added generalizing headers with
  | nil =>
      show headers.values name = _
      split
      · rfl
      · rename_i absent
        rw [Bool.not_eq_true] at absent
        exact Headers.values_eq_nil_iff.mpr absent
  | cons header rest induction =>
      rw [fillAll_cons, induction, Headers.has_fill, Headers.values_fill,
        Headers.first?_cons]
      rcases present : headers.has name with _ | _
      · by_cases same : header.name = name
        · subst same
          simp [present]
        · simp [same]
      · have differs : ¬ (headers.has header.name = false ∧
            header.name = name) := by
          rintro ⟨absent, rfl⟩
          cases present.symm.trans absent
        simp [differs]

/-- A name without a value gets the first text that is configured for it. -/
theorem values_fillAll_of_supplies {settings : SecurityHeadersSettings}
    {text : String} (supplies : settings.Supplies name text)
    (absent : headers.has name = false) :
    Headers.values (fillAll
        (settings.texts.map SecurityHeadersSettings.spelledOut) headers)
      name = [octets text] := by
  have found := SecurityHeadersSettings.first?_spelledOut_iff.mpr
    ⟨text, supplies, rfl⟩
  rw [values_fillAll, if_neg (by simp [absent]), found]
  rfl

theorem prefix_fillAll : headers <+: fillAll added headers := by
  induction added generalizing headers with
  | nil => exact List.prefix_refl headers
  | cons header rest induction =>
      exact Headers.prefix_fill.trans induction

theorem fillAll_of_has
    (present : ∀ header ∈ added, headers.has header.name = true) :
    fillAll added headers = headers := by
  induction added with
  | nil => rfl
  | cons header rest induction =>
      rw [List.forall_mem_cons] at present
      rw [fillAll_cons, Headers.fill_of_has present.1]
      exact induction present.2

/-- Once all headers are filled in, no name is without a value. -/
theorem fillAll_fillAll :
    fillAll added (fillAll added headers) = fillAll added headers := by
  apply fillAll_of_has
  intro header member
  rw [Headers.has_iff_values_ne_nil, values_fillAll]
  split
  · rename_i present
    exact Headers.has_iff_values_ne_nil.mp present
  · intro nothing
    rw [Option.toList_eq_nil_iff, Headers.first?_eq_none_iff, Headers.has,
      List.any_eq_false] at nothing
    exact nothing header member (beq_self_eq_true _)

end Filling

/-! ## The layer -/

section Running

variable {handler : Handler} {request : Request} {state after : State}
  {added : Headers}

theorem runAction_gate_of_ok {inner : Response}
    (run : runAction (handler request) state = (.ok inner, after)) :
    runAction ((gate added).around handler request) state =
      (.ok (inner.mapHeaders (fillAll added)), after) :=
  runAction_onResponse_of_ok run

theorem runAction_gate_of_error {cause : Interruption}
    (run : runAction (handler request) state = (.error cause, after)) :
    runAction ((gate added).around handler request) state =
      (.error cause, after) :=
  runAction_onResponse_of_error run

/-- The layer around itself does what it does once. -/
theorem runAction_gate_gate :
    runAction ((gate added).around ((gate added).around handler) request)
        state =
      runAction ((gate added).around handler request) state := by
  rcases run : runAction (handler request) state with
    ⟨cause | inner, after⟩
  · have once : runAction ((gate added).around handler request) state =
        (.error cause, after) := runAction_gate_of_error run
    rw [runAction_gate_of_error once, once]
  · have once : runAction ((gate added).around handler request) state =
        (.ok (inner.mapHeaders (fillAll added)), after) :=
      runAction_gate_of_ok run
    rw [runAction_gate_of_ok once, once, Response.mapHeaders,
      Response.mapHeaders, fillAll_fillAll]

end Running

/--
What the layer of accepted settings makes of a response.  Status, body and
all headers stay, with all values in order; a configured name that the
response lacks gets the first value that is configured for it, as its only
one; other names get nothing; and the layer changes nothing a second time.
-/
theorem gate_fills_gaps {settings : SecurityHeadersSettings}
    {added : Headers} (accepted : settings.headers = .ok added)
    (handler : Handler) (request : Request) (state : State) :
    (∀ cause after,
      runAction (handler request) state = (.error cause, after) →
      runAction ((gate added).around handler request) state =
        (.error cause, after)) ∧
    (∀ inner after,
      runAction (handler request) state = (.ok inner, after) →
      ∃ outer,
        runAction ((gate added).around handler request) state =
          (.ok outer, after) ∧
        outer.status = inner.status ∧ outer.body = inner.body ∧
        inner.headers <+: outer.headers ∧
        (∀ name, inner.headers.has name = true →
          outer.headers.values name = inner.headers.values name) ∧
        (∀ name text, (name, text) ∈ settings.texts →
          inner.headers.has (lowercased name) = false →
          ∃ first, settings.Supplies (lowercased name) first ∧
            outer.headers.values (lowercased name) = [octets first]) ∧
        ∀ name, (∀ entry ∈ settings.texts, lowercased entry.1 ≠ name) →
          outer.headers.values name = inner.headers.values name) ∧
    runAction ((gate added).around ((gate added).around handler) request)
        state =
      runAction ((gate added).around handler request) state := by
  obtain ⟨_, rfl⟩ :=
    SecurityHeadersSettings.headers_eq_ok_iff.mp accepted
  refine ⟨fun _ _ => runAction_gate_of_error, ?_, runAction_gate_gate⟩
  intro inner after run
  refine ⟨_, runAction_gate_of_ok run, rfl, rfl, prefix_fillAll, ?kept,
    ?filled, ?others⟩
  case kept =>
    intro name present
    exact values_fillAll.trans (if_pos present)
  case filled =>
    intro name text member absent
    rcases SecurityHeadersSettings.exists_supplies_iff.mpr
      ⟨_, member, rfl⟩ with ⟨first, supplies⟩
    exact ⟨first, supplies, values_fillAll_of_supplies supplies absent⟩
  case others =>
    intro name unnamed
    refine values_fillAll.trans ?_
    split
    · rfl
    · rename_i absent
      rw [Bool.not_eq_true] at absent
      rw [Headers.values_eq_nil_iff.mpr absent, Option.toList_eq_nil_iff,
        Headers.first?_eq_none_iff, ← Bool.not_eq_true,
        SecurityHeadersSettings.has_spelledOut_iff]
      rintro ⟨entry, member, same⟩
      exact unnamed entry member same

/-- Settings with two further headers, one of them with a standard name. -/
def decorated : SecurityHeadersSettings :=
  { SecurityHeadersSettings.default with
    extra := [("X-Frame-Options", "SAMEORIGIN"), ("x-powered-by", "us")] }

/-- A request for the root. -/
def visiting : Request where
  method := .get
  target := "/"
  headers := []
  body := []
  peer := none

/-- A value of a response stays, and a gap gets what is configured first. -/
theorem gate_fills_gaps_decorated :
    let own : Response := ⟨200, [⟨"x-powered-by", octets "page"⟩], []⟩
    let start : State := .start fun _ => 0
    ∃ added outer, decorated.headers = .ok added ∧
      runAction ((gate added).around (fun _ => return own) visiting) start =
        (.ok outer, start) ∧
      outer.headers.values "x-powered-by" = [octets "page"] ∧
      outer.headers.values "x-frame-options" = [octets "DENY"] := by
  intro own start
  have accepted : decorated.headers =
      .ok (decorated.texts.map SecurityHeadersSettings.spelledOut) := by cbv
  rcases (gate_fills_gaps accepted (fun _ => return own) visiting start).2.1
    own start rfl with ⟨outer, run, _, _, _, kept, filled, _⟩
  refine ⟨_, outer, accepted, run, kept "x-powered-by" rfl, ?_⟩
  rcases filled "X-Frame-Options" "SAMEORIGIN" (by decide) rfl with
    ⟨first, supplies, values⟩
  have deny : decorated.Supplies (lowercased "X-Frame-Options") "DENY" :=
    ⟨[("x-content-type-options", "nosniff")], "x-frame-options", _, rfl,
      by decide, by decide⟩
  rw [supplies.unique deny] at values
  exact values

end ResponseHeaders

end Gatehouse.Security
