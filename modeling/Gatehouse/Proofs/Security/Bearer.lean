import Mathlib
import Gatehouse.Proofs.Http.Values
import Gatehouse.Proofs.Serve.Passage
import Gatehouse.Proofs.Text.Parts
import Gatehouse.Proofs.Yaml.Records
import Gatehouse.Security.Auth

/-!
# Who is let through with a bearer token

What a request shows, and which token admits it, is said here without the
gate.  The gate of a protected route then lets exactly the admitted requests
through, each under the first name that admits it; every other request gets
the same refusal, whose challenge tells whether a secret was shown at all.
-/

namespace Gatehouse.Security.Auth

open Gatehouse.Extension (Config Fault)
open Gatehouse.Http
open Gatehouse.Outcome
open Gatehouse.Route (Info Overrides)
open Gatehouse.Serve
open Gatehouse.Text
open Gatehouse.Yaml

/-! ## What a request shows -/

/--
The first authorization of a request is visible text: the scheme in front of
its first space, and behind that space the secret between blanks.
-/
def Shows (headers : Headers) (secret : String) : Prop :=
  ∃ value text scheme rest,
    headers.first? "authorization" = some value ∧ Spells value text ∧
    text.toList = scheme ++ ' ' :: rest ∧ ' ' ∉ scheme ∧
    scheme.map Char.toLower = "bearer".toList ∧
    Trims rest secret.toList ∧ secret ≠ ""

theorem trimmed_eq_iff {text inner : String} :
    trimmed text = inner ↔ Trims text.toList inner.toList := by
  rw [trims_iff, ← toList_trimmed]
  exact String.toList_inj.symm

theorem lowercased_eq_iff {text lower : String} :
    lowercased text = lower ↔ text.toList.map Char.toLower = lower.toList := by
  rw [← toList_lowercased]
  exact String.toList_inj.symm

/-- The secret that is taken from a request is the one that it shows. -/
theorem presented?_eq_some_iff {headers : Headers} {secret : String} :
    presented? headers = some secret ↔ Shows headers secret := by
  constructor
  · intro found
    unfold presented? at found
    split at found
    · rename_i scheme rest divided
      rcases Option.bind_eq_some_iff.mp divided with ⟨text, read, divided⟩
      rcases text?_eq_some_iff.mp read with ⟨value, first, spells⟩
      rcases cut?_eq_some_iff.mp divided with ⟨parts, absent⟩
      dsimp only at found
      split at found
      · rename_i holds
        simp only [Bool.and_eq_true, beq_iff_eq, Bool.not_eq_true',
          String.isEmpty_eq_false_iff] at holds
        rcases holds with ⟨bearer, filled⟩
        cases found
        exact ⟨value, text, scheme.toList, rest.toList, first, spells,
          parts, absent, lowercased_eq_iff.mp bearer,
          trimmed_eq_iff.mp rfl, filled⟩
      · cases found
    · cases found
  · rintro ⟨value, text, scheme, rest, first, spells, parts, absent, bearer,
      trims, filled⟩
    have read : headers.text? "authorization" = some text :=
      text?_eq_some_iff.mpr ⟨value, first, spells⟩
    have divided : cut? ' ' text =
        some (String.ofList scheme, String.ofList rest) := by
      rw [cut?_eq_some_iff, String.toList_ofList, String.toList_ofList]
      exact ⟨parts, absent⟩
    have named : lowercased (String.ofList scheme) = "bearer" := by
      rw [lowercased_eq_iff, String.toList_ofList]
      exact bearer
    have inner : trimmed (String.ofList rest) = secret := by
      rw [trimmed_eq_iff, String.toList_ofList]
      exact trims
    rw [presented?, read, Option.bind_some, divided]
    dsimp only
    rw [named, inner, if_pos (by simp [filled])]

theorem presented?_eq_none_iff {headers : Headers} :
    presented? headers = none ↔ ∀ secret, ¬ Shows headers secret := by
  rw [Option.eq_none_iff_forall_ne_some]
  simp only [ne_eq, presented?_eq_some_iff]

/-! ## Which token admits a request -/

/-- A list of names accepts all tokens if it is empty. -/
def Accepts (allow : List String) (name : String) : Prop :=
  allow = [] ∨ name ∈ allow

/-- A request shows the secret of an accepted token, octet by octet. -/
def Opens (tokens : List (String × String)) (allow : List String)
    (headers : Headers) (name : String) : Prop :=
  ∃ shown secret, Shows headers shown ∧
    (name, secret) ∈ tokens ∧ Accepts allow name ∧
    octets secret = octets shown

/-- The first name, in their order, whose token opens the gate. -/
def Admits (tokens : List (String × String)) (allow : List String)
    (headers : Headers) (name : String) : Prop :=
  Opens tokens allow headers name ∧
    ∀ other, Opens tokens allow headers other → name ≤ other

theorem Shows.unique {headers : Headers} {secret other : String}
    (shows : Shows headers secret) (alike : Shows headers other) :
    secret = other := by
  rw [← presented?_eq_some_iff] at shows alike
  exact Option.some.inj (shows.symm.trans alike)

theorem holder?_eq_some_iff {tokens : List (String × String)}
    (ordered : Decode.Ordered tokens) {shown name : String} :
    holder? tokens shown = some name ↔
      ∃ secret, (name, secret) ∈ tokens ∧ octets secret = octets shown ∧
        ∀ other ∈ tokens, octets other.2 = octets shown →
          name ≤ other.1 := by
  rw [holder?, Option.map_eq_some_iff]
  simp only [ordered.find?_eq_some_iff, sameSecret_iff_eq]
  constructor
  · rintro ⟨⟨_, secret⟩, ⟨member, same, least⟩, rfl⟩
    exact ⟨secret, member, same, least⟩
  · rintro ⟨secret, member, same, least⟩
    exact ⟨(name, secret), ⟨member, same, least⟩, rfl⟩

/-- The tokens that a route accepts, each of whose names is known. -/
theorem accepted_ok {settings : AuthSettings} {allow : List String}
    {tokens : List (String × String)}
    (found : accepted settings allow = .ok tokens) :
    (∀ name ∈ allow, name ∈ settings.tokens.map Prod.fst) ∧
      tokens = settings.tokens.filter fun token =>
        allow.isEmpty || allow.contains token.1 := by
  unfold accepted at found
  split at found
  · cases found
  · rename_i known
    refine ⟨?_, (Except.ok.inj found).symm⟩
    intro name member
    have there := List.find?_eq_none.mp known name member
    rw [Bool.not_eq_true, Option.isNone_eq_false_iff,
      Option.isSome_iff_exists] at there
    rcases there with ⟨secret, held⟩
    rcases List.lookup_eq_some_iff.mp held with ⟨before, behind, shape, _⟩
    rw [shape]
    simp

theorem accepts_iff {allow : List String} {name : String} :
    (allow.isEmpty || allow.contains name) = true ↔ Accepts allow name := by
  rw [Bool.or_eq_true, List.isEmpty_iff, List.contains_iff_mem, Accepts]

/-- The gate finds the name under which a request is admitted. -/
theorem admits_iff {settings : AuthSettings}
    (ordered : Decode.Ordered settings.tokens) {allow : List String}
    {headers : Headers} {name : String} :
    Admits settings.tokens allow headers name ↔
      ∃ shown, presented? headers = some shown ∧
        holder? (settings.tokens.filter fun token =>
          allow.isEmpty || allow.contains token.1) shown = some name := by
  have filtered := List.Pairwise.filter
    (fun token : String × String =>
      allow.isEmpty || allow.contains token.1) ordered
  simp only [holder?_eq_some_iff filtered, presented?_eq_some_iff,
    List.mem_filter, accepts_iff]
  constructor
  · rintro ⟨⟨shown, secret, shows, member, accepts, same⟩, least⟩
    refine ⟨shown, shows, secret, ⟨member, accepts⟩, same, ?_⟩
    rintro ⟨other, held⟩ ⟨otherMember, otherAccepts⟩ alike
    exact least other ⟨shown, held, shows, otherMember, otherAccepts, alike⟩
  · rintro ⟨shown, shows, secret, ⟨member, accepts⟩, same, least⟩
    refine ⟨⟨shown, secret, shows, member, accepts, same⟩, ?_⟩
    rintro other ⟨_, held, alsoShows, otherMember, otherAccepts, alike⟩
    obtain rfl := shows.unique alsoShows
    exact least (other, held) ⟨otherMember, otherAccepts⟩ alike

/-- Where some token opens the gate, a first one does. -/
theorem exists_admits_iff {settings : AuthSettings}
    (ordered : Decode.Ordered settings.tokens) {allow : List String}
    {headers : Headers} :
    (∃ name, Admits settings.tokens allow headers name) ↔
      ∃ name, Opens settings.tokens allow headers name := by
  constructor
  · rintro ⟨name, opens, _⟩
    exact ⟨name, opens⟩
  · rintro ⟨name, shown, secret, shows, member, accepts, same⟩
    simp only [admits_iff ordered]
    rcases found : holder? (settings.tokens.filter fun token =>
        allow.isEmpty || allow.contains token.1) shown with _ | first
    · rw [holder?, Option.map_eq_none_iff, List.find?_eq_none] at found
      have held : (name, secret) ∈ settings.tokens.filter fun token =>
          allow.isEmpty || allow.contains token.1 :=
        List.mem_filter.mpr ⟨member, accepts_iff.mpr accepts⟩
      exact (found _ held (sameSecret_iff_eq.mpr same)).elim
    · exact ⟨first, shown, presented?_eq_some_iff.mpr shows, found⟩

/-! ## Challenges -/

/-- What a challenge carries if a secret was shown that no token has. -/
def invalidTokenError : String := "error=\"invalid_token\""

theorem challenge_missing (realm : String) :
    challenge realm .missing = "Bearer realm=\"" ++ realm ++ "\"" := rfl

theorem challenge_invalid (realm : String) :
    challenge realm .invalid =
      "Bearer realm=\"" ++ realm ++ "\", error=\"invalid_token\"" := rfl

/--
Only the challenge to a wrong secret tells so, because a realm cannot hold
the quotes around the reason.
-/
theorem invalidTokenError_infix_iff {realm : String}
    (quoteless : '"' ∉ realm.toList) (reason : Refusal) :
    invalidTokenError.toList <:+: (challenge realm reason).toList ↔
      reason = .invalid := by
  cases reason with
  | invalid =>
      refine ⟨fun _ => rfl, fun _ => ?_⟩
      refine ⟨("Bearer realm=\"" ++ realm ++ "\", ").toList, [], ?_⟩
      have ending : "\", error=\"invalid_token\"" =
          "\", " ++ invalidTokenError := by decide
      rw [challenge_invalid, ending, List.append_nil]
      simp only [String.toList_append, List.append_assoc]
  | missing =>
      refine ⟨?_, nofun⟩
      rintro ⟨before, behind, shape⟩
      have text : before ++ invalidTokenError.toList ++ behind =
          "Bearer realm=".toList ++ '"' :: (realm.toList ++ ['"']) := by
        rw [shape, challenge_missing]
        simp
      have absent : '"' ∉ before ++ "error=".toList := by
        have quotes := congrArg (List.count '"') text
        have inError : invalidTokenError.toList.count '"' = 2 := by decide
        have inFront : "Bearer realm=".toList.count '"' = 0 := by decide
        have inRealm := List.count_eq_zero_of_not_mem quoteless
        simp only [List.count_append, List.count_cons_self, inError, inFront,
          inRealm, List.count_nil] at quotes
        rw [List.mem_append, not_or]
        exact ⟨List.count_eq_zero.mp (by omega), by decide⟩
      have first : before ++ "error=".toList = "Bearer realm=".toList := by
        have cut := cutCharacters?_append absent
          ("invalid_token\"".toList ++ behind)
        have whole : (before ++ "error=".toList) ++
            '"' :: ("invalid_token\"".toList ++ behind) =
              before ++ invalidTokenError.toList ++ behind := by
          have parts : invalidTokenError.toList =
              "error=".toList ++ '"' :: "invalid_token\"".toList := by decide
          rw [parts, List.append_assoc, List.append_assoc, List.append_assoc,
            List.cons_append]
        rw [whole, text, cutCharacters?_append (by decide)] at cut
        exact congrArg Prod.fst (Option.some.inj cut).symm
      have ending : "error=".toList <:+ "Bearer realm=".toList :=
        ⟨before, first⟩
      exact absurd ending (by decide)

theorem all_octets_append {front back : String} :
    (octets (front ++ back)).all isValueOctet =
      ((octets front).all isValueOctet && (octets back).all isValueOctet) := by
  rw [octets_append, List.all_append]

/-- A challenge can be sent wherever its realm can. -/
theorem headerValue?_challenge {realm : String}
    (sendable : (headerValue? realm).isSome = true) (reason : Refusal) :
    headerValue? (challenge realm reason) =
      some (octets (challenge realm reason)) := by
  have valid : (octets realm).all isValueOctet = true := by
    by_contra invalid
    rw [headerValue?, if_neg invalid] at sendable
    cases sendable
  have front : (octets "Bearer realm=\"").all isValueOctet = true := by
    rw [octets_eq]
    decide
  rw [headerValue?, if_pos]
  cases reason with
  | missing =>
      have back : (octets "\"").all isValueOctet = true := by
        rw [octets_eq]
        decide
      simp only [challenge_missing, all_octets_append, front, valid, back,
        Bool.and_self]
  | invalid =>
      have back :
          (octets "\", error=\"invalid_token\"").all isValueOctet =
            true := by
        rw [octets_eq]
        decide
      simp only [challenge_invalid, all_octets_append, front, valid, back,
        Bool.and_self]

/-! ## What the gate does -/

/-- The answer to a request that is not admitted. -/
def unauthorized (realm : String) (reason : Refusal) : Response :=
  .refusal 401 [⟨"www-authenticate", octets (challenge realm reason)⟩]
    "Unauthorized"

/-- The state behind a request that is let through under a name. -/
def authenticated (route name : String) (state : State) : State :=
  { state with
    reported := .debug "Request authenticated"
      [("route", route), ("token", name)] :: state.reported }

/-- The state behind a request that is refused. -/
def rejected (route : String) (reason : Refusal) (state : State) : State :=
  { state with
    reported := .warn "Authentication failed"
      [("route", route), ("reason", reason.name)] :: state.reported
    metrics := state.metrics.increment
      (Metrics.unauthenticated route reason.name) }

section Runs

variable {route realm : String} {tokens : List (String × String)}
  {request : Request} {state : State}

theorem runAction_gate_of_missing
    (nothing : presented? request.headers = none) :
    runAction (gate route realm tokens request) state =
      (.ok (.answer (unauthorized realm .missing)),
        rejected route .missing state) := by
  rw [gate, nothing]
  rfl

theorem runAction_gate_of_invalid {shown : String}
    (found : presented? request.headers = some shown)
    (unknown : holder? tokens shown = none) :
    runAction (gate route realm tokens request) state =
      (.ok (.answer (unauthorized realm .invalid)),
        rejected route .invalid state) := by
  rw [gate, found]
  dsimp only
  rw [unknown]
  rfl

theorem runAction_gate_of_holder {shown name : String}
    (found : presented? request.headers = some shown)
    (known : holder? tokens shown = some name) :
    runAction (gate route realm tokens request) state =
      (.ok (.forward { request with identity := some name } pure),
        authenticated route name state) := by
  rw [gate, found]
  dsimp only
  rw [known]
  rfl

end Runs

/-! ## Protected routes -/

/-- The names that the settings of a protected route list, if any. -/
inductive AllowList (overrides : Overrides) : List String → Prop where
  | unlisted
      (plain : ∀ entries, overrides.get? key ≠ some (.mapping entries)) :
      AllowList overrides []
  | listed {entries : Mapping} {route : RouteAuth}
      (given : overrides.get? key = some (.mapping entries))
      (read : RouteAuth.decoder (.mapping entries) = .ok route) :
      AllowList overrides route.allow

theorem allowList_of_requirement {settings : AuthSettings}
    {overrides : Overrides} {allow : List String}
    (required : requirement settings overrides = .ok (some allow)) :
    AllowList overrides allow := by
  unfold requirement at required
  split at required
  · cases required
  split at required
  · rename_i absent
    split at required
    · cases required
      exact .unlisted (by simp [absent])
    · cases required
  · rename_i null
    split at required
    · cases required
      exact .unlisted (by simp [null])
    · cases required
  · rename_i flag given
    split at required
    · cases required
      exact .unlisted (by simp [given])
    · cases required
  · rename_i entries given
    split at required
    · rename_i route read
      split at required
      · cases required
        exact .listed given read
      · cases required
    · cases required
  · cases required

theorem checked_ok {settings result : AuthSettings}
    (checked : settings.checked = .ok result) :
    result = settings ∧ AuthSettings.isRealm settings.realm = true ∧
      ∀ token ∈ settings.tokens, trimmed token.2 ≠ "" := by
  unfold AuthSettings.checked at checked
  split at checked
  · cases checked
  · rename_i filled
    split at checked
    · rename_i realm
      refine ⟨(Except.ok.inj checked).symm, realm, fun token member => ?_⟩
      simpa using List.find?_eq_none.mp filled token member
    · cases checked

/-- An extension is built from settings that have been checked. -/
theorem checked_of_construct {config : Config} {begun built : State}
    {extension : Extension}
    (constructed : runAction (construct config) begun =
      (.ok extension, built)) :
    ∃ settings, Extension.sectionSettings key AuthSettings.decoder .default
        config = .ok settings ∧
      settings.checked = .ok settings ∧
      extension = Auth.extension settings := by
  rcases runAction_bind_eq_ok_iff.mp constructed with
    ⟨settings, between, decided, rest⟩
  rw [runAction_ofPure, Prod.mk.injEq] at decided
  rcases bind_eq_ok_iff.mp decided.1 with ⟨given, read, checked⟩
  obtain rfl := (checked_ok checked).1
  refine ⟨settings, read, checked, ?_⟩
  -- Whether a warning is left does not matter for what is built.
  split at rest
  · rcases runAction_bind_eq_ok_iff.mp rest with ⟨_, _, _, rest⟩
    cases rest
    rfl
  · cases rest
    rfl

/-- An extension is built from settings whose realm can be sent. -/
theorem construct_ok {config : Config} {begun built : State}
    {extension : Extension}
    (constructed : runAction (construct config) begun =
      (.ok extension, built)) :
    ∃ settings, Extension.sectionSettings key AuthSettings.decoder .default
        config = .ok settings ∧
      AuthSettings.isRealm settings.realm = true ∧
      extension = Auth.extension settings := by
  rcases checked_of_construct constructed with
    ⟨settings, read, checked, made⟩
  exact ⟨settings, read, (checked_ok checked).2.1, made⟩

theorem ordered_of_sectionSettings {config : Config}
    {settings : AuthSettings}
    (read : Extension.sectionSettings key AuthSettings.decoder .default
      config = .ok settings) : Decode.Ordered settings.tokens := by
  have nothing : Decode.Ordered AuthSettings.default.tokens :=
    List.Pairwise.nil
  unfold Extension.sectionSettings Config.read at read
  rw [mapError_eq_ok_iff] at read
  split at read
  · cases read
    exact nothing
  · have kept : ∀ field ∈ AuthSettings.fields, field.Keeps
        fun settings => Decode.Ordered settings.tokens := by
      intro field member
      simp only [AuthSettings.fields, List.mem_cons, List.not_mem_nil,
        or_false] at member
      rcases member with rfl | rfl | rfl
      · exact Decode.Field.keeps_of _ fun value table decoded _ _ =>
          Decode.ordered_of_textTable decoded
      · exact Decode.Field.keeps_of _ fun _ _ _ _ ordered => ordered
      · exact Decode.Field.keeps_of _ fun _ _ _ _ ordered => ordered
    have ordered := Decode.record_keeps kept read nothing
    exact ordered

/-- The layer of a protected route is the gate for the tokens it accepts. -/
theorem attach_ok {settings : AuthSettings} {route : Info}
    {overrides : Overrides} {layer : Layer}
    (guarded : applies settings overrides = true)
    (attached : attach settings route overrides = .ok layer) :
    ∃ allow, AllowList overrides allow ∧
      (∀ name ∈ allow, name ∈ settings.tokens.map Prod.fst) ∧
      layer = gate route.path settings.realm
        (settings.tokens.filter fun token =>
          allow.isEmpty || allow.contains token.1) := by
  rcases bind_eq_ok_iff.mp attached with ⟨required, found, attached⟩
  rcases bind_eq_ok_iff.mp attached with ⟨tokens, filtered, shape⟩
  rw [applies, found] at guarded
  rcases Option.isSome_iff_exists.mp guarded with ⟨allow, rfl⟩
  rcases accepted_ok filtered with ⟨known, rfl⟩
  exact ⟨allow, allowList_of_requirement found, known,
    (pure_eq_ok_iff.mp shape).symm⟩

/--
A layer lets exactly the requests through that show the secret of an accepted
token, under the first name of such a token, and refuses all others with the
same answer.
-/
structure Protects (layer : Layer) (settings : AuthSettings)
    (allow : List String) (route : String) : Prop where
  /-- The handler runs exactly if an accepted token opens the gate. -/
  runs : ∀ {handler request state visits outcome after},
    Passage handler [(key, layer)] request state visits outcome after →
    (.handler ∈ visits ↔
      ∃ name, Opens settings.tokens allow request.headers name)
  /-- It is told the first name, and its response is not changed. -/
  admitted : ∀ {request},
    (∃ name, Opens settings.tokens allow request.headers name) →
    ∃ name, Admits settings.tokens allow request.headers name ∧
      ∀ handler state, runAction (layer.around handler request) state =
        runAction (handler { request with identity := some name })
          (authenticated route name state)
  /-- Any other request is answered without the handler. -/
  refused : ∀ {request},
    (∀ name, ¬ Opens settings.tokens allow request.headers name) →
    ∃ reason,
      (∀ handler state, runAction (layer.around handler request) state =
        (.ok (unauthorized settings.realm reason),
          rejected route reason state)) ∧
      headerValue? (challenge settings.realm reason) =
        some (octets (challenge settings.realm reason)) ∧
      (invalidTokenError.toList <:+:
          (challenge settings.realm reason).toList ↔
        ∃ secret, Shows request.headers secret)

theorem protects_gate {settings : AuthSettings}
    (ordered : Decode.Ordered settings.tokens)
    (realm : AuthSettings.isRealm settings.realm = true)
    (allow : List String) (route : String) :
    Protects (gate route settings.realm (settings.tokens.filter fun token =>
      allow.isEmpty || allow.contains token.1)) settings allow route := by
  simp only [AuthSettings.isRealm, Bool.and_eq_true, Bool.not_eq_true',
    List.contains_eq_mem, decide_eq_false_iff_not] at realm
  rcases realm with ⟨quoteless, sendable⟩
  refine ⟨?_, ?_, ?_⟩
  · intro handler request state visits outcome after passage
    rw [handler_mem_visits_iff passage, ← exists_admits_iff ordered]
    simp only [admits_iff ordered]
    constructor
    · rintro ⟨passed, finish, between, run⟩
      rcases found : presented? request.headers with _ | shown
      · rw [runAction_gate_of_missing found] at run
        cases run
      rcases known : holder? (settings.tokens.filter fun token =>
          allow.isEmpty || allow.contains token.1) shown with _ | name
      · rw [runAction_gate_of_invalid found known] at run
        cases run
      · exact ⟨name, shown, rfl, known⟩
    · rintro ⟨name, shown, found, known⟩
      exact ⟨_, _, _, runAction_gate_of_holder found known⟩
  · intro request opens
    rcases (exists_admits_iff ordered).mpr opens with ⟨name, admits⟩
    refine ⟨name, admits, fun handler state => ?_⟩
    rcases (admits_iff ordered).mp admits with ⟨shown, found, known⟩
    rw [runAction_around_forwarded (runAction_gate_of_holder found known),
      bind_pure]
  · intro request nobody
    rw [← not_exists, ← exists_admits_iff ordered] at nobody
    simp only [admits_iff ordered, not_exists, not_and] at nobody
    rcases found : presented? request.headers with _ | shown
    · refine ⟨.missing, ?_, headerValue?_challenge sendable _, ?_⟩
      · intro handler state
        exact runAction_around_answered (runAction_gate_of_missing found)
      · rw [invalidTokenError_infix_iff quoteless]
        refine ⟨nofun, ?_⟩
        rintro ⟨secret, shows⟩
        exact (presented?_eq_none_iff.mp found secret shows).elim
    · have unknown : holder? (settings.tokens.filter fun token =>
          allow.isEmpty || allow.contains token.1) shown = none :=
        Option.eq_none_iff_forall_ne_some.mpr fun name =>
          nobody name shown found
      refine ⟨.invalid, ?_, headerValue?_challenge sendable _, ?_⟩
      · intro handler state
        exact runAction_around_answered
          (runAction_gate_of_invalid found unknown)
      · rw [invalidTokenError_infix_iff quoteless]
        exact ⟨fun _ => ⟨shown, presented?_eq_some_iff.mp found⟩,
          fun _ => rfl⟩

/--
Whatever settings are accepted and whatever a protected route says: the
layer of the route protects it with the tokens that it lists.
-/
theorem protects_of_attach {config : Config} {begun built : State}
    {extension : Extension}
    (constructed : runAction (construct config) begun =
      (.ok extension, built))
    {route : Info} {overrides : Overrides}
    (guarded : extension.applies route overrides = true)
    {attaching attached : State} {layer : Layer}
    (attaches : runAction (extension.attach route overrides) attaching =
      (.ok layer, attached)) :
    ∃ settings allow,
      Extension.sectionSettings key AuthSettings.decoder .default config =
        .ok settings ∧
      Decode.Ordered settings.tokens ∧
      AllowList overrides allow ∧
      (∀ name ∈ allow, name ∈ settings.tokens.map Prod.fst) ∧
      Protects layer settings allow route.path := by
  rcases construct_ok constructed with ⟨settings, read, realm, rfl⟩
  have ordered := ordered_of_sectionSettings read
  have attachedOk : attach settings route overrides = .ok layer :=
    congrArg Prod.fst attaches
  rcases attach_ok guarded attachedOk with ⟨allow, lists, known, rfl⟩
  exact ⟨settings, allow, read, ordered, lists, known,
    protects_gate ordered realm allow route.path⟩

/-- Two names with one secret, not listed in the order of the names. -/
def sharedSecret : Config :=
  ⟨key, .mapping [(.string "tokens", .mapping
    [(.string "b", .string "s"), (.string "a", .string "s")])]⟩

/-- A request with an authorization. -/
def asking (authorization : String) : Request where
  method := .get
  target := "/"
  headers := [⟨"authorization", octets authorization⟩]
  body := []
  peer := none

theorem opens_asking {tokens : List (String × String)}
    (member : ("a", "s") ∈ tokens) :
    Opens tokens [] (asking "bEARER  s ").headers "a" := by
  refine ⟨"s", "s", ?_, member, .inl rfl, rfl⟩
  exact ⟨_, "bEARER  s ", "bEARER".toList, " s ".toList, rfl,
    ⟨List.all_eq_true.mp (by cbv), rfl⟩, by decide, by decide, by decide,
    trims_iff.mpr (by decide), by decide⟩

/-- Of two names with the secret that is shown, the first one is told. -/
theorem protects_of_attach_shared_secret :
    let route : Info := ⟨"/", .get, .api⟩
    let overrides : Overrides := .ofMapping [(.string key, .bool true)]
    ∃ extension built layer attached,
      runAction (construct sharedSecret) (.start fun _ => 0) =
        (.ok extension, built) ∧
      extension.applies route overrides = true ∧
      runAction (extension.attach route overrides) built =
        (.ok layer, attached) ∧
      ∀ handler state,
        runAction (layer.around handler (asking "bEARER  s ")) state =
          runAction
            (handler { asking "bEARER  s " with identity := some "a" })
            (authenticated "/" "a" state) := by
  intro route overrides
  let settings : AuthSettings :=
    ⟨[("a", "s"), ("b", "s")], false, "trellis"⟩
  have constructed : runAction (construct sharedSecret)
      (.start fun _ => 0) =
        (.ok (Auth.extension settings), .start fun _ => 0) := by cbv
  have guarded : (Auth.extension settings).applies route overrides = true :=
    rfl
  have attaches :
      runAction ((Auth.extension settings).attach route overrides)
          (.start fun _ => 0) =
        (.ok (gate "/" "trellis" settings.tokens), .start fun _ => 0) := rfl
  refine ⟨_, _, _, _, constructed, guarded, attaches, ?_⟩
  rcases protects_of_attach constructed guarded attaches with
    ⟨found, allow, read, _, lists, _, protects⟩
  have given : Extension.sectionSettings key AuthSettings.decoder .default
      sharedSecret = .ok settings := rfl
  obtain rfl := Except.ok.inj (given.symm.trans read)
  cases lists with
  | listed mapping => cases mapping
  | unlisted =>
      have opens :
          Opens settings.tokens [] (asking "bEARER  s ").headers "a" :=
        opens_asking List.mem_cons_self
      rcases protects.admitted ⟨"a", opens⟩ with
        ⟨name, ⟨⟨_, secret, _, member, _⟩, least⟩, runs⟩
      have first : name = "a" := by
        have before := least "a" opens
        simp only [List.mem_cons, Prod.mk.injEq, List.not_mem_nil,
          or_false, settings] at member
        rcases member with ⟨rfl, _⟩ | ⟨rfl, _⟩
        · rfl
        · exact absurd before (by decide)
      rw [first] at runs
      exact runs

end Gatehouse.Security.Auth
