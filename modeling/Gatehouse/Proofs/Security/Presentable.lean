import Gatehouse.Proofs.Security.Bearer

/-!
# Secrets that can be presented

Settings are refused if a secret is blank, because a request shows no blanks
around its secret.  But the same holds of blanks at either end of any other
secret, and of characters that no header shows: such a secret passes the
check and opens nothing.  Main statement: a configured secret opens the gate
exactly if it is visible and has no blank at either end, and then the header
that spells it out does.
-/

namespace Gatehouse.Security.Auth

open Gatehouse.Extension (Config)
open Gatehouse.Http
open Gatehouse.Outcome
open Gatehouse.Route (Info Overrides)
open Gatehouse.Serve
open Gatehouse.Text
open Gatehouse.Yaml

/-! ## What can be shown -/

/-- A text that a header shows as it is: visible, without blanks around it. -/
structure Presentable (secret : String) : Prop where
  visible : ∀ octet ∈ octets secret, isVisibleOctet octet = true
  bare : trimmed secret = secret

/-- The authorization that spells a secret out. -/
def bearer (secret : String) : Octets :=
  octets ("Bearer " ++ secret)

theorem octets_subset {text inner : String}
    (among : inner.toList ⊆ text.toList) : octets inner ⊆ octets text := by
  simp only [octets_eq]
  intro octet member
  rcases List.mem_flatMap.mp member with ⟨character, held, spelled⟩
  exact List.mem_flatMap.mpr ⟨character, among held, spelled⟩

/-- Trimming twice leaves what trimming once leaves. -/
theorem trimmed_of_trims {characters : List Char} {inner : String}
    (trims : Trims characters inner.toList) : trimmed inner = inner := by
  rcases trims with ⟨_, _, _, _, _, first, last⟩
  rw [trimmed_eq_iff]
  refine ⟨[], [], ?_, nofun, nofun, first, last⟩
  rw [List.nil_append, List.append_nil]

/-- Whatever a request shows can be presented, and is not empty. -/
theorem Shows.presentable {headers : Headers} {secret : String}
    (shows : Shows headers secret) : Presentable secret ∧ secret ≠ "" := by
  rcases shows with
    ⟨value, text, scheme, rest, _, spells, parts, _, _, trims, filled⟩
  refine ⟨⟨?_, trimmed_of_trims trims⟩, filled⟩
  have among : secret.toList ⊆ text.toList := by
    intro character member
    rw [parts]
    exact List.mem_append_right _
      (List.mem_cons_of_mem _ (trims.subset member))
  intro octet member
  apply spells.1
  rw [← spells.2]
  exact octets_subset among member

theorem visible_bearer {secret : String} (presentable : Presentable secret) :
    ∀ octet ∈ bearer secret, isVisibleOctet octet = true := by
  have front : Spells (octets "Bearer ") "Bearer " :=
    spells_octets (List.all_eq_true.mp (by decide))
  intro octet member
  rw [bearer, octets_append, List.mem_append] at member
  exact member.elim (front.1 octet) (presentable.visible octet)

/-- The header that spells a presentable secret out shows it. -/
theorem shows_of_bearer {headers : Headers} {secret : String}
    (presentable : Presentable secret) (filled : secret ≠ "")
    (first : headers.first? "authorization" = some (bearer secret)) :
    Shows headers secret := by
  refine ⟨_, "Bearer " ++ secret, "Bearer".toList, secret.toList, first,
    ⟨visible_bearer presentable, rfl⟩, ?_, by decide, by decide,
    trimmed_eq_iff.mp presentable.bare, filled⟩
  rw [String.toList_append]
  rfl

/-! ## Secrets that open the gate -/

/--
A layer lets a request through for a secret: the request shows it, and the
handler answers it under some name.
-/
def LetsIn (layer : Layer) (route : String) (request : Request)
    (secret : String) : Prop :=
  Shows request.headers secret ∧ ∃ name, ∀ handler state,
    runAction (layer.around handler request) state =
      runAction (handler { request with identity := some name })
        (authenticated route name state)

/-- Of the tokens that a route accepts, a request may show any secret. -/
theorem Protects.letsIn {layer : Layer} {settings : AuthSettings}
    {allow : List String} {route name secret : String}
    (protects : Protects layer settings allow route)
    (member : (name, secret) ∈ settings.tokens)
    (accepts : Accepts allow name) {request : Request}
    (shows : Shows request.headers secret) :
    LetsIn layer route request secret := by
  have opens : Opens settings.tokens allow request.headers name :=
    ⟨secret, secret, shows, member, accepts, rfl⟩
  rcases protects.admitted ⟨name, opens⟩ with ⟨known, _, runs⟩
  exact ⟨shows, known, runs⟩

/-- A request with nothing but an authorization. -/
def showing (value : Octets) : Request where
  method := .get
  target := "/"
  headers := [⟨"authorization", value⟩]
  body := []
  peer := none

/--
Whatever settings are accepted, and whatever a protected route says: a
configured secret that the route accepts opens its gate exactly if it can be
presented, and then every request does whose authorization spells it out.
-/
theorem letsIn_iff_presentable {config : Config} {begun built : State}
    {extension : Extension}
    (constructed : runAction (construct config) begun =
      (.ok extension, built))
    {route : Info} {overrides : Overrides}
    (guarded : extension.applies route overrides = true)
    {attaching attached : State} {layer : Layer}
    (attaches : runAction (extension.attach route overrides) attaching =
      (.ok layer, attached)) :
    ∃ settings allow,
      Extension.sectionSettings key AuthSettings.decoder .default config =
        .ok settings ∧
      AllowList overrides allow ∧
      ∀ name secret, (name, secret) ∈ settings.tokens →
        Accepts allow name →
        ((∃ request, LetsIn layer route.path request secret) ↔
          Presentable secret) ∧
        (Presentable secret →
          headerValue? ("Bearer " ++ secret) = some (bearer secret) ∧
          ∀ request : Request,
            request.headers.first? "authorization" = some (bearer secret) →
            LetsIn layer route.path request secret) := by
  rcases checked_of_construct constructed with
    ⟨settings, read, checked, rfl⟩
  rcases checked_ok checked with ⟨_, realm, filled⟩
  have attachedOk : attach settings route overrides = .ok layer :=
    congrArg Prod.fst attaches
  rcases attach_ok guarded attachedOk with ⟨allow, lists, _, shape⟩
  have protects : Protects layer settings allow route.path := by
    rw [shape]
    exact protects_gate (ordered_of_sectionSettings read) realm allow
      route.path
  refine ⟨settings, allow, read, lists, ?_⟩
  intro name secret member accepts
  have spelled : Presentable secret → ∀ request : Request,
      request.headers.first? "authorization" = some (bearer secret) →
      LetsIn layer route.path request secret := by
    intro presentable request first
    -- The check has refused blank secrets, and this one is not trimmed.
    have notEmpty : secret ≠ "" := by
      have kept := filled _ member
      rwa [presentable.bare] at kept
    exact protects.letsIn member accepts
      (shows_of_bearer presentable notEmpty first)
  refine ⟨⟨?_, ?_⟩, ?_⟩
  · rintro ⟨request, shows, _⟩
    exact shows.presentable.1
  · intro presentable
    exact ⟨showing (bearer secret), spelled presentable _ rfl⟩
  · intro presentable
    exact ⟨headerValue?_of_spells ⟨visible_bearer presentable, rfl⟩,
      spelled presentable⟩

/-- Two tokens; a blank inside a secret counts, and so does one behind it. -/
def blankSecrets : Config :=
  ⟨key, .mapping [(.string "tokens", .mapping
    [(.string "deploy", .string "d secret"),
      (.string "old", .string "d-secret ")])]⟩

def blankSettings : AuthSettings :=
  ⟨[("deploy", "d secret"), ("old", "d-secret ")], false, "trellis"⟩

theorem construct_blankSecrets :
    runAction (construct blankSecrets) (.start fun _ => 0) =
      (.ok (extension blankSettings), .start fun _ => 0) := by
  cbv

/-- One of the secrets opens the gate, and the other one never does. -/
theorem letsIn_one_of_two :
    let page : Info := ⟨"/", .get, .html⟩
    let overrides : Overrides := .ofMapping [(.string key, .bool true)]
    ∃ layer,
      runAction (construct blankSecrets) (.start fun _ => 0) =
        (.ok (extension blankSettings), .start fun _ => 0) ∧
      (extension blankSettings).applies page overrides = true ∧
      runAction ((extension blankSettings).attach page overrides)
          (.start fun _ => 0) = (.ok layer, .start fun _ => 0) ∧
      LetsIn layer "/" (showing (bearer "d secret")) "d secret" ∧
      ∀ request, ¬ LetsIn layer "/" request "d-secret " := by
  intro page overrides
  have guarded : (extension blankSettings).applies page overrides = true :=
    rfl
  have attaches :
      runAction ((extension blankSettings).attach page overrides)
          (.start fun _ => 0) =
        (.ok (gate "/" "trellis" blankSettings.tokens),
          .start fun _ => 0) := rfl
  refine ⟨_, construct_blankSecrets, guarded, attaches, ?_⟩
  rcases letsIn_iff_presentable construct_blankSecrets guarded attaches with
    ⟨settings, allow, read, lists, each⟩
  have given : Extension.sectionSettings key AuthSettings.decoder .default
      blankSecrets = .ok blankSettings := rfl
  obtain rfl := Except.ok.inj (given.symm.trans read)
  cases lists with
  | listed mapping => cases mapping
  | unlisted =>
      constructor
      · have presentable : Presentable "d secret" :=
          ⟨(spells_octets (List.all_eq_true.mp (by decide))).1, by decide⟩
        exact ((each "deploy" "d secret" List.mem_cons_self (.inl rfl)).2
          presentable).2 _ rfl
      · intro request letsIn
        have padded : ("old", "d-secret ") ∈ blankSettings.tokens :=
          List.mem_cons_of_mem _ List.mem_cons_self
        have presentable := (each "old" "d-secret " padded (.inl rfl)).1.mp
          ⟨request, letsIn⟩
        exact absurd presentable.bare (by decide)

/-- One token, whose secret ends in a blank. -/
def paddedSecret : Config :=
  ⟨key, .mapping [(.string "tokens", .mapping
    [(.string "deploy", .string "d-secret ")])]⟩

/-- A secret passes the check, and no request whatever is let through. -/
theorem refused_behind_padded_secret :
    let page : Info := ⟨"/", .get, .html⟩
    let overrides : Overrides := .ofMapping [(.string key, .bool true)]
    let settings : AuthSettings := ⟨[("deploy", "d-secret ")], false, "trellis"⟩
    runAction (construct paddedSecret) (.start fun _ => 0) =
        (.ok (extension settings), .start fun _ => 0) ∧
      (extension settings).applies page overrides = true ∧
      ∃ layer, runAction ((extension settings).attach page overrides)
          (.start fun _ => 0) = (.ok layer, .start fun _ => 0) ∧
        ∀ request, ∃ reason, ∀ handler state,
          runAction (layer.around handler request) state =
            (.ok (unauthorized "trellis" reason),
              rejected "/" reason state) := by
  intro page overrides settings
  have constructed : runAction (construct paddedSecret) (.start fun _ => 0) =
      (.ok (extension settings), .start fun _ => 0) := by cbv
  refine ⟨constructed, rfl, gate "/" "trellis" settings.tokens, rfl, ?_⟩
  intro request
  have ordered : Decode.Ordered settings.tokens :=
    List.pairwise_singleton _ _
  have realm : AuthSettings.isRealm settings.realm = true := by cbv
  have nobody : ∀ name,
      ¬ Opens settings.tokens [] request.headers name := by
    rintro name ⟨shown, secret, shows, member, _, same⟩
    have held : secret = "d-secret " := by
      simpa [settings] using congrArg Prod.snd (List.mem_singleton.mp member)
    have shown : shown = "d-secret " :=
      (octets_injective same).symm.trans held
    have bare := shows.presentable.1.bare
    rw [shown] at bare
    exact absurd bare (by decide)
  rcases (protects_gate ordered realm [] "/").refused nobody with
    ⟨reason, runs, _⟩
  exact ⟨reason, runs⟩

end Gatehouse.Security.Auth
