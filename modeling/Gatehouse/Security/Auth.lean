import Gatehouse.Extension.Basic
import Gatehouse.Http.Response
import Gatehouse.Security.Secret
import Gatehouse.Text.Cut

/-!
# Bearer tokens

Protected routes answer only to requests that show the secret of a named
token.  A route is protected when its settings ask for it, or when all
routes are to be protected and this one does not opt out.  Settings that
cannot be read count as asking, so that registering the route fails instead
of leaving it open.
-/

namespace Gatehouse.Security

open Gatehouse.Extension (Config Fault)
open Gatehouse.Http
open Gatehouse.Route (Info Overrides)
open Gatehouse.Serve
open Gatehouse.Text
open Gatehouse.Yaml

structure AuthSettings where
  /-- The names of tokens with their secrets, ordered by name. -/
  tokens : List (String × String)
  /-- Whether routes are protected unless they opt out. -/
  requireAll : Bool
  /-- What a refused client is told it would get access to. -/
  realm : String
  deriving DecidableEq, Repr

namespace AuthSettings

def default : AuthSettings :=
  ⟨[], false, "trellis"⟩

def fields : List (Decode.Field AuthSettings) :=
  [.of "tokens" Decode.textTable fun value settings =>
      { settings with tokens := value },
    .of "require_all" Decode.bool fun value settings =>
      { settings with requireAll := value },
    .of "realm" Decode.text fun value settings =>
      { settings with realm := value }]

def decoder : Decoder AuthSettings :=
  Decode.record "AuthSettings" fields default false

def toValue (settings : AuthSettings) : Value :=
  .recordOf
    [("tokens", .textTable settings.tokens),
      ("require_all", .bool settings.requireAll),
      ("realm", .string settings.realm)]

/-- Whether a text can stand between the quotes of a challenge. -/
def isRealm (text : String) : Bool :=
  !text.toList.contains '"' && (headerValue? text).isSome

/-- The settings, refused if a secret is blank or the realm cannot be sent. -/
def checked (settings : AuthSettings) : Except Fault AuthSettings :=
  match settings.tokens.find? fun token => (trimmed token.2).isEmpty with
  | some (name, _) => .error (.emptyToken name)
  | none =>
    if isRealm settings.realm then .ok settings
    else .error (.invalidRealm settings.realm)

end AuthSettings

/-- What a route says about its own protection. -/
structure RouteAuth where
  enabled : Option Bool
  required : Option Bool
  /-- The names of the tokens that count; all of them if the list is empty. -/
  allow : List String
  deriving DecidableEq, Repr

namespace RouteAuth

/-- The fields of the settings of a route. -/
def fields : List (Decode.Field RouteAuth) :=
  [.of "enabled" (Decode.optional Decode.bool) fun value settings =>
      { settings with enabled := value },
    .of "required" (Decode.optional Decode.bool) fun value settings =>
      { settings with required := value },
    .of "allow" (Decode.list Decode.text) fun value settings =>
      { settings with allow := value }]

/-- Reads the settings of a route, which must not say anything else. -/
def decoder : Decoder RouteAuth :=
  Decode.record "RouteAuth" fields ⟨none, none, []⟩ true

/-- Whether the route asks to be protected. -/
def isRequired (settings : RouteAuth) : Bool :=
  settings.enabled.getD true && settings.required.getD true

end RouteAuth

namespace Auth

/-- The key of the section, and of the settings of a route. -/
def key : String := "auth"

/-- The names that a protected route accepts; nothing if it is public. -/
def requirement (settings : AuthSettings) (overrides : Overrides) :
    Except Fault (Option (List String)) :=
  if overrides.isDisabled key then .ok none
  else
    match overrides.get? key with
    | none | some .null => .ok (if settings.requireAll then some [] else none)
    | some (.bool required) => .ok (if required then some [] else none)
    | some (.mapping entries) =>
      match RouteAuth.decoder (.mapping entries) with
      | .ok route => .ok (if route.isRequired then some route.allow else none)
      | .error cause => .error (.unreadable key cause)
    | some other => .error (.neitherFlagNorMapping other)

/-- Whether a route is protected. -/
def applies (settings : AuthSettings) (overrides : Overrides) : Bool :=
  match requirement settings overrides with
  | .ok names => names.isSome
  | .error _ => true

/-- The secret that a request shows, without blanks around it. -/
def presented? (headers : Headers) : Option String :=
  match (headers.text? "authorization").bind (cut? ' ') with
  | some (scheme, secret) =>
    let secret := trimmed secret
    if lowercased scheme == "bearer" && !secret.isEmpty then some secret
    else none
  | none => none

/-- The first token with a given secret. -/
def holder? (tokens : List (String × String)) (secret : String) :
    Option String :=
  (tokens.find? fun token =>
    sameSecret (octets token.2) (octets secret)).map Prod.fst

/-- Why a request is refused. -/
inductive Refusal where
  /-- It shows no secret. -/
  | missing
  /-- It shows a secret that no token has. -/
  | invalid
  deriving DecidableEq, Repr

/-- The name of a reason. -/
def Refusal.name : Refusal → String
  | .missing => "missing"
  | .invalid => "invalid"

/-- What a refused client is told. -/
def challenge (realm : String) : Refusal → String
  | .missing => "Bearer realm=\"" ++ realm ++ "\""
  | .invalid => "Bearer realm=\"" ++ realm ++ "\", error=\"invalid_token\""

/-- Refuse a request. -/
def refuse (route realm : String) (reason : Refusal) :
    Action Interruption Decision := do
  Action.report (.warn "Authentication failed"
    [("route", route), ("reason", reason.name)])
  Action.count (Metrics.unauthenticated route reason.name)
  return .answer (.refusal 401
    [⟨"www-authenticate", octets (challenge realm reason)⟩] "Unauthorized")

/-- The layer that lets requests with the secret of a token through. -/
def gate (route realm : String) (tokens : List (String × String)) : Layer :=
  fun request => do
    match presented? request.headers with
    | none => refuse route realm .missing
    | some secret =>
      match holder? tokens secret with
      | none => refuse route realm .invalid
      | some name =>
        Action.report (.debug "Request authenticated"
          [("route", route), ("token", name)])
        return .forward { request with identity := some name } pure

/-- The tokens that a route accepts. -/
def accepted (settings : AuthSettings) (allow : List String) :
    Except Fault (List (String × String)) :=
  match allow.find? fun name => (settings.tokens.lookup name).isNone with
  | some unknown => .error (.unknownToken unknown)
  | none =>
    .ok (settings.tokens.filter fun token =>
      allow.isEmpty || allow.contains token.1)

def attach (settings : AuthSettings) (route : Info) (overrides : Overrides) :
    Except Fault Layer := do
  let allow := (← requirement settings overrides).getD []
  let tokens ← accepted settings allow
  return gate route.path settings.realm tokens

/-- The extension with given settings. -/
def extension (settings : AuthSettings) : Extension where
  name := key
  applies _ overrides := applies settings overrides
  attach route overrides :=
    Action.ofPure (attach settings route overrides)

/-- What is reported when no token can be shown. -/
def noTokensEvent : Event :=
  .warn ("auth extension has no tokens; protected routes will reject every " ++
    "request") []

def construct (config : Config) : Action Fault Extension := do
  let settings ← Action.ofPure do
    let settings ← Extension.sectionSettings key AuthSettings.decoder .default
      config
    settings.checked
  if settings.tokens.isEmpty then Action.report noTokensEvent
  return extension settings

end Auth

end Gatehouse.Security
