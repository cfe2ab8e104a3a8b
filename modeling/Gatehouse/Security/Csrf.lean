import Gatehouse.Extension.Basic
import Gatehouse.Http.Response
import Gatehouse.Security.Secret
import Gatehouse.Text.Cut

/-!
# Forged requests

A form that another site makes a browser send carries the cookies of the
client but not a copy of one of them in a header.  Requests that only read
get a cookie with a token unless they bring one; all others have to repeat
their cookie in a header.  Routes that serve data are guarded only on
demand.  Settings that cannot be read never leave a page unguarded: they
make registering the route fail.
-/

namespace Gatehouse.Security

open Gatehouse.Extension (Config Fault)
open Gatehouse.Http
open Gatehouse.Route (Info Overrides Pattern)
open Gatehouse.Serve
open Gatehouse.Text
open Gatehouse.Yaml

structure CsrfSettings where
  cookieName : String
  /-- The header in which a request repeats its cookie. -/
  headerName : String
  /-- Whether routes that serve data are guarded as well. -/
  protectApi : Bool
  /-- Patterns of paths that are never guarded. -/
  exempt : List String
  secureCookie : Bool
  sameSite : String
  deriving DecidableEq, Repr

namespace CsrfSettings

def default : CsrfSettings :=
  ⟨"csrftoken", "x-csrf-token", false, [], false, "Lax"⟩

def fields : List (Decode.Field CsrfSettings) :=
  [.of "cookie_name" Decode.text fun value settings =>
      { settings with cookieName := value },
    .of "header_name" Decode.text fun value settings =>
      { settings with headerName := value },
    .of "protect_api" Decode.bool fun value settings =>
      { settings with protectApi := value },
    .of "exempt" (Decode.list Decode.text) fun value settings =>
      { settings with exempt := value },
    .of "secure_cookie" Decode.bool fun value settings =>
      { settings with secureCookie := value },
    .of "same_site" Decode.text fun value settings =>
      { settings with sameSite := value }]

def decoder : Decoder CsrfSettings :=
  Decode.record "CsrfSettings" fields default false

def toValue (settings : CsrfSettings) : Value :=
  .recordOf
    [("cookie_name", .string settings.cookieName),
      ("header_name", .string settings.headerName),
      ("protect_api", .bool settings.protectApi),
      ("exempt", .texts settings.exempt),
      ("secure_cookie", .bool settings.secureCookie),
      ("same_site", .string settings.sameSite)]

/-- Whether a path is never guarded; texts that are no pattern do not count. -/
def exempts (settings : CsrfSettings) (path : String) : Bool :=
  settings.exempt.any fun text =>
    match Pattern.parse text with
    | .ok pattern => pattern.matches path
    | .error _ => false

end CsrfSettings

/-- The cookie and the header of a guarded route. -/
structure CsrfGuard where
  cookieName : String
  /-- The name of the header in lowercase letters. -/
  headerName : String
  /-- What stands behind the token in a new cookie. -/
  attributes : String
  deriving DecidableEq, Repr

namespace Csrf

/-- The key of the section, and of the settings of a route. -/
def key : String := "csrf"

/-- A character of a cookie name. -/
def isCookieCharacter (character : Char) : Bool :=
  character.isAlphanum || character == '_' || character == '-'

/-- Whether a text is the name of a cookie. -/
def isCookieName (text : String) : Bool :=
  !text.isEmpty && text.toList.all isCookieCharacter

/-- To whom browsers send a cookie, by its names in lowercase letters. -/
def sameSiteNames : List (String × String) :=
  [("strict", "Strict"), ("lax", "Lax"), ("none", "None")]

/-- The attributes of a new cookie. -/
def attributesOf (sameSite : String) (secure : Bool) : String :=
  "; Path=/; SameSite=" ++ sameSite ++
    if secure || sameSite == "None" then "; Secure" else ""

/-- The cookie and the header of some settings, if they are well-formed. -/
def guardOf (settings : CsrfSettings) : Except Fault CsrfGuard :=
  if !isCookieName settings.cookieName then
    .error (.invalidCookieName settings.cookieName)
  else
    match headerName? settings.headerName with
    | none => .error (.invalidTokenHeader settings.headerName)
    | some headerName =>
      let wanted := lowercased settings.sameSite
      match sameSiteNames.lookup wanted with
      | none => .error (.invalidSameSite wanted)
      | some sameSite =>
        .ok ⟨settings.cookieName, headerName,
          attributesOf sameSite settings.secureCookie⟩

/-- Refused if a text in a list is no pattern. -/
def checkExemptions : List String → Except Fault Unit
  | [] => .ok ()
  | text :: rest =>
    match Pattern.parse text with
    | .ok _ => checkExemptions rest
    | .error cause => .error (.invalidExemption text cause)

/-- Refused if settings are not well-formed. -/
def check (settings : CsrfSettings) : Except Fault Unit := do
  let _ ← guardOf settings
  checkExemptions settings.exempt

/-- The cookies of a request: names with what stands behind their `=`. -/
def cookies (headers : Headers) : List (String × String) :=
  ((headers.values "cookie").filterMap visibleText?).flatMap fun text =>
    (pieces ';' text).filterMap fun piece => cut? '=' (trimmed piece)

/-- The value of the first cookie with a name, unless it is blank. -/
def cookie? (headers : Headers) (name : String) : Option String :=
  (((cookies headers).lookup name).map trimmed).filter fun value =>
    !value.isEmpty

/-- The value of a new cookie. -/
def cookieText (guard : CsrfGuard) (token : String) : String :=
  guard.cookieName ++ "=" ++ token ++ guard.attributes

/-- Let a request through that only reads, with a token for its client. -/
def letRead (guard : CsrfGuard) (request : Request) :
    Action Interruption Decision := do
  match cookie? request.headers guard.cookieName with
  | some token => return .forward { request with formToken := some token } pure
  | none =>
    let token := (← Action.identifier).compact
    return .forward { request with formToken := some token } fun response =>
      return response.mapHeaders
        (·.append "set-cookie" (octets (cookieText guard token)))

/-- Whether a request repeats its cookie in the header. -/
def repeated? (guard : CsrfGuard) (headers : Headers) : Option String := do
  let cookie ← cookie? headers guard.cookieName
  let header ← headers.text? guard.headerName
  if sameSecret (octets cookie) (octets header) then some cookie else none

/-- Refuse a request that may be forged. -/
def refuse (route : String) (guard : CsrfGuard) (request : Request) :
    Action Interruption Decision := do
  let hasCookie := (cookie? request.headers guard.cookieName).isSome
  let hasHeader := (request.headers.text? guard.headerName).isSome
  Action.report (.warn "CSRF check failed"
    [("route", route), ("method", request.method.name),
      ("has_cookie", toString hasCookie), ("has_header", toString hasHeader)])
  Action.count (Metrics.forged route)
  return .answer (.refusal 403 [] "CSRF token missing or invalid")

/-- The layer that refuses forged requests. -/
def gate (route : String) (guard : CsrfGuard) : Layer := fun request => do
  if request.method.isSafe then letRead guard request
  else
    match repeated? guard request.headers with
    | some token =>
      return .forward { request with formToken := some token } pure
    | none => refuse route guard request

def settingsOf (base : Value) (overrides : Overrides) :
    Except Fault CsrfSettings :=
  Extension.routeSettings key CsrfSettings.decoder base overrides

/-- Whether a route is guarded. -/
def applies (base : Value) (route : Info) (overrides : Overrides) : Bool :=
  if overrides.isDisabled key then false
  else
    match settingsOf base overrides with
    | .error _ => true
    | .ok settings =>
      (route.kind == .html || settings.protectApi) &&
        !settings.exempts route.path

def attach (base : Value) (route : Info) (overrides : Overrides) :
    Except Fault Layer := do
  let settings ← settingsOf base overrides
  let guard ← guardOf settings
  return gate route.path guard

def extension (base : Value) : Extension where
  name := key
  applies := applies base
  attach route overrides := Action.ofPure (attach base route overrides)

def construct (config : Config) : Action Fault Extension := do
  Action.ofPure do
    let settings ← Extension.sectionSettings key CsrfSettings.decoder .default
      config
    check settings
  return extension config.value

end Csrf

end Gatehouse.Security
