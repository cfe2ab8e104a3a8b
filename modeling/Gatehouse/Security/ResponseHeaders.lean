import Gatehouse.Extension.Basic
import Gatehouse.Http.Response

/-!
# Protective response headers

Headers that tell browsers to be careful.  They are added to every response
of a route, except where the response has the header already.
-/

namespace Gatehouse.Security

open Gatehouse.Extension (Config Fault)
open Gatehouse.Http
open Gatehouse.Route (Info Overrides)
open Gatehouse.Serve
open Gatehouse.Yaml

structure SecurityHeadersSettings where
  contentTypeOptions : Option String
  frameOptions : Option String
  referrerPolicy : Option String
  hsts : Option String
  contentSecurityPolicy : Option String
  /-- Further headers, ordered by name. -/
  extra : List (String × String)
  deriving DecidableEq, Repr

namespace SecurityHeadersSettings

def default : SecurityHeadersSettings :=
  ⟨some "nosniff", some "DENY", some "strict-origin-when-cross-origin", none,
    none, []⟩

/-- Reads a text or null. -/
def optionalText : Decoder (Option String) :=
  Decode.optional Decode.text

def fields : List (Decode.Field SecurityHeadersSettings) :=
  [.of "content_type_options" optionalText fun value settings =>
      { settings with contentTypeOptions := value },
    .of "frame_options" optionalText fun value settings =>
      { settings with frameOptions := value },
    .of "referrer_policy" optionalText fun value settings =>
      { settings with referrerPolicy := value },
    .of "hsts" optionalText fun value settings =>
      { settings with hsts := value },
    .of "content_security_policy" optionalText fun value settings =>
      { settings with contentSecurityPolicy := value },
    .of "extra" Decode.textTable fun value settings =>
      { settings with extra := value }]

def decoder : Decoder SecurityHeadersSettings :=
  Decode.record "SecurityHeadersSettings" fields default false

def toValue (settings : SecurityHeadersSettings) : Value :=
  .recordOf
    [("content_type_options", .optionalText settings.contentTypeOptions),
      ("frame_options", .optionalText settings.frameOptions),
      ("referrer_policy", .optionalText settings.referrerPolicy),
      ("hsts", .optionalText settings.hsts),
      ("content_security_policy",
        .optionalText settings.contentSecurityPolicy),
      ("extra", .textTable settings.extra)]

/-- The names of the headers with their texts, in order. -/
def texts (settings : SecurityHeadersSettings) : List (String × String) :=
  let standard :=
    [("x-content-type-options", settings.contentTypeOptions),
      ("x-frame-options", settings.frameOptions),
      ("referrer-policy", settings.referrerPolicy),
      ("strict-transport-security", settings.hsts),
      ("content-security-policy", settings.contentSecurityPolicy)]
  (standard.filterMap fun (name, text) => text.map fun text => (name, text)) ++
    settings.extra

/-- The header of a name and a text, if both can be sent. -/
def headerOf (name text : String) : Except Fault Header :=
  match headerName? name with
  | none => .error (.invalidHeaderName name)
  | some lowercase =>
    match headerValue? text with
    | none => .error (.invalidHeaderValue name)
    | some value => .ok ⟨lowercase, value⟩

/-- The headers in order. -/
def headers (settings : SecurityHeadersSettings) : Except Fault Headers :=
  settings.texts.mapM fun (name, text) => headerOf name text

end SecurityHeadersSettings

namespace ResponseHeaders

/-- The key of the section, and of the settings of a route. -/
def key : String := "security_headers"

/-- Headers with those of a list added whose names have no value yet. -/
def fillAll (added : Headers) (headers : Headers) : Headers :=
  added.foldl (fun headers header => headers.fill header.name header.value)
    headers

/-- The layer that adds headers to responses. -/
def gate (added : Headers) : Layer :=
  .onResponse (·.mapHeaders (fillAll added))

def attach (base : Value) (overrides : Overrides) : Except Fault Layer := do
  let settings ← Extension.routeSettings key SecurityHeadersSettings.decoder
    base overrides
  return gate (← settings.headers)

def extension (base : Value) : Extension where
  name := key
  applies _ overrides := !overrides.isDisabled key
  attach _ overrides := Action.ofPure (attach base overrides)

def construct (config : Config) : Action Fault Extension := do
  Action.ofPure do
    let settings ← Extension.sectionSettings key
      SecurityHeadersSettings.decoder .default config
    let _ ← settings.headers
  return extension config.value

end ResponseHeaders

end Gatehouse.Security
