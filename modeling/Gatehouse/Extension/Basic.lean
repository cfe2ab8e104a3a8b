import Gatehouse.Route.Info
import Gatehouse.Route.Overrides
import Gatehouse.Route.Pattern
import Gatehouse.Serve.Layer
import Gatehouse.Yaml.Inspect

/-!
# Extensions

An extension puts layers in front of the routes that it applies to.  It is
built from a section of the configuration, and it decides for every route,
from the settings of that route, whether it applies and with which layer.
-/

namespace Gatehouse.Extension

open Gatehouse.Route
open Gatehouse.Serve
open Gatehouse.Yaml

/-- Why an extension refuses its section or the settings of a route. -/
inductive Fault where
  /-- Settings that cannot be read. -/
  | unreadable (key : String) (cause : DecodeError)
  | emptyToken (name : String)
  | invalidRealm (realm : String)
  | neitherFlagNorMapping (value : Value)
  | unknownToken (name : String)
  | invalidCookieName (name : String)
  | invalidTokenHeader (name : String)
  | invalidSameSite (value : String)
  | invalidExemption (pattern : String) (cause : PatternFault)
  | rateNotPositive
  | burstNotPositive
  | invalidHeaderName (name : String)
  | invalidHeaderValue (name : String)
  /-- A refusal of an extension that comes with the application. -/
  | other (text : String)
  deriving Repr

def Fault.message : Fault → String
  | .unreadable key cause =>
    "invalid `" ++ key ++ "` settings: " ++ cause.message
  | .emptyToken name => "auth token `" ++ name ++ "` is empty"
  | .invalidRealm realm => "auth.realm `" ++ realm ++ "` is not a valid realm"
  | .neitherFlagNorMapping value =>
    "route `auth` must be a boolean or a mapping, found " ++ value.inspect
  | .unknownToken name => "route allows unknown auth token `" ++ name ++ "`"
  | .invalidCookieName name =>
    "csrf.cookie_name `" ++ name ++ "` is not a valid cookie name"
  | .invalidTokenHeader name =>
    "csrf.header_name `" ++ name ++ "` is not a valid header name"
  | .invalidSameSite value =>
    "csrf.same_site must be Strict, Lax or None, got `" ++ value ++ "`"
  | .invalidExemption pattern cause =>
    "invalid route pattern `" ++ pattern ++ "`: " ++ cause.message
  | .rateNotPositive =>
    "rate_limit.requests_per_second must be greater than 0"
  | .burstNotPositive => "rate_limit.burst must be at least 1"
  | .invalidHeaderName name => "invalid header name `" ++ name ++ "`"
  | .invalidHeaderValue name => "invalid value for header `" ++ name ++ "`"
  | .other text => text

/-- The section of the configuration that an extension is built from. -/
structure Config where
  /-- The top-level key of the section. -/
  key : String
  value : Value
  deriving Repr

namespace Config

/-- Whether the section says nothing. -/
def isEmpty (config : Config) : Bool :=
  match config.value with
  | .null => true
  | .mapping entries => entries.isEmpty
  | _ => false

/-- The section read into settings, the default ones if it is null. -/
def read {Settings : Type} (config : Config) (decoder : Decoder Settings)
    (defaults : Settings) : Except DecodeError Settings :=
  match config.value with
  | .null => .ok defaults
  | value => decoder value

end Config

end Extension

/-- An extension. -/
structure Extension where
  /-- The name for reports. -/
  name : String
  /-- Whether a route with some settings gets a layer. -/
  applies : Route.Info → Route.Overrides → Bool
  /-- The layer for a route with some settings. -/
  attach :
    Route.Info → Route.Overrides → Serve.Action Extension.Fault Serve.Layer

namespace Extension

open Gatehouse.Route
open Gatehouse.Yaml

/-- The settings of a section with those of a route set in it. -/
def routeSettings {Settings : Type} (key : String)
    (decoder : Decoder Settings) (base : Value) (overrides : Overrides) :
    Except Fault Settings :=
  (decoder (.mapping (mergeSettings base (overrides.get? key)))).mapError
    (Fault.unreadable key)

/-- The settings of a section. -/
def sectionSettings {Settings : Type} (key : String)
    (decoder : Decoder Settings) (defaults : Settings) (config : Config) :
    Except Fault Settings :=
  (config.read decoder defaults).mapError (Fault.unreadable key)

end Extension

end Gatehouse
