import Gatehouse.Config.Document
import Gatehouse.Log
import Gatehouse.Net.Address
import Gatehouse.Text.Blank

/-!
# The settings of the server itself

The two sections that the server reads for itself, with their defaults, and
the rules that their values have to keep.  `Settings.violations` lists every
broken rule, in the order of the settings.
-/

namespace Gatehouse.Config

open Gatehouse.Yaml

/-- The settings of the listening server. -/
structure ServerSettings where
  bindAddress : String
  /-- How long a request may take, in seconds. -/
  requestTimeout : Nat
  /-- How long the body of a request may be, in octets. -/
  maxBodySize : Nat
  deriving DecidableEq, Repr

/-- How events are written. -/
inductive LogFormat where
  | pretty
  | json
  deriving DecidableEq, Repr

/-- The name of a log format. -/
def LogFormat.name : LogFormat → String
  | .pretty => "pretty"
  | .json => "json"

/-- What the server reports about itself. -/
structure ObservabilitySettings where
  logLevel : String
  logFormat : LogFormat
  metricsEnabled : Bool
  metricsAddress : String
  deriving DecidableEq, Repr

/-- The settings of the server itself. -/
structure Settings where
  server : ServerSettings
  observability : ObservabilitySettings
  deriving DecidableEq, Repr

/-- The type name of numbers below `2 ^ 64`, and their bound. -/
def wordBound : Nat := UInt64.size

namespace ServerSettings

def default : ServerSettings :=
  ⟨"127.0.0.1:8000", 30, 2 * 1024 * 1024⟩

def fields : List (Decode.Field ServerSettings) :=
  [.of "bind_address" Decode.text fun value settings =>
      { settings with bindAddress := value },
    .of "request_timeout_secs" (Decode.natural wordBound "u64")
      fun value settings => { settings with requestTimeout := value },
    .of "max_body_size" (Decode.natural wordBound "usize")
      fun value settings => { settings with maxBodySize := value }]

def decoder : Decoder ServerSettings :=
  Decode.record "ServerSettings" fields default false

def toValue (settings : ServerSettings) : Value :=
  .recordOf
    [("bind_address", .string settings.bindAddress),
      ("request_timeout_secs", .int settings.requestTimeout),
      ("max_body_size", .int settings.maxBodySize)]

end ServerSettings

namespace ObservabilitySettings

def default : ObservabilitySettings :=
  ⟨"info", .pretty, false, "127.0.0.1:9090"⟩

def fields : List (Decode.Field ObservabilitySettings) :=
  [.of "log_level" Decode.text fun value settings =>
      { settings with logLevel := value },
    .of "log_format" (Decode.choice [("pretty", .pretty), ("json", .json)])
      fun value settings => { settings with logFormat := value },
    .of "metrics_enabled" Decode.bool fun value settings =>
      { settings with metricsEnabled := value },
    .of "metrics_address" Decode.text fun value settings =>
      { settings with metricsAddress := value }]

def decoder : Decoder ObservabilitySettings :=
  Decode.record "ObservabilityConfig" fields default false

def toValue (settings : ObservabilitySettings) : Value :=
  .recordOf
    [("log_level", .string settings.logLevel),
      ("log_format", .string settings.logFormat.name),
      ("metrics_enabled", .bool settings.metricsEnabled),
      ("metrics_address", .string settings.metricsAddress)]

end ObservabilitySettings

namespace Settings

def default : Settings :=
  ⟨.default, .default⟩

/-- The settings that a document configures. -/
def ofDocument (document : Document) : Except Error Settings := do
  let server ← document.section "server" ServerSettings.decoder .default
  let observability ←
    document.section "observability" ObservabilitySettings.decoder .default
  return ⟨server, observability⟩

/-- The sections that spell the settings out. -/
def toValue (settings : Settings) : Value :=
  .recordOf
    [("server", settings.server.toValue),
      ("observability", settings.observability.toValue)]

/-- Whether a text is a socket address. -/
def isSocketAddress (text : String) : Bool :=
  (Net.SocketAddress.parse? text).isSome

/-- The level that a text names, in letters of either case. -/
def levelOf? (text : String) : Option Level :=
  Level.all.find? (·.name == Text.lowercased text)

/-- A violation unless a rule holds. -/
def violationUnless (holds : Bool) (violation : Violation) : List Violation :=
  if holds then [] else [violation]

/-- Every rule that the settings break. -/
def violations (settings : Settings) : List Violation :=
  let server := settings.server
  let observability := settings.observability
  violationUnless (isSocketAddress server.bindAddress)
      (.notASocketAddress "server.bind_address" server.bindAddress) ++
    violationUnless (server.requestTimeout != 0)
      (.notPositive "server.request_timeout_secs") ++
    violationUnless (server.maxBodySize != 0) (.notPositive "server.max_body_size") ++
    violationUnless (levelOf? observability.logLevel).isSome
      (.unknownLogLevel observability.logLevel) ++
    violationUnless
      (!observability.metricsEnabled ||
        isSocketAddress observability.metricsAddress)
      (.notASocketAddress "observability.metrics_address"
        observability.metricsAddress)

/-- The settings, refused if they break a rule. -/
def checked (settings : Settings) : Except Error Settings :=
  if settings.violations.isEmpty then .ok settings
  else .error (.invalidSettings settings.violations)

end Settings

end Gatehouse.Config
