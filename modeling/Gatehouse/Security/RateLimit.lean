import Gatehouse.Decimal.Shortest
import Gatehouse.Extension.Basic
import Gatehouse.Http.Response

/-!
# Rate limits

Every route that is registered keeps its own bucket for each client.  A
request takes a token from the bucket of its client; without one it is
refused and told in how many whole seconds there will be one.
-/

namespace Gatehouse.Security

open Gatehouse.Decimal
open Gatehouse.Extension (Config Fault)
open Gatehouse.Http
open Gatehouse.Route (Info Overrides)
open Gatehouse.Serve
open Gatehouse.Text
open Gatehouse.Yaml

structure RateLimitSettings where
  requestsPerSecond : Binary64
  burst : Nat
  deriving DecidableEq, Repr

namespace RateLimitSettings

def default : RateLimitSettings :=
  ⟨Binary64.ofInt 10, 20⟩

def fields : List (Decode.Field RateLimitSettings) :=
  [.of "requests_per_second" Decode.float fun value settings =>
      { settings with requestsPerSecond := value },
    .of "burst" (Decode.natural UInt32.size "u32") fun value settings =>
      { settings with burst := value }]

def decoder : Decoder RateLimitSettings :=
  Decode.record "RateLimitSettings" fields default false

def toValue (settings : RateLimitSettings) : Value :=
  .recordOf
    [("requests_per_second", .number (.float settings.requestsPerSecond)),
      ("burst", .int settings.burst)]

/-- Whether tokens are gained at all. -/
def isPositive (rate : Binary64) : Bool :=
  rate.isFinite && !rate.isNegative && !rate.isZero

/-- The settings, refused if no request could ever be let through. -/
def checked (settings : RateLimitSettings) : Except Fault RateLimitSettings :=
  if !isPositive settings.requestsPerSecond then .error .rateNotPositive
  else if settings.burst = 0 then .error .burstNotPositive
  else .ok settings

/-- The limit on one client. -/
def limit (settings : RateLimitSettings) : Limit Binary64 :=
  ⟨settings.requestsPerSecond, Quantity.whole settings.burst⟩

end RateLimitSettings

namespace RateLimit

/-- The key of the section, and of the settings of a route. -/
def key : String := "rate_limit"

/-- How events show a rate. -/
def rateLayout : Layout where
  lowestPoint := some (-3)
  highestPoint := some 16
  keepsDecimal := true
  infinity := "inf"
  negativeInfinity := "-inf"
  notANumber := "NaN"

def settingsOf (base : Value) (overrides : Overrides) :
    Except Fault RateLimitSettings := do
  let settings ←
    Extension.routeSettings key RateLimitSettings.decoder base overrides
  settings.checked

/-- What is reported about the limit of a route. -/
def attachedEvent (route : Info) (settings : RateLimitSettings) : Event :=
  .debug "Rate limit attached"
    [("method", route.method.name), ("path", route.path),
      ("requests_per_second", rateLayout.render settings.requestsPerSecond),
      ("burst", toString settings.burst)]

/-- What is reported when buckets of a limiter are dropped. -/
def sweptEvent (route : String) (removed : Nat) : Event :=
  .debug "Idle rate limit buckets dropped"
    [("route", route), ("removed", toString removed)]

/-- Take a token of a client from the limiter at a place. -/
def take (place : Nat) (limiter : Limiter Binary64) (client : String) :
    Action Interruption (Verdict Binary64) := do
  let now ← Action.now
  let removed := limiter.idle now
  if 0 < removed then Action.report (sweptEvent limiter.route removed)
  let (verdict, limiter) := limiter.check client now
  modify fun state =>
    { state with limiters := state.limiters.set place limiter }
  return verdict

/-- Refuse a request whose client has to wait. -/
def refuse {Number : Type} [Quantity Number] (route client : String)
    (wait : Number) : Action Interruption Decision := do
  let some seconds := Quantity.patience wait | throw .broken
  Action.report (.warn "Rate limit exceeded"
    [("client", client), ("route", route),
      ("retry_after", toString seconds)])
  Action.count (Metrics.rateLimited route)
  return .answer (.refusal 429
    [⟨"retry-after", octets (toString seconds)⟩] "Rate limit exceeded")

/-- The layer that asks the limiter at a place. -/
def gate (place : Nat) : Layer := fun request => do
  match (← get).limiters[place]? with
  | none => return .forward request pure
  | some limiter =>
    match ← take place limiter request.client with
    | .admitted => return .forward request pure
    | .limited wait => refuse limiter.route request.client wait

/-- The layer of a route, with a limiter of its own. -/
def attach (base : Value) (route : Info) (overrides : Overrides) :
    Action Fault Layer := do
  let settings ← Action.ofPure (settingsOf base overrides)
  Action.report (attachedEvent route settings)
  let state ← get
  let limiter := Limiter.start route.path settings.limit state.clock
  set { state with limiters := state.limiters ++ [limiter] }
  return gate state.limiters.length

def extension (base : Value) : Extension where
  name := key
  applies _ overrides := !overrides.isDisabled key
  attach := attach base

def construct (config : Config) : Action Fault Extension := do
  Action.ofPure do
    let settings ← Extension.sectionSettings key RateLimitSettings.decoder
      .default config
    let _ ← settings.checked
  return extension config.value

end RateLimit

end Gatehouse.Security
