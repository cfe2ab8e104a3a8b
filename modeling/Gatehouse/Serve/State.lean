import Gatehouse.Log
import Gatehouse.Metrics
import Gatehouse.Security.Bucket
import Gatehouse.Serve.Identifier

/-!
# What changes while a server works

The clock, the buckets of the rate limits, the metrics, the events and notes
that were left, and the random numbers drawn so far.  An *action* is a
computation over this state that may fail; what it did before it failed
stays done.
-/

namespace Gatehouse.Serve

open Gatehouse.Decimal
open Gatehouse.Security

/-- What changes while a server works. -/
structure State where
  /-- The time in nanoseconds, on a clock without a fixed origin. -/
  clock : Int
  /-- When the request that is being answered is given up. -/
  deadline : Option Int
  /-- The rate limits in force, in the order in which they were attached. -/
  limiters : List (Limiter Binary64)
  metrics : Metrics
  /-- What has been reported, latest first. -/
  reported : List Event
  /-- What probes and handlers have noted, latest first. -/
  noted : List String
  /-- How many random numbers have been drawn. -/
  drawn : Nat
  /-- The source of random numbers. -/
  random : Nat → Nat

namespace State

/-- Before anything has happened. -/
def start (random : Nat → Nat) : State :=
  ⟨0, none, [], [], [], [], 0, random⟩

/-- The events in order. -/
def events (state : State) : List Event :=
  state.reported.reverse

/-- The notes in order. -/
def notes (state : State) : List String :=
  state.noted.reverse

end State

/-- A computation over the state that may fail. -/
abbrev Action (Failure : Type) : Type → Type :=
  ExceptT Failure (StateM State)

/-- Run an action: its result and the state behind it. -/
def runAction {Failure Result : Type} (action : Action Failure Result)
    (state : State) : Except Failure Result × State :=
  action.run.run state

namespace Action

variable {Failure : Type}

/-- Report an event. -/
def report (event : Event) : Action Failure Unit :=
  modify fun state => { state with reported := event :: state.reported }

/-- Leave a note. -/
def note (text : String) : Action Failure Unit :=
  modify fun state => { state with noted := text :: state.noted }

/-- Count something. -/
def count (key : MetricKey) : Action Failure Unit :=
  modify fun state => { state with metrics := state.metrics.increment key }

/-- Show a number. -/
def gauge (key : MetricKey) (value : Nat) : Action Failure Unit :=
  modify fun state => { state with metrics := state.metrics.set key value }

/-- The time. -/
def now : Action Failure Int :=
  return (← get).clock

/-- Let time pass. -/
def pass (nanoseconds : Int) : Action Failure Unit :=
  modify fun state => { state with clock := state.clock + nanoseconds }

/-- Draw an identifier. -/
def identifier : Action Failure Identifier := do
  let state ← get
  set { state with drawn := state.drawn + 1 }
  return .ofRandom (state.random state.drawn)

/-- The result of an action whose failure is read in another way. -/
def mapFailure {Other Result : Type} (read : Failure → Other)
    (action : Action Failure Result) : Action Other Result :=
  ExceptT.mk do return (← action.run).mapError read

/-- What a pure computation gives. -/
def ofPure {Result : Type} (result : Except Failure Result) :
    Action Failure Result :=
  ExceptT.mk (pure result)

end Action

end Gatehouse.Serve
