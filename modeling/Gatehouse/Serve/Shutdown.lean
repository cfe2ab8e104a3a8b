/-!
# The signal to stop

A signal that is passed on to everyone who listens when it is sent.  Only
the latest signal is kept: a listener who missed some is told how many, and
then gets the one that is kept.
-/

namespace Gatehouse.Serve

/-- Signals sent so far, and what the listeners have heard of them. -/
structure Shutdown where
  /-- How many signals reached someone. -/
  sent : Nat
  /--
  For each listener the number of signals behind it; nothing once it has
  left.
  -/
  listeners : List (Option Nat)
  deriving DecidableEq, Repr

/-- What a listener hears. -/
inductive Heard where
  | signal
  | nothing
  /-- Some signals were missed. -/
  | missed (count : Nat)
  /-- There is no such listener any more. -/
  | gone
  deriving DecidableEq, Repr

namespace Shutdown

/-- Before anyone listens. -/
def start : Shutdown :=
  ⟨0, []⟩

/-- How many listen. -/
def count (shutdown : Shutdown) : Nat :=
  (shutdown.listeners.filter Option.isSome).length

/-- One more listener, who does not hear of earlier signals. -/
def subscribe (shutdown : Shutdown) : Shutdown :=
  { shutdown with listeners := shutdown.listeners ++ [some shutdown.sent] }

/-- Send the signal, which is lost if no one listens. -/
def trigger (shutdown : Shutdown) : Shutdown :=
  if shutdown.count = 0 then shutdown
  else { shutdown with sent := shutdown.sent + 1 }

/-- A listener leaves. -/
def leave (shutdown : Shutdown) (listener : Nat) : Shutdown :=
  { shutdown with listeners := shutdown.listeners.set listener none }

/-- The shutdown with the number of signals behind a listener set. -/
def advance (shutdown : Shutdown) (listener behind : Nat) : Shutdown :=
  { shutdown with listeners := shutdown.listeners.set listener (some behind) }

/-- What a listener hears next. -/
def hear (shutdown : Shutdown) (listener : Nat) : Heard × Shutdown :=
  match shutdown.listeners[listener]? with
  | some (some behind) =>
    if shutdown.sent ≤ behind then (.nothing, shutdown)
    else if behind + 1 = shutdown.sent then
      (.signal, shutdown.advance listener shutdown.sent)
    else
      (.missed (shutdown.sent - 1 - behind),
        shutdown.advance listener (shutdown.sent - 1))
  | _ => (.gone, shutdown)

end Shutdown

end Gatehouse.Serve
