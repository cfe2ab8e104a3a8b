/-!
# Events

What a program reports while it works: a level, a message and named fields.
Functions that report return their events beside their result, in order.
-/

namespace Gatehouse

/-- How important an event is. -/
inductive Level where
  | trace
  | debug
  | info
  | warn
  | error
  deriving DecidableEq, Repr

namespace Level

/-- The lowercase name of a level. -/
def name : Level → String
  | .trace => "trace"
  | .debug => "debug"
  | .info => "info"
  | .warn => "warn"
  | .error => "error"

/-- All levels, the least important first. -/
def all : List Level :=
  [.trace, .debug, .info, .warn, .error]

/-- The rank of a level; more important ones rank higher. -/
def rank : Level → Nat
  | .trace => 0
  | .debug => 1
  | .info => 2
  | .warn => 3
  | .error => 4

end Level

/-- Something reported. -/
structure Event where
  level : Level
  message : String
  fields : List (String × String)
  deriving DecidableEq, Repr

namespace Event

/-- An event for those who look for a fault. -/
def debug (message : String) (fields : List (String × String)) : Event :=
  ⟨.debug, message, fields⟩

/-- An event for operators. -/
def info (message : String) (fields : List (String × String)) : Event :=
  ⟨.info, message, fields⟩

/-- An event that asks for attention. -/
def warn (message : String) (fields : List (String × String)) : Event :=
  ⟨.warn, message, fields⟩

end Event

end Gatehouse
