/-!
# Metrics

Numbers that a server shows about itself: counters, which only grow, and
gauges, which hold the last value set.
-/

namespace Gatehouse

/-- What a number is about: a name and labels. -/
structure MetricKey where
  name : String
  /-- Labels and their values, ordered by label. -/
  labels : List (String × String)
  deriving DecidableEq, Repr

/-- The numbers shown so far. -/
abbrev Metrics : Type := List (MetricKey × Nat)

namespace Metrics

/-- The number of a key, zero if it was never set. -/
def value (metrics : Metrics) (key : MetricKey) : Nat :=
  (metrics.lookup key).getD 0

/-- The metrics with one number set. -/
def set (metrics : Metrics) (key : MetricKey) (value : Nat) : Metrics :=
  match metrics with
  | [] => [(key, value)]
  | (held, old) :: rest =>
    if held = key then (key, value) :: rest
    else (held, old) :: set rest key value

/-- The metrics with one number increased by one. -/
def increment (metrics : Metrics) (key : MetricKey) : Metrics :=
  metrics.set key (metrics.value key + 1)

@[simp]
theorem value_set_self (metrics : Metrics) (key : MetricKey) (number : Nat) :
    (metrics.set key number).value key = number := by
  induction metrics with
  | nil => simp [set, value]
  | cons entry rest ih =>
    obtain ⟨held, old⟩ := entry
    by_cases same : held = key
    · simp [set, same, value]
    · have differs : (key == held) = false := by
        simpa using fun equality => same equality.symm
      simpa [set, same, value, List.lookup_cons, differs] using ih

/-- Requests refused because a client sent too many. -/
def rateLimited (route : String) : MetricKey :=
  ⟨"trellis_rate_limited_total", [("route", route)]⟩

/-- Requests refused because they may be forged. -/
def forged (route : String) : MetricKey :=
  ⟨"trellis_csrf_rejected_total", [("route", route)]⟩

/-- Requests refused because they show no token that counts. -/
def unauthenticated (route reason : String) : MetricKey :=
  ⟨"trellis_auth_rejected_total", [("reason", reason), ("route", route)]⟩

/-- Routes of one kind. -/
def routesRegistered (kind : String) : MetricKey :=
  ⟨"trellis_routes_registered", [("kind", kind)]⟩

end Metrics

end Gatehouse
