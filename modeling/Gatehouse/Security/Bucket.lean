import Gatehouse.Decimal.Quantity

/-!
# Token buckets

A bucket holds tokens up to a burst and gains them at a steady rate.  Taking
one either succeeds or tells how long it takes until one is there.  Time is
given in nanoseconds on a clock without a fixed origin; a time before the
last one seen counts as no time passed.

A limiter keeps one bucket for every client, full when the client is first
seen.  A full bucket is as good as none, so a sweep drops those from time to
time.
-/

namespace Gatehouse.Security

open Gatehouse.Decimal
open Gatehouse.Decimal.Quantity

/-- How many tokens a bucket gains in a second, and how many it holds. -/
structure Limit (Number : Type) where
  rate : Number
  burst : Number
  deriving DecidableEq, Repr

/-- A bucket of tokens as it was at a time. -/
structure Bucket (Number : Type) where
  tokens : Number
  updated : Int
  deriving DecidableEq, Repr

/-- The answer to taking a token. -/
inductive Verdict (Number : Type) where
  | admitted
  /-- No token is there, and one will be after the time. -/
  | limited (wait : Number)
  deriving DecidableEq, Repr

namespace Bucket

variable {Number : Type} [Quantity Number]

/-- A full bucket. -/
def full (limit : Limit Number) (now : Int) : Bucket Number :=
  ⟨limit.burst, now⟩

/-- The tokens at a time if a bucket had no rim. -/
def accrued (limit : Limit Number) (bucket : Bucket Number) (now : Int) :
    Number :=
  add bucket.tokens (multiply (seconds (now - bucket.updated).toNat) limit.rate)

/-- The bucket with the tokens that it has at a time. -/
def refill (limit : Limit Number) (bucket : Bucket Number) (now : Int) :
    Bucket Number :=
  ⟨lesser (bucket.accrued limit now) limit.burst, now⟩

/-- Whether the bucket is full at a time. -/
def isFull (limit : Limit Number) (bucket : Bucket Number) (now : Int) : Bool :=
  covers (bucket.accrued limit now) limit.burst

/-- Take one token. -/
def take (limit : Limit Number) (bucket : Bucket Number) (now : Int) :
    Verdict Number × Bucket Number :=
  let filled := bucket.refill limit now
  if covers filled.tokens (whole 1) then
    (.admitted, { filled with tokens := subtract filled.tokens (whole 1) })
  else
    (.limited (divide (subtract (whole 1) filled.tokens) limit.rate), filled)

end Bucket

/-- The buckets of the clients of one route. -/
structure Limiter (Number : Type) where
  route : String
  limit : Limit Number
  /-- When the limiter began. -/
  started : Int
  /-- When the last sweep was, in milliseconds since the beginning. -/
  lastSweep : Nat
  buckets : List (String × Bucket Number)
  deriving DecidableEq, Repr

/-- How many milliseconds pass between two sweeps at least. -/
def sweepInterval : Nat := 60000

/-- How many nanoseconds a millisecond has. -/
def millisecond : Nat := 1000000

namespace Limiter

variable {Number : Type} [Quantity Number]

/-- A limiter that has seen no client. -/
def start (route : String) (limit : Limit Number) (now : Int) :
    Limiter Number :=
  ⟨route, limit, now, 0, []⟩

/-- The age of a limiter in milliseconds. -/
def age (limiter : Limiter Number) (now : Int) : Nat :=
  (now - limiter.started).toNat / millisecond

/-- Whether it is time for a sweep. -/
def isDue (limiter : Limiter Number) (now : Int) : Bool :=
  sweepInterval ≤ limiter.age now - limiter.lastSweep

/-- The limiter without full buckets, if it is time for a sweep. -/
def sweep (limiter : Limiter Number) (now : Int) : Limiter Number :=
  if limiter.isDue now then
    { limiter with
      lastSweep := limiter.age now
      buckets := limiter.buckets.filter fun held =>
        !held.2.isFull limiter.limit now }
  else limiter

/-- The bucket of a client, a full one if there is none yet. -/
def bucket (limiter : Limiter Number) (client : String) (now : Int) :
    Bucket Number :=
  (limiter.buckets.lookup client).getD (.full limiter.limit now)

/-- Buckets with the one of a client replaced, or added at the end. -/
def store (client : String) (bucket : Bucket Number) :
    List (String × Bucket Number) → List (String × Bucket Number)
  | [] => [(client, bucket)]
  | held :: rest =>
    if held.1 = client then (client, bucket) :: rest
    else held :: store client bucket rest

/-- Take a token of a client, after a sweep if it is time for one. -/
def check (limiter : Limiter Number) (client : String) (now : Int) :
    Verdict Number × Limiter Number :=
  let swept := limiter.sweep now
  let (verdict, bucket) := (swept.bucket client now).take swept.limit now
  (verdict, { swept with buckets := store client bucket swept.buckets })

/-- How many buckets a sweep at this time drops. -/
def idle (limiter : Limiter Number) (now : Int) : Nat :=
  limiter.buckets.length - (limiter.sweep now).buckets.length

end Limiter

end Gatehouse.Security
