import Gatehouse.Proofs.Decimal.Rounding
import Gatehouse.Proofs.Security.LongWaits
import Mathlib.Data.Rat.Floor

/-!
# Clients that come back

Read in exact fractions, a client that has to wait is told when its bucket
holds the next token, and what other clients do in the meantime changes
nothing about that: a sweep can only take the bucket away once it is full.
The time is told in whole nanoseconds, though, and the nearest one may be
earlier than the token.  So a client that comes back on the dot may come too
early, by half a nanosecond at most.
-/

namespace Gatehouse.Security

open Gatehouse.Decimal
open Gatehouse.Http
open Gatehouse.Serve
open Gatehouse.Text

/-! ## What is left of a bucket -/

namespace Bucket

variable {limit : Limit Rat} {bucket : Bucket Rat} {now : Int} {wait : Rat}

/-- A client has to wait for what is missing to one token. -/
theorem take_eq_of_limited
    (limited : (bucket.take limit now).1 = .limited wait) :
    (bucket.take limit now).2 = bucket.refill limit now ∧
      wait = (1 - (bucket.refill limit now).tokens) / limit.rate := by
  have one : (Quantity.whole 1 : Rat) = 1 := Nat.cast_one
  rw [take] at limited ⊢
  split at limited
  · cases limited
  · rename_i few
    rw [if_neg few]
    refine ⟨rfl, ?_⟩
    cases limited
    rw [one]
    rfl

end Bucket

namespace Limiter

/-- While only others call, a bucket is kept, or it was full when dropped. -/
theorem Balanced.lookup_after {limiter : Limiter Rat}
    (balanced : limiter.Balanced) {client : String} {calls : List Call}
    (others : ∀ call ∈ calls, call.client ≠ client) :
    (limiter.after calls).buckets.lookup client =
        limiter.buckets.lookup client ∨
      (limiter.after calls).buckets.lookup client = none ∧
        ∃ bucket, limiter.buckets.lookup client = some bucket ∧
          ∃ call ∈ calls,
            bucket.isFull limiter.limit call.now = true := by
  induction calls generalizing limiter with
  | nil => exact .inl rfl
  | cons call rest induction =>
      rw [List.forall_mem_cons] at others
      have behind := induction (balanced.check call.client call.now)
        others.2
      rw [limit_check, buckets_check,
        lookup_store_of_ne client _ others.1.symm] at behind
      rcases limiter.lookup_sweep client call.now balanced.distinct with
        kept | ⟨bucket, found, isFull, gone⟩
      · rw [kept] at behind
        rcases behind with same | ⟨gone, bucket, found, later, member, isFull⟩
        · exact .inl same
        · exact .inr ⟨gone, bucket, found, later,
            List.mem_cons_of_mem call member, isFull⟩
      · rw [gone] at behind
        rcases behind with same | ⟨_, _, absurd, _⟩
        · exact .inr ⟨same, bucket, found, call, List.mem_cons_self, isFull⟩
        · cases absurd

/-- A client that is told to wait leaves a bucket with less than a token. -/
theorem Balanced.exists_bucket_of_limited {limiter : Limiter Rat}
    (balanced : limiter.Balanced) {client : String} {now : Int} {wait : Rat}
    (limited : (limiter.check client now).1 = .limited wait) :
    ∃ bucket,
      (limiter.check client now).2.buckets.lookup client = some bucket ∧
      bucket.updated = now ∧ bucket.tokens < 1 ∧
      wait = (1 - bucket.tokens) / limiter.limit.rate := by
  rcases balanced.check_own client now with ⟨verdict, kept⟩
  rw [limited] at verdict
  generalize (limiter.buckets.lookup client).getD
    (.full limiter.limit now) = held at verdict kept
  rcases Bucket.take_eq_of_limited verdict.symm with ⟨left, wait⟩
  have refused : (held.take limiter.limit now).1 ≠ .admitted := by
    rw [← verdict]
    exact nofun
  rw [ne_eq, Bucket.take_eq_admitted_iff, not_le] at refused
  rw [left] at kept
  exact ⟨_, kept, rfl, refused, wait⟩

/-! ## Coming back -/

/-- What a client is answered that comes back after some other calls. -/
def comeback (limiter : Limiter Rat) (client : String) (now : Int)
    (between : List Call) (later : Int) : Verdict Rat :=
  (((limiter.check client now).2.after between).check client later).1

/-- A client that comes back is admitted, whatever others do in between. -/
def AdmitsAt (limiter : Limiter Rat) (client : String)
    (now later : Int) : Prop :=
  ∀ between : List Call, (∀ call ∈ between, call.client ≠ client) →
    limiter.comeback client now between later = .admitted

/-- A client that comes back is refused, whatever others do by then. -/
def RefusesAt (limiter : Limiter Rat) (client : String)
    (now later : Int) : Prop :=
  ∀ between : List Call,
    (∀ call ∈ between, call.client ≠ client ∧ call.now ≤ later) →
      limiter.comeback client now between later ≠ .admitted

section Waiting

variable {limiter : Limiter Rat} (balanced : limiter.Balanced)
  {client : String} {now later : Int} {wait : Rat}
  (limited : (limiter.check client now).1 = .limited wait)
include balanced limited

theorem wait_pos : 0 < wait := by
  rcases balanced.exists_bucket_of_limited limited with
    ⟨bucket, _, _, short, rfl⟩
  exact div_pos (by linarith) balanced.steady

theorem admitsAt_of_le (waited : wait ≤ secondsBetween now later) :
    limiter.AdmitsAt client now later := by
  intro between others
  have passed : now ≤ later := by
    by_contra early
    have back := secondsBetween_nonneg (not_le.mp early).le
    have turned := secondsBetween_add now later now
    have still : secondsBetween now now = 0 := by simp [secondsBetween]
    linarith [wait_pos balanced limited]
  rcases balanced.exists_bucket_of_limited limited with
    ⟨bucket, found, updated, _, rfl⟩
  have checked := balanced.check client now
  by_contra refused
  rw [comeback, ← ne_eq, (checked.after between).refused_iff] at refused
  rcases refused with ⟨kept, present, short⟩
  rw [limit_after, limit_check] at short
  rcases checked.lookup_after others with same | ⟨gone, _⟩
  · rw [same, found] at present
    cases present
    rw [div_le_iff₀ balanced.steady] at waited
    rw [Bucket.accrued_of_le (updated.le.trans passed), updated] at short
    linarith
  · rw [gone] at present
    cases present

theorem refusesAt_of_lt (passed : now ≤ later)
    (early : secondsBetween now later < wait) :
    limiter.RefusesAt client now later := by
  intro between others
  rcases balanced.exists_bucket_of_limited limited with
    ⟨bucket, found, updated, _, rfl⟩
  have checked := balanced.check client now
  have short : bucket.accrued limiter.limit later < 1 := by
    rw [lt_div_iff₀ balanced.steady] at early
    rw [Bucket.accrued_of_le (updated.le.trans passed), updated]
    linarith
  rw [comeback, (checked.after between).refused_iff, limit_after, limit_check]
  rcases checked.lookup_after fun call member => (others call member).1 with
    same | ⟨_, other, present, call, member, isFull⟩
  · exact ⟨bucket, same.trans found, short⟩
  · -- No sweep has taken the bucket, because it was not full by then.
    rw [found] at present
    cases present
    rw [limit_check] at isFull
    have full := Bucket.isFull_iff.mp (Bucket.isFull_later
      balanced.steady.le (others call member).2 isFull)
    linarith [balanced.room]

end Waiting

end Limiter

/-! ## What a client is told -/

/-- The least number of seconds, one at least, that lasts for some time. -/
theorem RateLimit.isLeast_patience {wait : Rat} {time seconds : Nat}
    (measured : Quantity.measure wait = some time)
    (fits : time ≤ (UInt64.size - 1) * nanosecond)
    (patience : Quantity.patience wait = some seconds) :
    IsLeast {count : Nat | 1 ≤ count ∧ time ≤ count * nanosecond}
      seconds := by
  rw [Quantity.patience, measured, Option.map_some, Option.some_inj]
    at patience
  have lasts (count : Nat) :
      Quantity.roundUp (Quantity.seconds time : Rat) ≤ count ↔
        time ≤ count * nanosecond := by
    show ((time : Rat) / (nanosecond : Rat)).ceil.toNat ≤ count ↔ _
    rw [Int.toNat_le, Rat.ceil_le_iff, div_le_iff₀ nanosecond_pos]
    exact_mod_cast Iff.rfl
  have bound := (lasts (UInt64.size - 1)).mpr fits
  constructor
  · exact ⟨by omega, (lasts seconds).mp (by omega)⟩
  · rintro count ⟨one, enough⟩
    have least := (lasts count).mpr enough
    omega

/-- A time that is not too long is measured to the nearest nanosecond. -/
theorem exists_measure {wait : Rat} (nonneg : 0 ≤ wait)
    (short : wait ≤ (UInt64.size - 1 : Nat)) :
    ∃ time, Quantity.measure wait = some time ∧
      IsNearest (wait * nanosecond) time ∧
      time ≤ (UInt64.size - 1) * nanosecond := by
  have positive : (0 : Rat) < wait.den := by exact_mod_cast wait.den_pos
  have numerator : ((wait.num.toNat : Nat) : Rat) = wait.num := by
    exact_mod_cast Int.toNat_of_nonneg (Rat.num_nonneg.mpr nonneg)
  have value : wait = (wait.num.toNat : Rat) / wait.den := by
    rw [numerator, Rat.num_div_den]
  have below : wait < UInt64.size := by
    have less : UInt64.size - 1 < UInt64.size := by decide
    exact short.trans_lt (by exact_mod_cast less)
  have fits : ¬ UInt64.size * wait.den ≤ wait.num.toNat := by
    rw [value, div_lt_iff₀ positive] at below
    exact not_le.mpr (by exact_mod_cast below)
  have nearest := IsNearest.divideToNearest
    (wait.num.toNat * nanosecond) wait.den_pos
  rw [Nat.cast_mul, mul_div_right_comm, ← value] at nearest
  refine ⟨_, ?measured, nearest, ?fits⟩
  case measured =>
    show (if wait < 0 then none else nanoseconds? _ _) = _
    rw [if_neg (not_lt.mpr nonneg), nanoseconds?, if_neg fits]
  case fits =>
    apply nearest.mono (.natCast ((UInt64.size - 1) * nanosecond))
    rw [Nat.cast_mul]
    gcongr

/--
What a client is told that has to wait: a time, and a number of seconds to
come back after.
-/
structure Told (limiter : Limiter Rat) (client : String) (now : Int)
    (wait : Rat) (time seconds : Nat) : Prop where
  measured : Quantity.measure wait = some time
  /-- The time is the wait in nanoseconds, to the nearest one. -/
  nearest : IsNearest (wait * nanosecond) time
  /-- The refusal tells the seconds. -/
  sent : ∀ route state, ∃ after,
    runAction (RateLimit.refuse route client wait) state =
      (.ok (.answer (.refusal 429
        [⟨"retry-after", octets (toString seconds)⟩]
        "Rate limit exceeded")), after)
  /-- The seconds are the fewest, one at least, that last for the time. -/
  least : IsLeast {count : Nat | 1 ≤ count ∧ time ≤ count * nanosecond}
    seconds
  early : ∀ later, now ≤ later → later < now + time →
    limiter.RefusesAt client now later
  late : ∀ later, now + time < later → limiter.AdmitsAt client now later
  /-- On the dot a client is admitted unless it is told too little. -/
  onTime : wait * nanosecond ≤ time →
    limiter.AdmitsAt client now (now + time)
  /--
  After the seconds a client is admitted, unless they last just for a time
  that is too little.
  -/
  patient : wait * nanosecond ≤ time ∨ time < seconds * nanosecond →
    ∀ later, now + seconds * nanosecond ≤ later →
      limiter.AdmitsAt client now later

/-- What a client may rely on that has to wait. -/
structure Honours (limiter : Limiter Rat) (client : String) (now : Int)
    (wait : Rat) : Prop where
  positive : 0 < wait
  admits : ∀ later, wait ≤ secondsBetween now later →
    limiter.AdmitsAt client now later
  refuses : ∀ later, now ≤ later → secondsBetween now later < wait →
    limiter.RefusesAt client now later
  /-- What 64 bits count as seconds is told. -/
  told : wait ≤ (UInt64.size - 1 : Nat) →
    ∃ time seconds, Told limiter client now wait time seconds

theorem exists_told {limiter : Limiter Rat} {client : String} {now : Int}
    {wait : Rat} (balanced : limiter.Balanced)
    (limited : (limiter.check client now).1 = .limited wait)
    (short : wait ≤ (UInt64.size - 1 : Nat)) :
    ∃ time seconds, Told limiter client now wait time seconds := by
  have positive := Limiter.wait_pos balanced limited
  rcases exists_measure positive.le short with
    ⟨time, measured, nearest, fits⟩
  rcases RateLimit.patience_bounds (Option.isSome_of_mem measured) with
    ⟨seconds, patience, _⟩
  have least := RateLimit.isLeast_patience measured fits patience
  have below := nearest.below
  have above := nearest.above
  have admits {later : Int}
      (waited : wait * nanosecond ≤ ((later - now : Int) : Rat)) :
      limiter.AdmitsAt client now later :=
    Limiter.admitsAt_of_le balanced limited (le_secondsBetween_iff.mpr waited)
  have late {later : Int} (passed : now + time < later) :
      limiter.AdmitsAt client now later := by
    apply admits
    have longer : ((time + 1 : Int) : Rat) ≤ ((later - now : Int) : Rat) := by
      exact_mod_cast (by omega : (time + 1 : Int) ≤ later - now)
    push_cast at longer ⊢
    linarith
  refine ⟨time, seconds, measured, nearest, ?sent, least, ?early,
    fun _ => late, ?onTime, ?patient⟩
  case sent =>
    exact fun route state => RateLimit.runAction_refuse patience route client
  case early =>
    intro later passed early
    apply Limiter.refusesAt_of_lt balanced limited passed
    rw [← not_le, le_secondsBetween_iff, not_le]
    have shorter : ((later - now : Int) : Rat) ≤ ((time - 1 : Int) : Rat) := by
      exact_mod_cast (by omega : later - now ≤ (time - 1 : Int))
    push_cast at shorter ⊢
    linarith
  case onTime =>
    intro enough
    apply admits
    rw [add_sub_cancel_left]
    exact_mod_cast enough
  case patient =>
    intro whole later passed
    have lasts := least.1.2
    rcases whole with enough | longer
    · apply admits
      have elapsed : ((time : Int) : Rat) ≤ ((later - now : Int) : Rat) := by
        exact_mod_cast (by omega : (time : Int) ≤ later - now)
      push_cast at elapsed ⊢
      linarith
    · exact late (by omega)

/--
Whatever limit is accepted, and whoever has called when: a client that has to
wait is admitted as soon as it has waited, and not before.
-/
theorem honours_exact {settings accepted : RateLimitSettings}
    (checked : settings.checked = .ok accepted) (route : String)
    (started : Int) (calls : List Call) {client : String} {now : Int}
    {wait : Rat}
    (limited : (((Limiter.start route accepted.exactLimit started).after
      calls).check client now).1 = .limited wait) :
    Honours ((Limiter.start route accepted.exactLimit started).after calls)
      client now wait := by
  have balanced := (Limiter.balanced_start checked route started).after calls
  exact ⟨Limiter.wait_pos balanced limited,
    fun _ => Limiter.admitsAt_of_le balanced limited,
    fun _ => Limiter.refusesAt_of_lt balanced limited,
    exists_told balanced limited⟩

/-- A little less than one call a second. -/
def nearlyOneASecond : RateLimitSettings :=
  ⟨⟨0x3FEFFFFFFFF24190⟩, 1⟩

theorem checked_nearlyOneASecond :
    nearlyOneASecond.checked = .ok nearlyOneASecond := rfl

/-- A second call at once has to wait for as long as one token takes. -/
theorem honours_second_call :
    nearlyOneASecond.checked = .ok nearlyOneASecond ∧
      (((Limiter.start "/" nearlyOneASecond.exactLimit 0).after
        [⟨"a", 0⟩]).check "a" 0).1 =
          .limited (1 / nearlyOneASecond.exactLimit.rate) ∧
      Honours ((Limiter.start "/" nearlyOneASecond.exactLimit 0).after
        [⟨"a", 0⟩]) "a" 0 (1 / nearlyOneASecond.exactLimit.rate) :=
  have limited : (((Limiter.start "/" nearlyOneASecond.exactLimit 0).after
      [⟨"a", 0⟩]).check "a" 0).1 =
        .limited (1 / nearlyOneASecond.exactLimit.rate) := by
    decide +kernel
  ⟨checked_nearlyOneASecond, limited,
    honours_exact checked_nearlyOneASecond "/" 0 [⟨"a", 0⟩] limited⟩

/--
A client is told to come back after one second and is refused then, and a
call of another client that is made later but answered before it lets the
client pass too early.
-/
theorem refused_after_one_second :
    nearlyOneASecond.checked = .ok nearlyOneASecond ∧
      (((Limiter.start "/" nearlyOneASecond.exactLimit 0).after
        [⟨"a", 0⟩]).check "a" 0).1 =
          .limited (1 / nearlyOneASecond.exactLimit.rate) ∧
      1 < 1 / nearlyOneASecond.exactLimit.rate ∧
      Quantity.measure (1 / nearlyOneASecond.exactLimit.rate) =
        some nanosecond ∧
      Quantity.patience (1 / nearlyOneASecond.exactLimit.rate) = some 1 ∧
      ((Limiter.start "/" nearlyOneASecond.exactLimit 0).after
        [⟨"a", 0⟩]).comeback "a" 0 [] nanosecond ≠ .admitted ∧
      ((Limiter.start "/" nearlyOneASecond.exactLimit 0).after
        [⟨"a", 0⟩]).comeback "a" 0 [⟨"b", 60 * nanosecond⟩] 1 =
          .admitted := by
  refine ⟨checked_nearlyOneASecond, ?_⟩
  decide +kernel

end Gatehouse.Security
