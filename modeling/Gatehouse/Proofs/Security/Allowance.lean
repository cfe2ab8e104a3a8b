import Gatehouse.Proofs.Security.ClientBuckets
import Mathlib.Tactic.Linarith
import Mathlib.Tactic.Ring

/-!
# How much a limiter admits, and that it admits as much

Read in exact fractions, the tokens of a bucket are an account.  A call pays
in what was gained since the last one, as far as the rim allows, and takes
one token out if it is admitted.  The account is never overdrawn, so no span
of time sees more calls admitted than the burst and what is gained in it.
A call is refused only if there is not one whole token, so calls that leave
enough time between them are all admitted.
-/

namespace Gatehouse.Security

open Gatehouse.Decimal

/-- The seconds from one time to another, both given in nanoseconds. -/
def secondsBetween (start finish : Int) : Rat :=
  ((finish - start : Int) : Rat) / (nanosecond : Rat)

theorem secondsBetween_nonneg {start finish : Int}
    (passed : start ≤ finish) : 0 ≤ secondsBetween start finish := by
  have elapsed : (0 : Rat) ≤ ((finish - start : Int) : Rat) := by
    exact_mod_cast Int.sub_nonneg_of_le passed
  exact div_nonneg elapsed (Nat.cast_nonneg _)

theorem secondsBetween_add (start middle finish : Int) :
    secondsBetween start middle + secondsBetween middle finish =
      secondsBetween start finish := by
  rw [secondsBetween, secondsBetween, secondsBetween, ← add_div]
  push_cast
  ring

theorem nanosecond_pos : (0 : Rat) < nanosecond := by
  decide +kernel

theorem le_secondsBetween_iff {time : Rat} {start finish : Int} :
    time ≤ secondsBetween start finish ↔
      time * nanosecond ≤ ((finish - start : Int) : Rat) := by
  rw [secondsBetween, le_div_iff₀ nanosecond_pos]

/-- Settings that are accepted mean a limit with room for a token. -/
theorem one_le_exactLimit_burst {settings accepted : RateLimitSettings}
    (checked : settings.checked = .ok accepted) :
    1 ≤ accepted.exactLimit.burst := by
  have positive := (RateLimitSettings.of_checked checked).2
  show (1 : Rat) ≤ (accepted.burst : Rat)
  exact_mod_cast positive

/-! ## One call -/

/-- How many of some answers admit a call. -/
def admissions (verdicts : List (Verdict Rat)) : Nat :=
  verdicts.count .admitted

namespace Bucket

variable {limit : Limit Rat} {bucket : Bucket Rat} {now : Int}

/-- A bucket is neither overdrawn nor fuller than its rim. -/
structure Within (limit : Limit Rat) (bucket : Bucket Rat) : Prop where
  nonneg : 0 ≤ bucket.tokens
  rim : bucket.tokens ≤ limit.burst

/-- A call takes a token if there is one, and is told to wait if not. -/
inductive Takes (limit : Limit Rat) (bucket : Bucket Rat) (now : Int) :
    Verdict Rat × Bucket Rat → Prop where
  | admitted (enough : 1 ≤ (bucket.refill limit now).tokens) :
      Takes limit bucket now
        (.admitted, ⟨(bucket.refill limit now).tokens - 1, now⟩)
  | limited (wait : Rat) (short : (bucket.refill limit now).tokens < 1) :
      Takes limit bucket now (.limited wait, bucket.refill limit now)

theorem takes_take (limit : Limit Rat) (bucket : Bucket Rat) (now : Int) :
    Takes limit bucket now (bucket.take limit now) := by
  have one : (Quantity.whole 1 : Rat) = 1 := Nat.cast_one
  have covers : Quantity.covers (bucket.refill limit now).tokens
      (Quantity.whole 1 : Rat) = true ↔
        1 ≤ (bucket.refill limit now).tokens := by
    rw [one]
    exact decide_eq_true_iff
  rw [take]
  by_cases enough : 1 ≤ (bucket.refill limit now).tokens
  · rw [if_pos (covers.mpr enough), one]
    exact .admitted enough
  · rw [if_neg fun held => enough (covers.mp held)]
    exact .limited _ (not_le.mp enough)

theorem take_eq_admitted_iff :
    (bucket.take limit now).1 = .admitted ↔
      1 ≤ (bucket.refill limit now).tokens := by
  generalize taken : bucket.take limit now = outcome
  have takes := takes_take limit bucket now
  rw [taken] at takes
  cases takes with
  | admitted enough => simp [enough]
  | limited wait short => simp [short]

/-- Filling up to a rim that holds a token asks only what has accrued. -/
theorem one_le_tokens_refill_iff (room : 1 ≤ limit.burst) :
    1 ≤ (bucket.refill limit now).tokens ↔
      1 ≤ bucket.accrued limit now := by
  rw [tokens_refill, le_min_iff, and_iff_left room]

/-! ### The account of a bucket -/

theorem within_full (room : 0 ≤ limit.burst) (now : Int) :
    (full limit now).Within limit :=
  ⟨room, le_rfl⟩

theorem Within.refill (within : bucket.Within limit)
    (steady : 0 ≤ limit.rate) (now : Int) :
    (bucket.refill limit now).Within limit where
  nonneg := by
    have gained : 0 ≤ bucket.accrued limit now := by
      rw [accrued_eq]
      have nonneg := within.nonneg
      positivity
    rw [tokens_refill]
    exact le_min gained (within.nonneg.trans within.rim)
  rim := by
    rw [tokens_refill]
    exact min_le_right _ _

/-- A call keeps a bucket between nothing and its rim. -/
theorem Within.take (within : bucket.Within limit)
    (steady : 0 ≤ limit.rate) (now : Int) :
    (bucket.take limit now).2.Within limit := by
  have filled := within.refill steady now
  generalize taken : bucket.take limit now = outcome
  have takes := takes_take limit bucket now
  rw [taken] at takes
  cases takes with
  | admitted enough =>
      constructor
      · show 0 ≤ (bucket.refill limit now).tokens - 1
        linarith
      · show (bucket.refill limit now).tokens - 1 ≤ limit.burst
        linarith [filled.rim]
  | limited wait short => exact filled

/-- A call takes out just what it is admitted for. -/
theorem take_balance (limit : Limit Rat) (bucket : Bucket Rat) (now : Int) :
    (bucket.take limit now).2.tokens +
        admissions [(bucket.take limit now).1] =
      (bucket.refill limit now).tokens := by
  generalize taken : bucket.take limit now = outcome
  have takes := takes_take limit bucket now
  rw [taken] at takes
  cases takes with
  | admitted enough => simp [admissions]
  | limited wait short => simp [admissions]

@[simp]
theorem updated_take (limit : Limit Rat) (bucket : Bucket Rat) (now : Int) :
    (bucket.take limit now).2.updated = now := by
  generalize taken : bucket.take limit now = outcome
  have takes := takes_take limit bucket now
  rw [taken] at takes
  cases takes <;> rfl

/-- While time passes, a bucket gains no more than its rate allows. -/
theorem accrued_of_le (passed : bucket.updated ≤ now) :
    bucket.accrued limit now =
      bucket.tokens + secondsBetween bucket.updated now * limit.rate := by
  have elapsed : (((now - bucket.updated).toNat : Nat) : Rat) =
      ((now - bucket.updated : Int) : Rat) := by
    exact_mod_cast Int.toNat_of_nonneg (Int.sub_nonneg_of_le passed)
  rw [accrued_eq, elapsed, secondsBetween]

end Bucket

/-! ## Calls one after the other -/

namespace Bucket

variable {limit : Limit Rat} {bucket : Bucket Rat} {times : List Int}

theorem admissions_verdicts_cons (limit : Limit Rat) (bucket : Bucket Rat)
    (now : Int) (rest : List Int) :
    admissions (bucket.verdicts limit (now :: rest)) =
      admissions [(bucket.take limit now).1] +
        admissions ((bucket.take limit now).2.verdicts limit rest) := by
  rw [verdicts, admissions, admissions, admissions, ← List.count_append,
    List.singleton_append]

/-- No more calls are admitted than there were tokens and are gained. -/
theorem admissions_le (within : bucket.Within limit)
    (steady : 0 ≤ limit.rate) {finish : Int}
    (ordered : times.Pairwise (· ≤ ·))
    (behind : ∀ now ∈ times, bucket.updated ≤ now)
    (ahead : ∀ now ∈ times, now ≤ finish)
    (passed : bucket.updated ≤ finish) :
    (admissions (bucket.verdicts limit times) : Rat) ≤
      bucket.tokens + secondsBetween bucket.updated finish * limit.rate := by
  induction times generalizing bucket with
  | nil =>
      have gained := mul_nonneg (secondsBetween_nonneg passed) steady
      have held := within.nonneg
      simp only [verdicts, admissions, List.count_nil, Nat.cast_zero]
      linarith
  | cons now rest induction =>
      rw [List.pairwise_cons] at ordered
      rw [List.forall_mem_cons] at behind ahead
      have others := induction (within.take steady now) ordered.2
        (by simpa using ordered.1) ahead.2 (by simpa using ahead.1)
      rw [updated_take] at others
      have balance := take_balance limit bucket now
      have filled : (bucket.refill limit now).tokens ≤
          bucket.tokens + secondsBetween bucket.updated now * limit.rate := by
        rw [tokens_refill, ← accrued_of_le behind.1]
        exact min_le_left _ _
      have split := congrArg (· * limit.rate)
        (secondsBetween_add bucket.updated now finish)
      simp only [add_mul] at split
      rw [admissions_verdicts_cons]
      push_cast
      linarith

/-- In a span of time a bucket admits no more than its rim and its gain. -/
theorem admissions_le_span (within : bucket.Within limit)
    (steady : 0 ≤ limit.rate) {start finish : Int} (span : start ≤ finish)
    (ordered : times.Pairwise (· ≤ ·))
    (inside : ∀ now ∈ times, start ≤ now ∧ now ≤ finish) :
    (admissions (bucket.verdicts limit times) : Rat) ≤
      limit.burst + secondsBetween start finish * limit.rate := by
  cases times with
  | nil =>
      have gained := mul_nonneg (secondsBetween_nonneg span) steady
      have room := within.nonneg.trans within.rim
      simp only [verdicts, admissions, List.count_nil, Nat.cast_zero]
      linarith
  | cons first rest =>
      rw [List.pairwise_cons] at ordered
      rw [List.forall_mem_cons] at inside
      rcases inside with ⟨⟨begun, ended⟩, inside⟩
      -- The first call fills the bucket up to its rim at most.
      have others := admissions_le (within.take steady first) steady
        ordered.2 (by simpa using ordered.1)
        (fun now member => (inside now member).2) (by simpa using ended)
      rw [updated_take] at others
      have balance := take_balance limit bucket first
      have rim := (within.refill steady first).rim
      have longer : secondsBetween first finish * limit.rate ≤
          secondsBetween start finish * limit.rate := by
        rw [← secondsBetween_add start first finish, add_mul]
        have before := mul_nonneg (secondsBetween_nonneg begun) steady
        linarith
      rw [admissions_verdicts_cons]
      push_cast
      linarith

/-- How long it takes to gain one token lies between two times. -/
def Spaced (limit : Limit Rat) (former latter : Int) : Prop :=
  1 / limit.rate ≤ secondsBetween former latter

/-- A call with enough time before it is admitted. -/
theorem Within.admits (within : bucket.Within limit)
    (room : 1 ≤ limit.burst) (steady : 0 < limit.rate) {now : Int}
    (passed : bucket.updated ≤ now)
    (spaced : Spaced limit bucket.updated now) :
    (bucket.take limit now).1 = .admitted := by
  have gained : 1 ≤ secondsBetween bucket.updated now * limit.rate :=
    (div_le_iff₀ steady).mp spaced
  rw [take_eq_admitted_iff, one_le_tokens_refill_iff room,
    accrued_of_le passed]
  linarith [within.nonneg]

/-- Calls with enough time between them are all admitted. -/
theorem admitted_of_spaced (within : bucket.Within limit)
    (room : 1 ≤ limit.burst) (steady : 0 < limit.rate)
    (ordered : (bucket.updated :: times).Pairwise (· ≤ ·))
    (spaced : (bucket.updated :: times).IsChain (Spaced limit)) :
    ∀ verdict ∈ bucket.verdicts limit times, verdict = .admitted := by
  induction times generalizing bucket with
  | nil => exact nofun
  | cons now rest induction =>
      rw [List.isChain_cons_cons] at spaced
      rw [List.pairwise_cons] at ordered
      rcases ordered with ⟨behind, ordered⟩
      have passed := behind now List.mem_cons_self
      rw [verdicts, List.forall_mem_cons]
      constructor
      · exact within.admits room steady passed spaced.1
      · apply induction (within.take steady.le now)
        · rw [updated_take]
          exact ordered
        · rw [updated_take]
          exact spaced.2

end Bucket

/-! ## The account of a limiter -/

namespace Limiter

theorem mem_store {Number : Type} {client : String}
    {bucket : Bucket Number}
    {buckets : List (String × Bucket Number)}
    {held : String × Bucket Number}
    (member : held ∈ store client bucket buckets) :
    held = (client, bucket) ∨ held ∈ buckets := by
  induction buckets with
  | nil => simpa [store] using member
  | cons first rest induction =>
      rw [store] at member
      split at member
      · rcases List.mem_cons.mp member with same | later
        · exact .inl same
        · exact .inr (List.mem_cons_of_mem first later)
      · rcases List.mem_cons.mp member with same | later
        · exact .inr (same ▸ List.mem_cons_self)
        · exact (induction later).imp_right (List.mem_cons_of_mem first)

section Runs

variable {Number : Type} [Quantity Number]

/-- A limiter after some calls. -/
def after (limiter : Limiter Number) (calls : List Call) : Limiter Number :=
  calls.foldl
    (fun limiter call => (limiter.check call.client call.now).2) limiter

@[simp]
theorem limit_after (limiter : Limiter Number) (calls : List Call) :
    (limiter.after calls).limit = limiter.limit := by
  induction calls generalizing limiter with
  | nil => rfl
  | cons call rest induction => exact (induction _).trans (limit_check ..)

theorem mem_buckets_sweep {limiter : Limiter Number} {now : Int}
    {held : String × Bucket Number}
    (member : held ∈ (limiter.sweep now).buckets) :
    held ∈ limiter.buckets := by
  rw [sweep] at member
  split at member
  · exact List.mem_of_mem_filter member
  · exact member

section Invariants

variable {limiter : Limiter Number} (holds : Bucket Number → Prop)
  (every : ∀ held ∈ limiter.buckets, holds held.2) (client : String)
  (now : Int) (fresh : holds (.full limiter.limit now))
include every fresh

omit [Quantity Number] in
/-- A call takes from a bucket that is new or kept. -/
theorem holds_bucket : holds (limiter.bucket client now) := by
  rw [bucket]
  cases found : limiter.buckets.lookup client with
  | none => exact fresh
  | some bucket =>
      rcases List.lookup_eq_some_iff.mp found with ⟨front, behind, split, _⟩
      apply every (client, bucket)
      rw [split]
      simp

/-- What holds of new buckets and is kept by calls holds of all buckets. -/
theorem forall_buckets_check
    (kept : ∀ bucket, holds bucket →
      holds (bucket.take limiter.limit now).2) :
    ∀ held ∈ (limiter.check client now).2.buckets, holds held.2 := by
  intro held member
  rw [buckets_check] at member
  rcases mem_store member with rfl | old
  · apply kept
    apply holds_bucket holds fun held member =>
      every held (mem_buckets_sweep member)
    rw [limit_sweep]
    exact fresh
  · exact every held (mem_buckets_sweep old)

end Invariants

end Runs

/--
A limiter gains tokens and has room for one, keeps one bucket for a client,
and no bucket is overdrawn or fuller than its rim.
-/
structure Balanced (limiter : Limiter Rat) : Prop where
  steady : 0 < limiter.limit.rate
  room : 1 ≤ limiter.limit.burst
  distinct : (limiter.buckets.map Prod.fst).Nodup
  within : ∀ held ∈ limiter.buckets, held.2.Within limiter.limit

theorem balanced_start {settings accepted : RateLimitSettings}
    (checked : settings.checked = .ok accepted) (route : String)
    (started : Int) :
    (start route accepted.exactLimit started).Balanced where
  steady := exactLimit_rate_pos checked
  room := one_le_exactLimit_burst checked
  distinct := List.nodup_nil
  within := nofun

namespace Balanced

variable {limiter : Limiter Rat}

/-- The bucket from which a call takes is in balance, be it new or not. -/
theorem bucket (balanced : limiter.Balanced) (client : String) (now : Int) :
    (limiter.bucket client now).Within limiter.limit :=
  holds_bucket (Bucket.Within limiter.limit) balanced.within client now
    (Bucket.within_full (zero_le_one.trans balanced.room) now)

theorem sweep (balanced : limiter.Balanced) (now : Int) :
    (limiter.sweep now).Balanced where
  steady := by
    rw [limit_sweep]
    exact balanced.steady
  room := by
    rw [limit_sweep]
    exact balanced.room
  distinct := limiter.nodup_keys_sweep now balanced.distinct
  within := by
    intro held member
    rw [limit_sweep]
    exact balanced.within held (mem_buckets_sweep member)

/-- A call keeps all buckets in balance, whether it sweeps or not. -/
theorem check (balanced : limiter.Balanced) (client : String) (now : Int) :
    (limiter.check client now).2.Balanced where
  steady := by
    rw [limit_check]
    exact balanced.steady
  room := by
    rw [limit_check]
    exact balanced.room
  distinct := by
    rw [buckets_check]
    exact nodup_keys_store client _ (balanced.sweep now).distinct
  within := by
    rw [limit_check]
    exact forall_buckets_check (Bucket.Within limiter.limit) balanced.within
      client now
      (Bucket.within_full (zero_le_one.trans balanced.room) now)
      fun _ within => within.take balanced.steady.le now

theorem after (balanced : limiter.Balanced) (calls : List Call) :
    (limiter.after calls).Balanced := by
  induction calls generalizing limiter with
  | nil => exact balanced
  | cons call rest induction =>
      exact induction (balanced.check call.client call.now)

/--
A client is answered from the bucket that is kept for it, or from a new one,
and what remains of that bucket is kept.
-/
theorem check_own (balanced : limiter.Balanced) (client : String)
    (now : Int) :
    (limiter.check client now).1 =
        (((limiter.buckets.lookup client).getD
          (.full limiter.limit now)).take limiter.limit now).1 ∧
      (limiter.check client now).2.buckets.lookup client =
        some (((limiter.buckets.lookup client).getD
          (.full limiter.limit now)).take limiter.limit now).2 := by
  have keeps : Keeps limiter client now (limiter.buckets.lookup client) :=
    ⟨balanced.steady.le, balanced.distinct, .same _⟩
  refine ⟨keeps.check_self.1, ?_⟩
  have taken := keeps.sweep.take_bucket
  rw [limit_sweep] at taken
  rw [buckets_check, lookup_store_self, taken]

/-- A client is refused exactly if its bucket has not one whole token. -/
theorem refused_iff (balanced : limiter.Balanced) (client : String)
    (now : Int) :
    (limiter.check client now).1 ≠ .admitted ↔
      ∃ bucket, limiter.buckets.lookup client = some bucket ∧
        bucket.accrued limiter.limit now < 1 := by
  have room := balanced.room
  rw [verdict_check, ne_eq, Bucket.take_eq_admitted_iff,
    Bucket.one_le_tokens_refill_iff room, not_le, Limiter.bucket,
    limit_sweep]
  -- A bucket that is new, or dropped because it is full, refuses no one.
  have admits : ∀ {bucket : Bucket Rat},
      bucket.isFull limiter.limit now = true →
        ¬ bucket.accrued limiter.limit now < 1 := by
    intro bucket isFull short
    rw [Bucket.isFull_iff] at isFull
    linarith
  have fresh := admits (Bucket.isFull_full limiter.limit now)
  rcases limiter.lookup_sweep client now balanced.distinct with
    kept | ⟨bucket, found, isFull, gone⟩
  · rw [kept]
    cases limiter.buckets.lookup client with
    | none => simpa using fresh
    | some bucket => simp
  · rw [gone, found]
    have full := admits isFull
    simp only [Option.getD_none, Option.some.injEq, exists_eq_left', fresh,
      full]

/-- A client gets what its own bucket answers, if it has one. -/
theorem verdictsOf_eq (balanced : limiter.Balanced) {calls : List Call}
    (ordered : calls.Pairwise fun former latter =>
      former.now ≤ latter.now) (client : String) :
    verdictsOf client (limiter.verdicts calls) =
      verdictsFrom limiter.limit (limiter.buckets.lookup client)
        (timesOf client calls) := by
  cases calls with
  | nil => cases limiter.buckets.lookup client <;> rfl
  | cons first rest =>
      have keeps : Keeps limiter client first.now
          (limiter.buckets.lookup client) :=
        ⟨balanced.steady.le, balanced.distinct, .same _⟩
      apply keeps.verdicts ordered
      rw [List.forall_mem_cons]
      exact ⟨le_rfl, (List.pairwise_cons.mp ordered).1⟩

end Balanced

end Limiter

/-! ## What clients may rely on -/

/--
What a limiter does with some calls: no bucket is ever out of bounds, no
span of time sees more calls of the client admitted than it has room for,
and no call is refused for which there is a token.
-/
structure Metered (limiter : Limiter Rat) (calls : List Call)
    (client : String) : Prop where
  /-- All buckets that are kept at any time are in bounds. -/
  within : ∀ earlier later, calls = earlier ++ later →
    ∀ held ∈ (limiter.after earlier).buckets,
      0 ≤ held.2.tokens ∧ held.2.tokens ≤ limiter.limit.burst
  /-- Of consecutive calls of the client in a span, so many are admitted. -/
  bounded : ∀ earlier during later, calls = earlier ++ during ++ later →
    ∀ start finish, start ≤ finish →
      (∀ now ∈ timesOf client during, start ≤ now ∧ now ≤ finish) →
      (admissions (verdictsOf client
          ((limiter.after earlier).verdicts during)) : Rat) ≤
        limiter.limit.burst +
          limiter.limit.rate * secondsBetween start finish
  /-- A call is refused exactly if there is less than one token for it. -/
  needed : ∀ earlier call later, calls = earlier ++ call :: later →
    ((((limiter.after earlier).check call.client call.now).1 ≠ .admitted) ↔
      ∃ bucket,
        (limiter.after earlier).buckets.lookup call.client = some bucket ∧
        bucket.accrued limiter.limit call.now < 1)
  /-- A client that takes its time is never refused. -/
  spaced :
    (timesOf client calls).IsChain (fun former latter =>
      1 / limiter.limit.rate ≤ secondsBetween former latter) →
    ∀ verdict ∈ verdictsOf client (limiter.verdicts calls),
      verdict = .admitted

theorem pairwise_timesOf {calls : List Call}
    (ordered : calls.Pairwise fun former latter =>
      former.now ≤ latter.now) (client : String) :
    (timesOf client calls).Pairwise (· ≤ ·) := by
  rw [timesOf, List.pairwise_map]
  exact ordered.filter _

/-- A limiter that is in balance is metered from there on. -/
theorem Limiter.Balanced.bounded {limiter : Limiter Rat}
    (balanced : limiter.Balanced) {calls : List Call}
    (ordered : calls.Pairwise fun former latter =>
      former.now ≤ latter.now) {client : String} {start finish : Int}
    (span : start ≤ finish)
    (inside : ∀ now ∈ timesOf client calls, start ≤ now ∧ now ≤ finish) :
    (admissions (verdictsOf client (limiter.verdicts calls)) : Rat) ≤
      limiter.limit.burst +
        limiter.limit.rate * secondsBetween start finish := by
  have inOrder := pairwise_timesOf ordered client
  rw [balanced.verdictsOf_eq ordered, mul_comm]
  generalize timesOf client calls = times at inside inOrder
  have own : ∀ bucket : Bucket Rat, bucket.Within limiter.limit →
      (admissions (bucket.verdicts limiter.limit times) : Rat) ≤
        limiter.limit.burst +
          secondsBetween start finish * limiter.limit.rate :=
    fun bucket within =>
      Bucket.admissions_le_span within balanced.steady.le span inOrder
        inside
  have room := zero_le_one.trans balanced.room
  cases found : limiter.buckets.lookup client with
  | none =>
      cases times with
      | nil => exact own _ (Bucket.within_full room 0)
      | cons first rest => exact own _ (Bucket.within_full room first)
  | some bucket =>
      have within := balanced.bucket client start
      rw [Limiter.bucket, found] at within
      exact own bucket within

theorem Limiter.Balanced.spaced {limiter : Limiter Rat}
    (balanced : limiter.Balanced) (unseen : limiter.buckets = [])
    {calls : List Call}
    (ordered : calls.Pairwise fun former latter =>
      former.now ≤ latter.now) {client : String}
    (apart : (timesOf client calls).IsChain (Bucket.Spaced limiter.limit)) :
    ∀ verdict ∈ verdictsOf client (limiter.verdicts calls),
      verdict = .admitted := by
  have inOrder := pairwise_timesOf ordered client
  rw [balanced.verdictsOf_eq ordered, unseen]
  generalize timesOf client calls = times at apart inOrder
  cases times with
  | nil => exact nofun
  | cons first rest =>
      have full := Bucket.within_full (zero_le_one.trans balanced.room) first
      have enough := Bucket.isFull_iff.mp (Bucket.isFull_full limiter.limit first)
      show ∀ verdict ∈ (Bucket.full limiter.limit first).verdicts
        limiter.limit (first :: rest), verdict = .admitted
      rw [Bucket.verdicts, List.forall_mem_cons]
      constructor
      · rw [Bucket.take_eq_admitted_iff,
          Bucket.one_le_tokens_refill_iff balanced.room]
        exact balanced.room.trans enough
      · apply Bucket.admitted_of_spaced
          (full.take balanced.steady.le first) balanced.room balanced.steady
        · rw [Bucket.updated_take]
          exact inOrder
        · rw [Bucket.updated_take]
          exact apart

/--
Whatever limit is accepted, and whoever calls when: a limiter admits no more
calls of a client than the limit allows, and refuses none without need.
-/
theorem metered_exact {settings accepted : RateLimitSettings}
    (checked : settings.checked = .ok accepted) (route : String)
    (started : Int) {calls : List Call}
    (ordered : calls.Pairwise fun former latter =>
      former.now ≤ latter.now) (client : String) :
    Metered (Limiter.start route accepted.exactLimit started) calls
      client := by
  have balanced := Limiter.balanced_start checked route started
  constructor
  case within =>
    rintro earlier later rfl held member
    have within := (balanced.after earlier).within held member
    rw [Limiter.limit_after] at within
    exact ⟨within.nonneg, within.rim⟩
  case bounded =>
    rintro earlier during later rfl start finish span inside
    have inOrder := (List.pairwise_append.mp
      (List.pairwise_append.mp ordered).1).2.1
    have bounded := (balanced.after earlier).bounded inOrder span inside
    rw [Limiter.limit_after] at bounded
    exact bounded
  case needed =>
    rintro earlier call later rfl
    have refused :=
      (balanced.after earlier).refused_iff call.client call.now
    rw [Limiter.limit_after] at refused
    exact refused
  case spaced =>
    exact fun apart => balanced.spaced rfl ordered apart

/-- Ten calls a second are allowed, and a tenth of a second lies between. -/
theorem metered_tenth_of_second :
    RateLimitSettings.default.checked = .ok RateLimitSettings.default ∧
      ([⟨"a", 0⟩, ⟨"b", 1⟩, ⟨"a", 100000000⟩] : List Call).Pairwise
        (fun former latter => former.now ≤ latter.now) ∧
      ∀ verdict ∈ verdictsOf "a"
        ((Limiter.start "/" RateLimitSettings.default.exactLimit 0).verdicts
          [⟨"a", 0⟩, ⟨"b", 1⟩, ⟨"a", 100000000⟩]), verdict = .admitted :=
  ⟨checked_default, by decide,
    (metered_exact checked_default "/" 0 (by decide) "a").spaced
      (by decide +kernel)⟩

end Gatehouse.Security
