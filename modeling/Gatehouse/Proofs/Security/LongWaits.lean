import Gatehouse.Proofs.Decimal.Amounts
import Gatehouse.Proofs.Security.Allowance
import Gatehouse.Proofs.Serve.Running

/-!
# Waits that no clock measures

Counted in floating-point numbers as a server counts them, a bucket always
holds an amount of tokens: never a negative number, never an infinite one and
never none at all.  So no client waits longer than an empty bucket takes for
one token.  A limiter answers every request at every time exactly if a clock
can measure that time; otherwise a client that spends its burst at once brings
its next request down.
-/

namespace Gatehouse.Security

open Gatehouse.Decimal
open Gatehouse.Decimal.Binary64
open Gatehouse.Http
open Gatehouse.Serve
open Gatehouse.Text

/-! ## One call -/

/-- A limit on which amounts of tokens are counted. -/
structure Limit.Counts (limit : Limit Binary64) : Prop where
  rate : limit.rate.IsAmount
  gains : 0 < limit.rate.size
  burst : limit.burst.IsAmount

/-- The time that an empty bucket takes for one token can be measured. -/
def Limit.IsQuick (limit : Limit Binary64) : Prop :=
  1 < limit.rate.size * (2 ^ 64 - 2 ^ 10)

/-- One token. -/
def oneToken : Binary64 := Quantity.whole 1

theorem isAmount_oneToken : oneToken.IsAmount :=
  isAmount_ofInt (by decide)

theorem size_oneToken : oneToken.size = 1 :=
  (size_ofInt (by decide)).trans Nat.cast_one

namespace Bucket

variable {limit : Limit Binary64} {bucket : Bucket Binary64}

theorem isExtent_accrued (counts : limit.Counts)
    (amount : bucket.tokens.IsAmount) (now : Int) :
    (bucket.accrued limit now).IsExtent :=
  isExtent_add amount.isExtent
    (isExtent_multiply (isExtent_ofNanoseconds _) counts.rate counts.gains)

/-- Filling up leaves an amount, because the rim is one. -/
theorem isAmount_refill (counts : limit.Counts)
    (amount : bucket.tokens.IsAmount) (now : Int) :
    (bucket.refill limit now).tokens.IsAmount := by
  have accrued := isExtent_accrued counts amount now
  rw [refill]
  dsimp only
  rw [Quantity.lesser]
  split
  case isTrue covered =>
    have below := (accrued.atMost_iff counts.burst.isExtent).mp covered
    exact lt_of_le_of_lt below counts.burst
  case isFalse => exact counts.burst

/-- Whether there is one whole token. -/
theorem covers_oneToken_iff {tokens : Binary64} (amount : tokens.IsAmount) :
    Quantity.covers tokens (Quantity.whole 1) = true ↔ 1 ≤ tokens.size := by
  rw [← size_oneToken, ← isAmount_oneToken.bits_le_iff amount]
  exact isAmount_oneToken.isExtent.atMost_iff amount.isExtent

/-- A call leaves an amount, whether it is admitted or not. -/
theorem isAmount_take (counts : limit.Counts)
    (amount : bucket.tokens.IsAmount) (now : Int) :
    (bucket.take limit now).2.tokens.IsAmount := by
  have filled := isAmount_refill counts amount now
  rw [take]
  split
  case isTrue covered =>
    have enough := (covers_oneToken_iff filled).mp covered
    rw [← size_oneToken] at enough
    have rest := rounds_subtract filled isAmount_oneToken enough
    have less : (bucket.refill limit now).tokens.size - oneToken.size ≤
        (bucket.refill limit now).tokens.size := by
      rw [size_oneToken]
      linarith
    exact lt_of_le_of_lt (rest.mono filled.rounds less) filled
  case isFalse => exact filled

/-- No wait is longer than that for one token in an empty bucket. -/
theorem measured_take (counts : limit.Counts) (quick : limit.IsQuick)
    (amount : bucket.tokens.IsAmount) {now : Int} {wait : Binary64}
    (limited : (bucket.take limit now).1 = .limited wait) :
    (Quantity.measure wait).isSome = true := by
  have filled := isAmount_refill counts amount now
  rw [take] at limited
  split at limited
  case isTrue => cases limited
  case isFalse short =>
    have below : (bucket.refill limit now).tokens.size < 1 :=
      not_le.mp (mt (covers_oneToken_iff filled).mpr short)
    rw [← size_oneToken] at below
    have missing := rounds_subtract isAmount_oneToken filled below.le
    have held := size_nonneg (bucket.refill limit now).tokens
    have part : oneToken.size - (bucket.refill limit now).tokens.size ≤
        oneToken.size := by linarith
    have bits := missing.mono isAmount_oneToken.rounds part
    have whole : (oneToken.subtract
        (bucket.refill limit now).tokens).IsAmount :=
      lt_of_le_of_lt bits isAmount_oneToken
    have size := (whole.bits_le_iff isAmount_oneToken).mp bits
    rw [size_oneToken] at size
    cases limited
    refine (rounds_divide whole counts.rate
      counts.gains).measure_isSome_iff.mpr ?_
    rw [div_lt_iff₀ counts.gains]
    unfold Limit.IsQuick at quick
    linarith

end Bucket

/-! ## All calls -/

/-- A limiter holds an amount of tokens for every client. -/
structure Limiter.Counts (limiter : Limiter Binary64) : Prop where
  limit : limiter.limit.Counts
  amounts : ∀ held ∈ limiter.buckets, held.2.tokens.IsAmount

namespace Limiter.Counts

variable {limiter : Limiter Binary64}

theorem bucket (counts : limiter.Counts) (client : String) (now : Int) :
    (limiter.bucket client now).tokens.IsAmount :=
  holds_bucket (fun bucket => IsAmount bucket.tokens)
    counts.amounts client now counts.limit.burst

theorem sweep (counts : limiter.Counts) (now : Int) :
    (limiter.sweep now).Counts where
  limit := by
    rw [limit_sweep]
    exact counts.limit
  amounts held member := counts.amounts held (mem_buckets_sweep member)

theorem check (counts : limiter.Counts) (client : String) (now : Int) :
    (limiter.check client now).2.Counts where
  limit := by
    rw [limit_check]
    exact counts.limit
  amounts :=
    forall_buckets_check (fun bucket => IsAmount bucket.tokens)
      counts.amounts client now counts.limit.burst
      fun _ amount => Bucket.isAmount_take counts.limit amount now

theorem after (counts : limiter.Counts) (calls : List Call) :
    (limiter.after calls).Counts := by
  induction calls generalizing limiter with
  | nil => exact counts
  | cons call rest induction =>
      exact induction (counts.check call.client call.now)

/-- A client is never told to wait longer than a clock can measure. -/
theorem measured (counts : limiter.Counts) (quick : limiter.limit.IsQuick)
    {client : String} {now : Int} {wait : Binary64}
    (limited : (limiter.check client now).1 = .limited wait) :
    (Quantity.measure wait).isSome = true := by
  rw [verdict_check] at limited
  exact Bucket.measured_take counts.limit quick
    ((counts.sweep now).bucket client now) limited

end Limiter.Counts

/-! ## What happens to a request -/

/-- A request goes on, or it is refused with a number of seconds to wait. -/
inductive Answered (request : Request) : Decision → Prop where
  | forwarded : Answered request (.forward request pure)
  | refused {seconds : Nat} (least : 1 ≤ seconds)
      (most : seconds < UInt64.size) :
      Answered request (.answer (.refusal 429
        [⟨"retry-after", octets (toString seconds)⟩] "Rate limit exceeded"))

/--
A limiter tells no client to wait longer than a clock can measure, and no
request that asks it is left without an answer.
-/
structure Limiter.Answers (limiter : Limiter Binary64) : Prop where
  measured : ∀ {client now wait},
    (limiter.check client now).1 = .limited wait →
      (Quantity.measure wait).isSome = true
  answered : ∀ {place : Nat} (request : Request) {state : State},
    state.limiters[place]? = some limiter →
      ∃ decision after,
        runAction (RateLimit.gate place request) state =
          (.ok decision, after) ∧ Answered request decision

namespace RateLimit

variable {place : Nat} {limiter : Limiter Binary64} {request : Request}
  {state : State}

/-- The state behind a call. -/
def called (place : Nat) (limiter : Limiter Binary64) (client : String)
    (state : State) : State :=
  { state with
    reported :=
      if 0 < limiter.idle state.clock then
        sweptEvent limiter.route (limiter.idle state.clock) ::
          state.reported
      else state.reported
    limiters := state.limiters.set place
      (limiter.check client state.clock).2 }

theorem runAction_take (client : String) :
    runAction (take place limiter client) state =
      (.ok (limiter.check client state.clock).1,
        called place limiter client state) := by
  have clock : runAction (Action.now : Action Interruption Int) state =
      (.ok state.clock, state) := rfl
  rw [take, runAction_bind_of_ok clock]
  by_cases dropped : 0 < limiter.idle state.clock
  · simp only [called, if_pos dropped]
    rfl
  · simp only [called, if_neg dropped]
    rfl

/-- A refusal says how long to wait, if a clock can measure it. -/
theorem runAction_refuse {Number : Type} [Quantity Number] {wait : Number}
    {seconds : Nat} (patience : Quantity.patience wait = some seconds)
    (route client : String) :
    ∃ after, runAction (refuse route client wait) state =
      (.ok (.answer (.refusal 429
        [⟨"retry-after", octets (toString seconds)⟩]
        "Rate limit exceeded")), after) := by
  unfold refuse
  rw [patience]
  exact ⟨_, rfl⟩

theorem runAction_refuse_broken {Number : Type} [Quantity Number]
    {wait : Number} (unmeasured : Quantity.measure wait = none)
    (route client : String) :
    runAction (refuse route client wait) state = (.error .broken, state) := by
  have patience : Quantity.patience wait = none := by
    rw [Quantity.patience, unmeasured]
    rfl
  unfold refuse
  rw [patience]
  rfl

theorem patience_bounds {Number : Type} [Quantity Number] {wait : Number}
    (measured : (Quantity.measure wait).isSome = true) :
    ∃ seconds, Quantity.patience wait = some seconds ∧ 1 ≤ seconds ∧
      seconds < UInt64.size := by
  rcases Option.isSome_iff_exists.mp measured with ⟨time, found⟩
  rw [Quantity.patience, found]
  refine ⟨_, rfl, le_max_left _ _, ?_⟩
  dsimp only
  have size : UInt64.size = 2 ^ 64 := rfl
  omega

section Gate

variable (found : state.limiters[place]? = some limiter)
include found

theorem runAction_gate_of_admitted
    (admitted : (limiter.check request.client state.clock).1 = .admitted) :
    runAction (gate place request) state =
      (.ok (.forward request pure),
        called place limiter request.client state) := by
  have present : runAction (get : Action Interruption State) state =
      (.ok state, state) := rfl
  rw [gate, runAction_bind_of_ok present, found]
  dsimp only
  rw [runAction_bind_of_ok (runAction_take request.client), admitted]
  rfl

theorem runAction_gate_of_limited {wait : Binary64}
    (limited : (limiter.check request.client state.clock).1 =
      .limited wait) :
    runAction (gate place request) state =
      runAction (refuse limiter.route request.client wait)
        (called place limiter request.client state) := by
  have present : runAction (get : Action Interruption State) state =
      (.ok state, state) := rfl
  rw [gate, runAction_bind_of_ok present, found]
  dsimp only
  rw [runAction_bind_of_ok (runAction_take request.client), limited]

end Gate

end RateLimit

/-- A limiter that only tells of times that can be measured answers. -/
theorem Limiter.answers_of_measured {limiter : Limiter Binary64}
    (measured : ∀ {client now wait},
      (limiter.check client now).1 = .limited wait →
        (Quantity.measure wait).isSome = true) : limiter.Answers where
  measured := measured
  answered := by
    intro place request state found
    cases verdict : (limiter.check request.client state.clock).1 with
    | admitted =>
        exact ⟨_, _, RateLimit.runAction_gate_of_admitted found verdict,
          .forwarded⟩
    | limited wait =>
        rcases RateLimit.patience_bounds (measured verdict) with
          ⟨seconds, patience, least, most⟩
        rw [RateLimit.runAction_gate_of_limited found verdict]
        rcases RateLimit.runAction_refuse patience limiter.route
          request.client with ⟨after, refused⟩
        exact ⟨_, after, refused, .refused least most⟩

/-! ## Spending a burst -/

namespace Bucket

variable {limit : Limit Binary64}

/-- A bucket that is used again at once has gained nothing. -/
theorem accrued_at_once (counts : limit.Counts) {tokens : Binary64}
    (amount : tokens.IsAmount) (now : Int) :
    (Bucket.mk tokens now).accrued limit now = tokens := by
  have nothing : (Quantity.seconds 0 : Binary64) = ⟨0⟩ := by
    decide +kernel
  have zero : (⟨0⟩ : Binary64).IsAmount :=
    (by decide : (⟨0⟩ : Binary64).bits.toNat < topBits)
  have empty : (⟨0⟩ : Binary64).size = 0 := by decide +kernel
  have product := rounds_multiply zero counts.rate
  rw [empty, zero_mul, ← empty] at product
  have gained : (⟨0⟩ : Binary64).multiply limit.rate = ⟨0⟩ :=
    product.unique zero.rounds
  have sum := rounds_add amount zero
  rw [empty, add_zero] at sum
  show Binary64.add tokens (Binary64.multiply
    (Quantity.seconds (now - now).toNat) limit.rate) = tokens
  rw [sub_self, Int.toNat_zero, nothing, gained]
  exact sum.unique amount.rounds

section Whole

variable (counts : limit.Counts) {burst : Nat} (short : burst < 2 ^ 53)
  (rim : limit.burst = Quantity.whole burst)
include counts short rim

theorem refill_at_once {count : Nat} (below : count ≤ burst) (now : Int) :
    (Bucket.mk (Quantity.whole count) now).refill limit now =
      (Bucket.mk (Quantity.whole count) now : Bucket Binary64) := by
  have amount : (ofInt count).IsAmount := isAmount_ofInt (by omega)
  have fits : Quantity.covers limit.burst (Quantity.whole count) = true := by
    rw [rim]
    apply (amount.isExtent.atMost_iff
      (isAmount_ofInt short).isExtent).mpr
    rw [amount.bits_le_iff (isAmount_ofInt short), size_ofInt short,
      size_ofInt (by omega)]
    exact_mod_cast below
  have same : (Bucket.mk (Quantity.whole count) now).accrued limit now =
      Quantity.whole count := accrued_at_once counts amount now
  rw [refill, same, Quantity.lesser, if_pos fits]

/-- Taking one of several whole tokens at once leaves the others. -/
theorem take_at_once {count : Nat} (below : count + 1 ≤ burst)
    (now : Int) :
    (Bucket.mk (Quantity.whole (count + 1)) now).take limit now =
      (.admitted, Bucket.mk (Quantity.whole count) now) := by
  have amount : (ofInt (count + 1 : Nat)).IsAmount :=
    isAmount_ofInt (by omega)
  have size : (ofInt (count + 1 : Nat)).size = (count + 1 : Nat) :=
    size_ofInt (by omega)
  have holds : oneToken.size ≤ (ofInt (count + 1 : Nat)).size := by
    rw [size, size_oneToken]
    exact_mod_cast Nat.le_add_left 1 count
  have enough : Quantity.covers (Quantity.whole (count + 1) : Binary64)
      (Quantity.whole 1) = true :=
    (covers_oneToken_iff amount).mpr (size_oneToken ▸ holds)
  have rest : (ofInt (count + 1 : Nat)).subtract oneToken =
      ofInt count := by
    have difference := rounds_subtract amount isAmount_oneToken holds
    rw [size, size_oneToken, Nat.cast_add_one, add_sub_cancel_right]
      at difference
    exact difference.unique (rounds_ofInt count)
  rw [take, refill_at_once counts short rim below, if_pos enough]
  exact congrArg (fun tokens => (Verdict.admitted, Bucket.mk tokens now))
    rest

/-- A client without tokens waits as long as one token takes. -/
theorem take_drained (now : Int) :
    ((Bucket.mk (Quantity.whole 0) now).take limit now).1 =
      .limited (oneToken.divide limit.rate) := by
  have few : Quantity.covers (Quantity.whole 0 : Binary64)
      (Quantity.whole 1) = false := by decide +kernel
  have missing : (Quantity.subtract (Quantity.whole 1)
      (Quantity.whole 0) : Binary64) = oneToken := by decide +kernel
  rw [take, refill_at_once counts short rim (Nat.zero_le burst), few,
    if_neg Bool.false_ne_true, missing]
  rfl

end Whole

end Bucket

namespace Limiter

/-- A limiter at its beginning, when one client has some tokens left. -/
def spent (route : String) (limit : Limit Binary64) (client : String)
    (now : Int) (rest : Nat) : Limiter Binary64 :=
  ⟨route, limit, now, 0, [(client, ⟨Quantity.whole rest, now⟩)]⟩

section Spending

variable {route client : String} {limit : Limit Binary64} {now : Int}
  {burst : Nat}

/-- A limiter never sweeps at its very beginning. -/
theorem sweep_at_once (buckets : List (String × Bucket Binary64)) :
    (Limiter.mk route limit now 0 buckets).sweep now =
      ⟨route, limit, now, 0, buckets⟩ := by
  have early : (Limiter.mk route limit now 0 buckets).isDue now = false := by
    rw [isDue, age, sub_self]
    rfl
  rw [sweep, early, if_neg Bool.false_ne_true]

theorem check_spent (rest : Nat) :
    (spent route limit client now rest).check client now =
      (((Bucket.mk (Quantity.whole rest) now).take limit now).1,
        ⟨route, limit, now, 0, [(client,
          ((Bucket.mk (Quantity.whole rest) now).take limit now).2)]⟩) := by
  rw [check, spent, sweep_at_once, bucket]
  simp only [List.lookup_cons, BEq.rfl, Option.getD_some]
  simp [store]

variable (counts : limit.Counts) (short : burst < 2 ^ 53)
  (rim : limit.burst = Quantity.whole burst)
include counts short rim

theorem after_spent {rest : Nat} (below : rest ≤ burst) :
    (spent route limit client now rest).after
        (List.replicate rest ⟨client, now⟩) =
      spent route limit client now 0 := by
  induction rest with
  | zero => rfl
  | succ rest induction =>
      rw [List.replicate_succ, after, List.foldl_cons, check_spent,
        Bucket.take_at_once counts short rim below]
      exact induction (by omega)

/-- A client can spend its burst at once. -/
theorem after_start (positive : 0 < burst) :
    (start route limit now).after
        (List.replicate burst ⟨client, now⟩) =
      spent route limit client now 0 := by
  obtain ⟨rest, rfl⟩ := Nat.exists_eq_add_one.mpr positive
  have first : (start route limit now).check client now =
      (.admitted, spent route limit client now rest) := by
    have full : (Bucket.full limit now).take limit now =
        (.admitted, Bucket.mk (Quantity.whole rest) now) := by
      rw [Bucket.full, rim]
      exact Bucket.take_at_once counts short rim le_rfl now
    rw [check, start, sweep_at_once, bucket]
    simp only [List.lookup_nil, Option.getD_none]
    rw [full]
    rfl
  rw [List.replicate_succ, after, List.foldl_cons, first]
  exact after_spent counts short rim (Nat.le_succ rest)

end Spending

end Limiter

/--
A client without tokens that cannot be told how long to wait gets no answer
at all.
-/
theorem RateLimit.runAction_gate_of_spent {limit : Limit Binary64}
    (counts : limit.Counts) {burst : Nat} (short : burst < 2 ^ 53)
    (rim : limit.burst = Quantity.whole burst) (slow : ¬ limit.IsQuick)
    {place : Nat} {route : String} {request : Request} {state : State}
    (found : state.limiters[place]? =
      some (Limiter.spent route limit request.client state.clock 0)) :
    ∃ after, runAction (gate place request) state =
      (.error .broken, after) := by
  have limited : ((Limiter.spent route limit request.client state.clock
      0).check request.client state.clock).1 =
        .limited (oneToken.divide limit.rate) := by
    rw [Limiter.check_spent]
    exact Bucket.take_drained counts short rim state.clock
  have wait := rounds_divide isAmount_oneToken counts.rate counts.gains
  have unmeasured :
      Quantity.measure (oneToken.divide limit.rate) = none := by
    rw [← Option.not_isSome_iff_eq_none]
    intro measured
    have quick := wait.measure_isSome_iff.mp measured
    rw [size_oneToken, div_lt_iff₀ counts.gains, mul_comm] at quick
    exact slow quick
  rw [runAction_gate_of_limited found limited,
    runAction_refuse_broken unmeasured]
  exact ⟨_, rfl⟩

/-! ## Settings that are accepted -/

/-- A rate that is accepted is an amount that is not zero. -/
theorem isAmount_of_isPositive {rate : Binary64}
    (positive : RateLimitSettings.isPositive rate = true) :
    rate.IsAmount ∧ exactValue rate = rate.size := by
  simp only [RateLimitSettings.isPositive, Bool.and_eq_true,
    Bool.not_eq_true'] at positive
  rcases positive with ⟨⟨finite, notNegative⟩, _⟩
  constructor
  · rw [isFinite, exponentField, bne_iff_ne] at finite
    rw [isNegative, decide_eq_false_iff_not] at notNegative
    simp only [Nat.pow_eq] at finite notNegative
    rw [IsAmount, topBits]
    omega
  · rw [exactValue, notNegative, if_neg Bool.false_ne_true, one_mul]
    rfl

theorem counts_limit {settings accepted : RateLimitSettings}
    (checked : settings.checked = .ok accepted)
    (sized : accepted.burst < UInt32.size) : accepted.limit.Counts := by
  have positive := (RateLimitSettings.of_checked checked).1
  have gains := exactValue_pos positive
  rcases isAmount_of_isPositive positive with ⟨rate, value⟩
  rw [value] at gains
  exact ⟨rate, gains, isAmount_ofInt (sized.trans (by decide))⟩

/-- A request of which nothing is known. -/
def plainRequest : Request where
  method := .get
  target := "/"
  headers := []
  body := []
  peer := none

/--
Whatever limit is accepted: a limiter answers all requests of all clients at
all times, in any order, exactly if one token is gained in less time than a
clock can measure.
-/
theorem answers_iff_quick {settings accepted : RateLimitSettings}
    (checked : settings.checked = .ok accepted)
    (sized : accepted.burst < UInt32.size) (route : String)
    (started : Int) :
    (∀ calls : List Call,
        ((Limiter.start route accepted.limit started).after
          calls).Answers) ↔
      1 < exactValue accepted.requestsPerSecond * (2 ^ 64 - 2 ^ 10) := by
  have counts := counts_limit checked sized
  rcases RateLimitSettings.of_checked checked with ⟨rate, positive⟩
  have short : accepted.burst < 2 ^ 53 := sized.trans (by decide)
  rw [(isAmount_of_isPositive rate).2]
  constructor
  · intro answers
    by_contra slow
    have spent := answers
      (List.replicate accepted.burst ⟨plainRequest.client, started⟩)
    rw [Limiter.after_start counts short rfl positive] at spent
    let state : State :=
      { State.start fun _ => 0 with
        clock := started
        limiters := [Limiter.spent route accepted.limit
          plainRequest.client started 0] }
    have found : state.limiters[0]? =
        some (Limiter.spent route accepted.limit plainRequest.client
          state.clock 0) := rfl
    rcases spent.answered plainRequest found with
      ⟨decision, after, answered, _⟩
    rcases RateLimit.runAction_gate_of_spent counts short rfl slow found
      with ⟨broken, aborted⟩
    rw [aborted] at answered
    cases answered
  · intro quick calls
    have started : (Limiter.start route accepted.limit started).Counts :=
      ⟨counts, nofun⟩
    apply Limiter.answers_of_measured
    apply (started.after calls).measured
    rw [Limiter.limit_after]
    exact quick

/-- The settings of one call at first and, it seems, never another one. -/
def nearlyNever : RateLimitSettings :=
  ⟨⟨0x01A56E1FC2F8F359⟩, 1⟩

theorem checked_nearlyNever : nearlyNever.checked = .ok nearlyNever := rfl

/-- With ten calls a second, all requests are answered. -/
theorem answers_ten_a_second :
    RateLimitSettings.default.checked = .ok RateLimitSettings.default ∧
      RateLimitSettings.default.burst < UInt32.size ∧
      ∀ calls : List Call,
        ((Limiter.start "/" RateLimitSettings.default.limit 0).after
          calls).Answers :=
  ⟨checked_default, by decide,
    (answers_iff_quick checked_default (by decide) "/" 0).mpr
      (by decide +kernel)⟩

/-- Settings that are accepted, and the second request gets no answer. -/
theorem broken_second_request :
    nearlyNever.checked = .ok nearlyNever ∧
      ∃ state after,
        state.limiters[0]? = some ((Limiter.start "/" nearlyNever.limit
          0).after [⟨plainRequest.client, 0⟩]) ∧
        runAction (RateLimit.gate 0 plainRequest) state =
          (.error .broken, after) := by
  refine ⟨checked_nearlyNever, ?_⟩
  have counts := counts_limit checked_nearlyNever (by decide)
  have spent : (Limiter.start "/" nearlyNever.limit 0).after
      (List.replicate 1 ⟨plainRequest.client, 0⟩) =
        Limiter.spent "/" nearlyNever.limit plainRequest.client 0 0 := by
    apply Limiter.after_start counts _ _ one_pos
    · decide
    · rfl
  have slow : ¬ nearlyNever.limit.IsQuick := by
    unfold Limit.IsQuick
    decide +kernel
  let state : State :=
    { State.start fun _ => 0 with
      limiters := [Limiter.spent "/" nearlyNever.limit
        plainRequest.client 0 0] }
  have found : state.limiters[0]? =
      some (Limiter.spent "/" nearlyNever.limit plainRequest.client
        state.clock 0) := rfl
  have rim : nearlyNever.limit.burst = Quantity.whole 1 := rfl
  rcases RateLimit.runAction_gate_of_spent counts
    (by decide : 1 < 2 ^ 53) rim slow found with ⟨after, aborted⟩
  exact ⟨state, after, congrArg some spent.symm, aborted⟩

end Gatehouse.Security
