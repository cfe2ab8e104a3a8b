import Gatehouse.Proofs.Security.Allowance
import Mathlib.Data.Rat.Floor

/-!
# Calls that come late

A call looks at the clock before it reaches its bucket, so the times of calls
need not be in order.  A late call finds that no time has passed and sets the
bucket back to its own time, and what has passed since is gained once more by
the next call.  So a client gains all the time by which its calls go forward:
the span of time that they lie in, and on top of it the time by which they
are late.  Calls in order are never late.  Calls that swing between two times
gain without end.
-/

namespace Gatehouse.Security

open Gatehouse.Decimal

/-! ## Times in any order -/

/-- The nanoseconds by which some times go forward, each after the last. -/
def advance : List Int → Nat
  | former :: latter :: rest =>
    (latter - former).toNat + advance (latter :: rest)
  | _ => 0

/-- The nanoseconds by which some times go back, each after the last. -/
def setback : List Int → Nat
  | former :: latter :: rest =>
    (former - latter).toNat + setback (latter :: rest)
  | _ => 0

/-- Times go as far forward as they get and as they go back. -/
theorem advance_eq (first : Int) (rest : List Int) :
    ∃ last ∈ first :: rest,
      (advance (first :: rest) : Int) =
        last - first + setback (first :: rest) := by
  induction rest generalizing first with
  | nil =>
      exact ⟨first, List.mem_singleton_self first, by simp [advance, setback]⟩
  | cons second rest induction =>
      rcases induction second with ⟨last, member, equal⟩
      refine ⟨last, List.mem_cons_of_mem first member, ?_⟩
      rw [advance, setback]
      omega

/-- Only times in order never go back. -/
theorem setback_eq_zero_iff {times : List Int} :
    setback times = 0 ↔ times.Pairwise (· ≤ ·) := by
  rw [← List.isChain_iff_pairwise]
  induction times with
  | nil => simp [setback]
  | cons first rest induction =>
      cases rest with
      | nil => simp [setback]
      | cons second rest =>
          rw [setback, List.isChain_cons_cons, ← induction]
          omega

/-- Within a span, times go forward by the span and what they go back. -/
theorem advance_le {times : List Int} {start finish : Int}
    (span : start ≤ finish)
    (inside : ∀ now ∈ times, start ≤ now ∧ now ≤ finish) :
    (advance times : Int) ≤ finish - start + setback times := by
  cases times with
  | nil => simp [advance, setback, span]
  | cons first rest =>
      rcases advance_eq first rest with ⟨last, member, equal⟩
      have begun := (inside first List.mem_cons_self).1
      have ended := (inside last member).2
      omega

/-! ## One client in any order -/

namespace Bucket

variable {limit : Limit Rat} {bucket : Bucket Rat}

/-- A bucket admits what it held and gains while its calls go forward. -/
theorem admissions_le_advance (within : bucket.Within limit)
    (steady : 0 ≤ limit.rate) (times : List Int) :
    (admissions (bucket.verdicts limit times) : Rat) ≤
      bucket.tokens +
        Quantity.seconds (advance (bucket.updated :: times)) *
          limit.rate := by
  induction times generalizing bucket with
  | nil =>
      have held := within.nonneg
      simpa [verdicts, admissions, advance, Quantity.seconds] using held
  | cons now rest induction =>
      have others := induction (within.take steady now)
      rw [updated_take] at others
      have balance := take_balance limit bucket now
      have filled : (bucket.refill limit now).tokens ≤
          bucket.tokens +
            Quantity.seconds (now - bucket.updated).toNat * limit.rate := by
        rw [tokens_refill]
        exact min_le_left _ _
      have split : (Quantity.seconds
          (advance (bucket.updated :: now :: rest)) : Rat) =
          Quantity.seconds (now - bucket.updated).toNat +
            Quantity.seconds (advance (now :: rest)) := by
        show (_ : Rat) / _ = _ / _ + _ / _
        rw [advance, Nat.cast_add, add_div]
      rw [admissions_verdicts_cons, split, add_mul]
      push_cast
      linarith

/-- Calls that swing between an early time and a late one. -/
def swing (early late : Int) : Nat → List Int
  | 0 => []
  | count + 1 => late :: early :: swing early late count

theorem mem_swing {early late now : Int} {count : Nat}
    (member : now ∈ swing early late count) : now = late ∨ now = early := by
  induction count with
  | zero => exact nomatch member
  | succ count induction =>
      rw [swing, List.mem_cons, List.mem_cons] at member
      rcases member with rfl | rfl | member
      · exact .inl rfl
      · exact .inr rfl
      · exact induction member

/-- Each swing gains a token, if there is enough time between its ends. -/
theorem le_admissions_swing {early late : Int}
    (within : bucket.Within limit) (began : bucket.updated = early)
    (room : 1 ≤ limit.burst) (steady : 0 < limit.rate)
    (passed : early ≤ late)
    (spaced : Spaced limit early late) (count : Nat) :
    count ≤ admissions (bucket.verdicts limit (swing early late count)) := by
  induction count generalizing bucket with
  | zero => exact Nat.zero_le _
  | succ count induction =>
      subst began
      have admitted := within.admits room steady passed spaced
      -- The call at the early time leaves a bucket of that time again.
      have others := induction
        ((within.take steady.le late).take steady.le bucket.updated)
        (updated_take ..)
      have one : admissions [(.admitted : Verdict Rat)] = 1 := rfl
      rw [swing, admissions_verdicts_cons, admissions_verdicts_cons, admitted,
        one]
      omega

end Bucket

namespace Limiter

/-- What a limiter answers to a client that calls at some times. -/
def answersTo (limiter : Limiter Rat) (client : String)
    (times : List Int) : List (Verdict Rat) :=
  (limiter.verdicts (times.map (Call.mk client))).map Prod.snd

/-- A client that is the only one to call is answered from its own bucket. -/
theorem Balanced.answersTo_eq {limiter : Limiter Rat}
    (balanced : limiter.Balanced) (client : String) (times : List Int) :
    limiter.answersTo client times =
      verdictsFrom limiter.limit (limiter.buckets.lookup client) times := by
  unfold answersTo
  induction times generalizing limiter with
  | nil => cases limiter.buckets.lookup client <;> rfl
  | cons now rest induction =>
      rcases balanced.check_own client now with ⟨verdict, kept⟩
      have others := induction (balanced.check client now)
      rw [limit_check, kept] at others
      rw [List.map_cons, verdicts, List.map_cons, verdictsFrom_cons, others,
        verdict]

end Limiter

/-! ## What late calls gain -/

/--
What the calls of one client gain that come in any order: no more than any
span of time that they lie in allows, and what they were late; nothing on top
of the span if they are in order; and within some span as much as they like.
-/
structure GainsLate (limiter : Limiter Rat) (client : String) : Prop where
  bounded : ∀ times start finish, start ≤ finish →
    (∀ now ∈ times, start ≤ now ∧ now ≤ finish) →
    (admissions (limiter.answersTo client times) : Rat) ≤
      limiter.limit.burst + limiter.limit.rate *
        (secondsBetween start finish + Quantity.seconds (setback times))
  ordered : ∀ times start finish, start ≤ finish →
    (∀ now ∈ times, start ≤ now ∧ now ≤ finish) →
    times.Pairwise (· ≤ ·) →
    (admissions (limiter.answersTo client times) : Rat) ≤
      limiter.limit.burst + limiter.limit.rate * secondsBetween start finish
  unbounded : ∃ finish, ∀ count, ∃ times,
    (∀ now ∈ times, limiter.started ≤ now ∧ now ≤ finish) ∧
      count ≤ admissions (limiter.answersTo client times)

namespace Limiter.Balanced

variable {limiter : Limiter Rat} (balanced : limiter.Balanced)
  {client : String} (unseen : limiter.buckets.lookup client = none)
include balanced unseen

theorem admissions_le_setback {times : List Int} {start finish : Int}
    (span : start ≤ finish)
    (inside : ∀ now ∈ times, start ≤ now ∧ now ≤ finish) :
    (admissions (limiter.answersTo client times) : Rat) ≤
      limiter.limit.burst + limiter.limit.rate *
        (secondsBetween start finish + Quantity.seconds (setback times)) := by
  have full := Bucket.within_full (zero_le_one.trans balanced.room)
  have forward : (Quantity.seconds (advance times) : Rat) ≤
      secondsBetween start finish + Quantity.seconds (setback times) := by
    have advanced : ((advance times : Int) : Rat) ≤
        ((finish - start + setback times : Int) : Rat) := by
      exact_mod_cast advance_le span inside
    show (_ : Rat) / _ ≤ _ / _ + _ / _
    rw [← add_div]
    push_cast at advanced ⊢
    gcongr
  have gained := mul_le_mul_of_nonneg_left forward balanced.steady.le
  rw [balanced.answersTo_eq, unseen]
  cases times with
  | nil =>
      have nothing : (0 : Rat) ≤ limiter.limit.rate *
          Quantity.seconds (advance []) :=
        mul_nonneg balanced.steady.le (div_nonneg (Nat.cast_nonneg _)
          (Nat.cast_nonneg _))
      have room := balanced.room
      simp only [verdictsFrom, verdictsAlone, admissions, List.count_nil,
        Nat.cast_zero]
      linarith
  | cons first rest =>
      have own := Bucket.admissions_le_advance (full first)
        balanced.steady.le (first :: rest)
      have still : advance (first :: first :: rest) =
          advance (first :: rest) := by
        rw [advance, sub_self, Int.toNat_zero, Nat.zero_add]
      rw [Bucket.full] at own
      dsimp only at own
      rw [still] at own
      simp only [verdictsFrom, verdictsAlone, Bucket.full]
      linarith

theorem exists_admissions_ge :
    ∃ finish, ∀ count, ∃ times,
      (∀ now ∈ times, limiter.started ≤ now ∧ now ≤ finish) ∧
        count ≤ admissions (limiter.answersTo client times) := by
  have steady := balanced.steady
  have full := Bucket.within_full
    (zero_le_one.trans balanced.room)
  -- In so many nanoseconds a token is gained.
  let span : Nat := ⌈(nanosecond : Rat) / limiter.limit.rate⌉₊
  have passed : limiter.started ≤ limiter.started + span := by omega
  have spaced : Bucket.Spaced limiter.limit limiter.started
      (limiter.started + span) := by
    rw [Bucket.Spaced, le_secondsBetween_iff, add_sub_cancel_left,
      one_div_mul_eq_div]
    exact_mod_cast Nat.le_ceil ((nanosecond : Rat) / limiter.limit.rate)
  refine ⟨limiter.started + span, fun count =>
    ⟨limiter.started :: Bucket.swing limiter.started
      (limiter.started + span) count, ?_, ?_⟩⟩
  · intro now member
    rcases List.mem_cons.mp member with rfl | swung
    · exact ⟨le_rfl, passed⟩
    · rcases Bucket.mem_swing swung with rfl | rfl
      · exact ⟨passed, le_rfl⟩
      · exact ⟨le_rfl, passed⟩
  · have gained := Bucket.le_admissions_swing
      ((full limiter.started).take steady.le limiter.started)
      (Bucket.updated_take ..) balanced.room steady passed spaced count
    rw [balanced.answersTo_eq, unseen]
    show count ≤ admissions ((Bucket.full limiter.limit
      limiter.started).verdicts limiter.limit _)
    rw [Bucket.admissions_verdicts_cons]
    omega

end Limiter.Balanced

/--
Whatever limit is accepted: calls of a client that come late gain the time
by which they are late, and nothing else.
-/
theorem gainsLate_exact {settings accepted : RateLimitSettings}
    (checked : settings.checked = .ok accepted) (route : String)
    (started : Int) (client : String) :
    GainsLate (Limiter.start route accepted.exactLimit started) client := by
  have balanced := Limiter.balanced_start checked route started
  have unseen : (Limiter.start route accepted.exactLimit
      started).buckets.lookup client = none := rfl
  constructor
  case bounded =>
    exact fun _ _ _ => balanced.admissions_le_setback unseen
  case ordered =>
    intro times start finish span inside inOrder
    have bounded := balanced.admissions_le_setback unseen span inside
    have nothing : (Quantity.seconds 0 : Rat) = 0 := zero_div _
    rw [setback_eq_zero_iff.mpr inOrder, nothing, add_zero] at bounded
    exact bounded
  case unbounded => exact balanced.exists_admissions_ge unseen

/-- One call a second. -/
def oneASecond : RateLimitSettings :=
  ⟨Binary64.ofInt 1, 1⟩

theorem checked_oneASecond : oneASecond.checked = .ok oneASecond := rfl

/-- One call a second is allowed, and late calls gain without end. -/
theorem gainsLate_one_a_second :
    oneASecond.checked = .ok oneASecond ∧
      GainsLate (Limiter.start "/" oneASecond.exactLimit 0) "a" :=
  ⟨checked_oneASecond, gainsLate_exact checked_oneASecond "/" 0 "a"⟩

/-- A call that comes a second late, and three are admitted in a second. -/
theorem admitted_thrice_in_one_second :
    oneASecond.checked = .ok oneASecond ∧
      (∀ now ∈ [0, 1000000000, 0, 1000000000],
        (0 : Int) ≤ now ∧ now ≤ 1000000000) ∧
      ¬ (admissions ((Limiter.start "/" oneASecond.exactLimit 0).answersTo
          "a" [0, 1000000000, 0, 1000000000]) : Rat) ≤
        oneASecond.exactLimit.burst +
          oneASecond.exactLimit.rate * secondsBetween 0 1000000000 := by
  refine ⟨checked_oneASecond, by decide, ?_⟩
  decide +kernel

end Gatehouse.Security
