import Gatehouse.Security.RateLimit
import Mathlib.Algebra.Order.Field.Rat
import Mathlib.Algebra.Order.GroupWithZero.Basic
import Mathlib.Tactic.GCongr
import Mathlib.Tactic.Positivity

/-!
# Buckets in exact fractions

Read in exact fractions, a bucket holds the lesser of what it has accrued
and its burst.  A bucket that is full cannot be told from a new one: taking
from either gives the same answer and leaves the same bucket.  Tokens are
only gained while time passes, so a full bucket that is left alone stays
full.
-/

namespace Gatehouse.Security

open Gatehouse.Decimal

/-! ## Accepted settings as exact numbers -/

/-- The value of a finite number. -/
def exactValue (number : Binary64) : Rat :=
  (if number.isNegative then -1 else 1) *
    ((number.ratio.1 : Rat) / (number.ratio.2 : Rat))

/-- The limit that some settings mean, in exact fractions. -/
def RateLimitSettings.exactLimit (settings : RateLimitSettings) :
    Limit Rat :=
  ⟨exactValue settings.requestsPerSecond, Quantity.whole settings.burst⟩

theorem exactValue_pos {rate : Binary64}
    (positive : RateLimitSettings.isPositive rate = true) :
    0 < exactValue rate := by
  simp only [RateLimitSettings.isPositive, Bool.and_eq_true,
    Bool.not_eq_true'] at positive
  rcases positive with ⟨⟨_, notNegative⟩, notZero⟩
  have significant : 0 < rate.significand := by
    rw [Binary64.significand]
    split
    · rename_i least
      simp only [Binary64.isZero, least, BEq.rfl, Bool.true_and,
        beq_eq_false_iff_ne] at notZero
      exact Nat.pos_of_ne_zero notZero
    · exact Nat.add_pos_left (Nat.pow_pos Nat.two_pos) _
  have numerator : (0 : Rat) < rate.ratio.1 := by
    exact_mod_cast Nat.mul_pos significant (Nat.pow_pos Nat.two_pos)
  have denominator : (0 : Rat) < rate.ratio.2 := by
    exact_mod_cast (Nat.pow_pos Nat.two_pos : 0 < rate.ratio.2)
  rw [exactValue, notNegative, if_neg Bool.false_ne_true, one_mul]
  exact div_pos numerator denominator

/-- What holds when nothing is configured is accepted. -/
theorem checked_default :
    RateLimitSettings.default.checked = .ok RateLimitSettings.default :=
  rfl

/-- Settings are accepted as they are, if a rate and a burst are there. -/
theorem RateLimitSettings.of_checked {settings accepted : RateLimitSettings}
    (checked : settings.checked = .ok accepted) :
    isPositive accepted.requestsPerSecond = true ∧ 0 < accepted.burst := by
  unfold RateLimitSettings.checked at checked
  split at checked
  · cases checked
  · rename_i positive
    split at checked
    · cases checked
    · rename_i notZero
      cases checked
      exact ⟨by simpa using positive, Nat.pos_of_ne_zero notZero⟩

/-- Settings that are accepted mean a limit that gains tokens. -/
theorem exactLimit_rate_pos {settings accepted : RateLimitSettings}
    (checked : settings.checked = .ok accepted) :
    0 < accepted.exactLimit.rate :=
  exactValue_pos (RateLimitSettings.of_checked checked).1

namespace Bucket

section Taking

variable {Number : Type} [Quantity Number]

/-- Taking looks only at what a bucket holds once it is filled up. -/
theorem take_congr {limit : Limit Number} {bucket other : Bucket Number}
    {now : Int} (same : bucket.refill limit now = other.refill limit now) :
    bucket.take limit now = other.take limit now := by
  simp only [take]
  rw [same]

end Taking

/-! ## Full buckets -/

variable {limit : Limit Rat} {bucket : Bucket Rat} {now later : Int}

theorem accrued_eq (limit : Limit Rat) (bucket : Bucket Rat) (now : Int) :
    bucket.accrued limit now =
      bucket.tokens +
        ((now - bucket.updated).toNat : Rat) / (nanosecond : Rat) *
          limit.rate := rfl

theorem isFull_iff :
    bucket.isFull limit now = true ↔
      limit.burst ≤ bucket.accrued limit now :=
  decide_eq_true_iff

theorem tokens_refill :
    (bucket.refill limit now).tokens =
      min (bucket.accrued limit now) limit.burst := by
  rw [min_def]
  by_cases below : bucket.accrued limit now ≤ limit.burst
  · rw [if_pos below]
    exact if_pos (decide_eq_true below)
  · rw [if_neg below]
    exact if_neg fun covers => below (of_decide_eq_true covers)

/-- A bucket left alone gains tokens. -/
theorem accrued_mono (steady : 0 ≤ limit.rate) (passed : now ≤ later) :
    bucket.accrued limit now ≤ bucket.accrued limit later := by
  have elapsed :
      (now - bucket.updated).toNat ≤ (later - bucket.updated).toNat := by
    omega
  rw [accrued_eq, accrued_eq]
  gcongr

/-- A full bucket that is left alone stays full. -/
theorem isFull_later (steady : 0 ≤ limit.rate) (passed : now ≤ later)
    (isFull : bucket.isFull limit now = true) :
    bucket.isFull limit later = true := by
  rw [isFull_iff] at isFull ⊢
  exact isFull.trans (accrued_mono steady passed)

/-- A full bucket fills up to a new one. -/
theorem refill_of_isFull (isFull : bucket.isFull limit now = true) :
    bucket.refill limit now = full limit now := by
  have tokens : (bucket.refill limit now).tokens = limit.burst := by
    rw [tokens_refill]
    exact min_eq_right (isFull_iff.mp isFull)
  exact congrArg (Bucket.mk · now) tokens

theorem isFull_full (limit : Limit Rat) (now : Int) :
    (full limit now).isFull limit now = true := by
  rw [isFull_iff, accrued_eq]
  simp [full]

/-- A full bucket cannot be told from a new one. -/
theorem take_of_isFull (isFull : bucket.isFull limit now = true) :
    bucket.take limit now = (full limit now).take limit now := by
  apply take_congr
  rw [refill_of_isFull isFull, refill_of_isFull (isFull_full limit now)]

end Bucket

end Gatehouse.Security
