import Gatehouse.Decimal.Quantity
import Gatehouse.Proofs.Decimal.Rounding

/-!
# Arithmetic of amounts

Numbers that are not negative are added, multiplied and divided exactly and
then rounded, so what is known of the exact result carries over to the number.
No operation on them is undefined as long as nothing is infinite on the right
of it.  A clock can measure what is less than half a step below its limit.
-/

namespace Gatehouse.Decimal.Binary64

/-! ## Numbers that are not negative -/

/-- A number that is not negative, an amount or infinity. -/
def IsExtent (number : Binary64) : Prop :=
  number.bits.toNat ≤ topBits

theorem IsAmount.isExtent {number : Binary64} (amount : number.IsAmount) :
    number.IsExtent :=
  le_of_lt amount

theorem Rounds.isExtent {value : Rat} {number : Binary64}
    (rounds : Rounds value number) : number.IsExtent :=
  rounds.le_top

namespace IsExtent

variable {number other : Binary64}

theorem isNegative (extent : number.IsExtent) :
    number.isNegative = false := by
  unfold IsExtent topBits at extent
  rw [Binary64.isNegative, decide_eq_false_iff_not, Nat.pow_eq]
  omega

theorem isNaN (extent : number.IsExtent) : number.isNaN = false := by
  unfold IsExtent topBits at extent
  rw [Binary64.isNaN, exponentField, fractionField]
  simp only [Nat.pow_eq, Bool.and_eq_false_iff, beq_eq_false_iff_ne,
    bne_eq_false_iff_eq]
  omega

theorem isFinite_iff (extent : number.IsExtent) :
    number.isFinite = true ↔ number.IsAmount := by
  unfold IsExtent topBits at extent
  rw [IsAmount, topBits, isFinite, exponentField]
  simp only [Nat.pow_eq, bne_iff_ne]
  omega

theorem eq_infinity (extent : number.IsExtent)
    (notAmount : ¬ number.IsAmount) : number = infinity :=
  eq_of_toNat_bits (le_antisymm extent (not_lt.mp notAmount))

theorem atMost_iff (extent : number.IsExtent)
    (otherExtent : other.IsExtent) :
    number.atMost other = true ↔
      number.bits.toNat ≤ other.bits.toNat := by
  simp [atMost, rank, extent.isNegative, otherExtent.isNegative,
    extent.isNaN, otherExtent.isNaN]

end IsExtent

namespace IsAmount

variable {number other : Binary64}

theorem isFinite (amount : number.IsAmount) : number.isFinite = true :=
  amount.isExtent.isFinite_iff.mpr amount

theorem numerator (amount : number.IsAmount) :
    number.numerator = number.ratio.1 := by
  rw [Binary64.numerator, amount.isExtent.isNegative,
    if_neg Bool.false_ne_true]

end IsAmount

theorem size_nonneg (number : Binary64) : 0 ≤ number.size := by
  rw [size]
  positivity

theorem denominator_pos (number : Binary64) : 0 < number.ratio.2 := by
  simp only [ratio, Nat.pow_eq]
  positivity

theorem isZero_iff (number : Binary64) :
    number.isZero = true ↔ number.size = 0 := by
  rw [size_eq, mul_eq_zero, or_iff_left (two_zpow_pos _).ne',
    Nat.cast_eq_zero, significand, isZero]
  simp only [Nat.pow_eq, Bool.and_eq_true, beq_iff_eq]
  split <;> omega

/-! ## Operations -/

section Operations

variable {left right : Binary64}

/-- A sum of finite numbers that is not negative is the rounded exact sum. -/
theorem rounds_add_of_total {total : Nat}
    (leftFinite : left.isFinite = true) (rightFinite : right.isFinite = true)
    (exact : left.numerator * right.ratio.2 +
      right.numerator * left.ratio.2 = (total : Int))
    (positive : left.isNegative = false) :
    Rounds ((total : Rat) / (left.ratio.2 * right.ratio.2 : Nat))
      (left.add right) := by
  have leftNumber : left.isNaN = false := by
    rw [isNaN, Bool.and_eq_false_iff]
    exact .inl (by simpa [Binary64.isFinite] using leftFinite)
  have rightNumber : right.isNaN = false := by
    rw [isNaN, Bool.and_eq_false_iff]
    exact .inl (by simpa [Binary64.isFinite] using rightFinite)
  have notNegative : decide ((total : Int) < 0) = false :=
    decide_eq_false (by omega)
  rw [add, exact]
  simp only [leftNumber, rightNumber, leftFinite, rightFinite, positive,
    notNegative, Int.natAbs_natCast, Bool.false_and, Bool.or_self,
    Bool.not_true, Bool.false_eq_true, if_false]
  exact rounds_ofRatio total
    (Nat.mul_pos left.denominator_pos right.denominator_pos)

theorem rounds_add (leftAmount : left.IsAmount)
    (rightAmount : right.IsAmount) :
    Rounds (left.size + right.size) (left.add right) := by
  have leftPos : (0 : Rat) < left.ratio.2 := by
    exact_mod_cast left.denominator_pos
  have rightPos : (0 : Rat) < right.ratio.2 := by
    exact_mod_cast right.denominator_pos
  have sum : left.size + right.size =
      ((left.ratio.1 * right.ratio.2 + right.ratio.1 * left.ratio.2 :
        Nat) : Rat) / (left.ratio.2 * right.ratio.2 : Nat) := by
    rw [size, size]
    push_cast
    field_simp
  rw [sum]
  apply rounds_add_of_total leftAmount.isFinite rightAmount.isFinite
    _ leftAmount.isExtent.isNegative
  rw [leftAmount.numerator, rightAmount.numerator]
  push_cast
  rfl

/-- Turning the sign of an amount changes nothing else. -/
theorem IsAmount.negate {number : Binary64} (amount : number.IsAmount) :
    number.negate.isNegative = true ∧ number.negate.isFinite = true ∧
      number.negate.ratio = number.ratio := by
  have positive := amount.isExtent.isNegative
  have finite := amount.isFinite
  unfold IsAmount topBits at amount
  have bits : number.negate.bits.toNat = 2 ^ 63 + number.bits.toNat := by
    rw [Binary64.negate, positive, withSign]
    simp only [Bool.not_false, if_true, Nat.pow_eq]
    rw [UInt64.toNat_ofNat']
    omega
  have field : number.negate.exponentField = number.exponentField := by
    rw [exponentField, exponentField, bits, Nat.pow_eq, Nat.pow_eq]
    omega
  have fraction : number.negate.fractionField = number.fractionField := by
    rw [fractionField, fractionField, bits, Nat.pow_eq]
    omega
  refine ⟨?_, ?_, ?_⟩
  · rw [Binary64.isNegative, bits, Nat.pow_eq]
    exact decide_eq_true (by omega)
  · rw [Binary64.isFinite, field]
    exact finite
  · rw [ratio, ratio, significand, significand, scale, scale, field,
      fraction]

/-- What is left of an amount when no more is taken away than it holds. -/
theorem rounds_subtract (leftAmount : left.IsAmount)
    (rightAmount : right.IsAmount) (holds : right.size ≤ left.size) :
    Rounds (left.size - right.size) (left.subtract right) := by
  have leftPos : (0 : Rat) < left.ratio.2 := by
    exact_mod_cast left.denominator_pos
  have rightPos : (0 : Rat) < right.ratio.2 := by
    exact_mod_cast right.denominator_pos
  have enough : right.ratio.1 * left.ratio.2 ≤
      left.ratio.1 * right.ratio.2 := by
    rw [size, size, div_le_div_iff₀ rightPos leftPos] at holds
    exact_mod_cast holds
  have difference : left.size - right.size =
      ((left.ratio.1 * right.ratio.2 - right.ratio.1 * left.ratio.2 :
        Nat) : Rat) / (left.ratio.2 * right.ratio.2 : Nat) := by
    rw [size, size, Nat.cast_sub enough]
    push_cast
    field_simp
  rcases rightAmount.negate with ⟨negative, finite, ratio⟩
  rw [difference, subtract, ← ratio]
  apply rounds_add_of_total leftAmount.isFinite finite _
    leftAmount.isExtent.isNegative
  rw [leftAmount.numerator, numerator, negative, if_pos rfl, ratio,
    Nat.cast_sub enough]
  push_cast
  ring

theorem rounds_multiply (leftAmount : left.IsAmount)
    (rightAmount : right.IsAmount) :
    Rounds (left.size * right.size) (left.multiply right) := by
  have product : left.size * right.size =
      ((left.ratio.1 * right.ratio.1 : Nat) : Rat) /
        (left.ratio.2 * right.ratio.2 : Nat) := by
    rw [size, size, div_mul_div_comm]
    push_cast
    rfl
  rw [product, multiply]
  simp only [leftAmount.isExtent.isNaN, rightAmount.isExtent.isNaN,
    leftAmount.isFinite, rightAmount.isFinite,
    leftAmount.isExtent.isNegative, rightAmount.isExtent.isNegative,
    bne_self_eq_false, Bool.or_self, Bool.not_true, Bool.false_eq_true,
    if_false]
  exact rounds_ofRatio _
    (Nat.mul_pos left.denominator_pos right.denominator_pos)

theorem rounds_divide (leftAmount : left.IsAmount)
    (rightAmount : right.IsAmount) (nonzero : 0 < right.size) :
    Rounds (left.size / right.size) (left.divide right) := by
  have quotient : left.size / right.size =
      ((left.ratio.1 * right.ratio.2 : Nat) : Rat) /
        (left.ratio.2 * right.ratio.1 : Nat) := by
    rw [size, size, div_div_div_eq]
    push_cast
    rfl
  have notZero : right.isZero = false := by
    rw [← Bool.not_eq_true, isZero_iff]
    exact nonzero.ne'
  have numeratorPos : 0 < right.ratio.1 := by
    by_contra zero
    rw [size, Nat.eq_zero_of_not_pos zero, Nat.cast_zero, zero_div]
      at nonzero
    exact lt_irrefl _ nonzero
  rw [quotient, divide]
  simp only [leftAmount.isExtent.isNaN, rightAmount.isExtent.isNaN,
    leftAmount.isFinite, rightAmount.isFinite, notZero,
    leftAmount.isExtent.isNegative, rightAmount.isExtent.isNegative,
    bne_self_eq_false, Bool.or_self, Bool.not_true, Bool.false_eq_true,
    if_false]
  exact rounds_ofRatio _ (Nat.mul_pos left.denominator_pos numeratorPos)

theorem rounds_ofInt (count : Nat) : Rounds count (ofInt count) := by
  have positive : decide ((count : Int) < 0) = false :=
    decide_eq_false (by omega)
  have rounds := rounds_ofRatio count one_pos
  rw [Nat.cast_one, div_one] at rounds
  rw [ofInt, positive, Int.natAbs_natCast]
  exact rounds

/-! ### Whole numbers -/

theorem isAmount_ofInt {count : Nat} (short : count < 2 ^ 53) :
    (ofInt count).IsAmount := by
  have below : (count : Rat) ≤ (2 ^ 53 : Nat) := by
    exact_mod_cast short.le
  have limit : (ofInt (2 ^ 53 : Nat)).bits.toNat < topBits := by
    decide +kernel
  exact ((rounds_ofInt count).mono (rounds_ofInt (2 ^ 53)) below).trans_lt
    limit

/-- Whole numbers with fifty-three digits are counted exactly. -/
theorem size_ofInt {count : Nat} (short : count < 2 ^ 53) :
    (ofInt count).size = count :=
  (rounds_ofInt count).size_natCast (isAmount_ofInt short) short

/-! ### What may be infinite -/

theorem isExtent_add (leftExtent : left.IsExtent)
    (rightExtent : right.IsExtent) : (left.add right).IsExtent := by
  by_cases leftAmount : left.IsAmount
  · by_cases rightAmount : right.IsAmount
    · exact (rounds_add leftAmount rightAmount).isExtent
    · have infinite := mt rightExtent.isFinite_iff.mp rightAmount
      rw [add]
      simp only [leftExtent.isNaN, rightExtent.isNaN, leftAmount.isFinite,
        infinite, Bool.or_self, Bool.not_true, Bool.not_false,
        Bool.false_eq_true, if_false, if_true]
      exact rightExtent
  · have infinite := mt leftExtent.isFinite_iff.mp leftAmount
    rw [add]
    simp only [leftExtent.isNaN, rightExtent.isNaN, infinite,
      leftExtent.isNegative, rightExtent.isNegative, bne_self_eq_false,
      Bool.and_false, Bool.or_self, Bool.not_false, Bool.false_eq_true,
      if_false, if_true]
    exact leftExtent

theorem isExtent_multiply (leftExtent : left.IsExtent)
    (rightAmount : right.IsAmount) (nonzero : 0 < right.size) :
    (left.multiply right).IsExtent := by
  by_cases leftAmount : left.IsAmount
  · exact (rounds_multiply leftAmount rightAmount).isExtent
  · obtain rfl := leftExtent.eq_infinity leftAmount
    have rightNotZero : right.isZero = false := by
      rw [← Bool.not_eq_true, isZero_iff]
      exact nonzero.ne'
    have infinite : infinity.isFinite = false := by decide
    have notZero : infinity.isZero = false := by decide
    rw [multiply]
    simp only [leftExtent.isNaN, rightAmount.isExtent.isNaN, infinite,
      notZero, rightNotZero, leftExtent.isNegative,
      rightAmount.isExtent.isNegative, bne_self_eq_false, Bool.or_self,
      Bool.not_false, Bool.true_or, Bool.false_eq_true, if_false, if_true]
    exact le_of_eq (by decide)

theorem isExtent_ofNanoseconds (time : Nat) :
    (ofNanoseconds time).IsExtent := by
  have rest : time % nanosecond < 2 ^ 53 :=
    (Nat.mod_lt time (by decide)).trans (by decide)
  have unit : nanosecond < 2 ^ 53 := by decide
  have divisor : 0 < (ofInt nanosecond).size := by
    rw [size_ofInt unit]
    decide
  exact isExtent_add (rounds_ofInt _).isExtent
    (rounds_divide (isAmount_ofInt rest) (isAmount_ofInt unit)
      divisor).isExtent

end Operations

/-! ## What a clock can measure -/

/-- The number `2 ^ 64`. -/
def clockLimit : Binary64 := ⟨0x43F0000000000000⟩

theorem isAmount_clockLimit : clockLimit.IsAmount :=
  (by decide : clockLimit.bits.toNat < topBits)

theorem size_clockLimit : clockLimit.size = 2 ^ 64 := by
  decide +kernel

theorem measure_isSome_iff {number : Binary64} (extent : number.IsExtent) :
    (measure number).isSome = true ↔
      number.bits.toNat < clockLimit.bits.toNat := by
  by_cases amount : number.IsAmount
  · rw [← not_le, isAmount_clockLimit.bits_le_iff amount, size_clockLimit,
      not_le, measure]
    by_cases zero : number.isZero = true
    · rw [if_pos zero, (isZero_iff number).mp zero]
      simp
    · have denominator : (0 : Rat) < number.ratio.2 := by
        exact_mod_cast number.denominator_pos
      have short : ¬ UInt64.size * number.ratio.2 ≤ number.ratio.1 ↔
          number.size < 2 ^ 64 := by
        rw [size, div_lt_iff₀ denominator, not_le]
        exact_mod_cast Iff.rfl
      rw [if_neg zero, extent.isNegative, amount.isFinite,
        Bool.not_true, Bool.or_self, if_neg Bool.false_ne_true,
        nanoseconds?, ← short]
      by_cases long :
          UInt64.size * number.ratio.2 ≤ number.ratio.1
      · simp [long]
      · simp [long]
  · obtain rfl := extent.eq_infinity amount
    decide

/--
A value is measured if it is less than half a step below the limit, from
where on it is rounded to the limit.
-/
theorem Rounds.measure_isSome_iff {value : Rat} {number : Binary64}
    (rounds : Rounds value number) :
    (measure number).isSome = true ↔ value < 2 ^ 64 - 2 ^ 10 := by
  rw [Binary64.measure_isSome_iff rounds.isExtent]
  constructor
  · intro short
    by_contra long
    have halfway := rounds_ofRatio (2 ^ 64 - 2 ^ 10) one_pos
    have limit : ofRatio false (2 ^ 64 - 2 ^ 10) 1 = clockLimit := by
      decide +kernel
    rw [limit] at halfway
    have bits := halfway.mono rounds (by push_cast; linarith)
    omega
  · intro short
    rcases rounds with ⟨place, rounded, last, nearest, bits⟩
    have bounds := bounds_of_isNearest last nearest
    have limit : clockLimit.bits.toNat = 1087 * 2 ^ 52 := by decide
    have least := last.least
    have places : place ≤ 11 := by
      by_contra above
      have scale : (2 : Rat) ^ (12 : Int) ≤ 2 ^ place :=
        two_zpow_le (by omega)
      have wide := last.wide.resolve_left (by omega)
      norm_num at scale wide short
      linarith
    rw [bits, limit, topBits, bitsAt]
    rcases places.eq_or_lt with rfl | lower
    · have narrow : (rounded : Rat) < (2 ^ 53 : Nat) := by
        have above := nearest.above
        have ratio : value / 2 ^ (11 : Int) < 2 ^ 53 - 1 / 2 := by
          rw [div_lt_iff₀ (two_zpow_pos 11)]
          norm_num at short ⊢
          linarith
        push_cast
        linarith
      have fewer : rounded < 2 ^ 53 := by exact_mod_cast narrow
      omega
    · omega

end Gatehouse.Decimal.Binary64
