import Gatehouse.Decimal.Arithmetic
import Mathlib.Algebra.Order.Field.Power
import Mathlib.Algebra.Order.Field.Rat
import Mathlib.Tactic.FieldSimp
import Mathlib.Tactic.Linarith
import Mathlib.Tactic.NormNum
import Mathlib.Tactic.Positivity
import Mathlib.Tactic.Ring

/-!
# Rounding to binary floating-point numbers

A fraction that is not negative is rounded in two steps: the place of its
last digit is chosen, and the multiple of that place is taken that is nearest.
The bits of the result grow with the fraction, and a number that is rounded
again does not change.  Everything else about rounded arithmetic follows from
these two facts.
-/

namespace Gatehouse.Decimal

/-! ## The nearest whole number -/

/-- No whole number is nearer to a value, and of two as near the even one. -/
structure IsNearest (value : Rat) (rounded : Nat) : Prop where
  below : value ≤ rounded + 1 / 2
  above : (rounded : Rat) ≤ value + 1 / 2
  even_of_below : value = rounded + 1 / 2 → rounded % 2 = 0
  even_of_above : (rounded : Rat) = value + 1 / 2 → rounded % 2 = 0

namespace IsNearest

variable {value other : Rat} {rounded nearest : Nat}

theorem natCast (count : Nat) : IsNearest count count where
  below := by linarith
  above := by linarith
  even_of_below := by
    intro halfway
    linarith
  even_of_above := by
    intro halfway
    linarith

/-- Rounding keeps the order. -/
theorem mono (first : IsNearest value rounded)
    (second : IsNearest other nearest) (ordered : value ≤ other) :
    rounded ≤ nearest := by
  by_contra inverted
  have apart : nearest + 1 ≤ rounded := not_le.mp inverted
  have gap : (nearest : Rat) + 1 ≤ rounded := by exact_mod_cast apart
  -- The two values are then one, halfway between two even neighbours.
  have up : (rounded : Rat) = value + 1 / 2 := by
    linarith [first.above, second.below]
  have down : other = nearest + 1 / 2 := by
    linarith [first.above, second.below]
  have neighbours : rounded = nearest + 1 := by
    have same : (rounded : Rat) = nearest + 1 := by linarith
    exact_mod_cast same
  have evenAbove := first.even_of_above up
  have evenBelow := second.even_of_below down
  omega

theorem unique (first : IsNearest value rounded)
    (second : IsNearest value nearest) : rounded = nearest :=
  le_antisymm (first.mono second le_rfl) (second.mono first le_rfl)

/-- Twice the fractional part decides where a ratio is rounded to. -/
theorem divideToNearest (numerator : Nat) {denominator : Nat}
    (positive : 0 < denominator) :
    IsNearest ((numerator : Rat) / denominator)
      (Binary64.divideToNearest numerator denominator) := by
  have exact : (0 : Rat) < denominator := by exact_mod_cast positive
  have parts : (numerator : Rat) =
      denominator * (numerator / denominator : Nat) +
        (numerator % denominator : Nat) := by
    exact_mod_cast (Nat.div_add_mod numerator denominator).symm
  have value : (numerator : Rat) / denominator =
      (numerator / denominator : Nat) +
        (numerator % denominator : Nat) / denominator := by
    rw [parts]
    field_simp
  have rest := Nat.mod_lt numerator positive
  rw [value, Binary64.divideToNearest]
  generalize numerator / denominator = quotient
  generalize numerator % denominator = remainder at rest
  have low : (0 : Rat) ≤ (remainder : Rat) / denominator := by positivity
  have high : (remainder : Rat) / denominator < 1 := by
    rw [div_lt_one exact]
    exact_mod_cast rest
  have belowHalf : 2 * remainder < denominator ↔
      (remainder : Rat) / denominator < 1 / 2 := by
    rw [div_lt_div_iff₀ exact two_pos]
    exact_mod_cast (by omega : 2 * remainder < denominator ↔
      remainder * 2 < 1 * denominator)
  have aboveHalf : denominator < 2 * remainder ↔
      1 / 2 < (remainder : Rat) / denominator := by
    rw [div_lt_div_iff₀ two_pos exact]
    exact_mod_cast (by omega : denominator < 2 * remainder ↔
      1 * denominator < remainder * 2)
  generalize (remainder : Rat) / denominator = part at *
  split
  case isTrue small =>
    have less := belowHalf.mp small
    exact ⟨by linarith, by linarith, fun _ => by linarith,
      fun _ => by linarith⟩
  case isFalse notSmall =>
    split
    case isTrue large =>
      have more := aboveHalf.mp large
      exact ⟨by push_cast; linarith, by push_cast; linarith,
        fun halfway => by push_cast at halfway; linarith,
        fun halfway => by push_cast at halfway; linarith⟩
    case isFalse notLarge =>
      -- Halfway between two whole numbers, the even one is taken.
      have half : part = 1 / 2 :=
        le_antisymm (not_lt.mp (mt aboveHalf.mpr notLarge))
          (not_lt.mp (mt belowHalf.mpr notSmall))
      split
      case isTrue even =>
        exact ⟨by linarith, by linarith, fun _ => even, fun _ => even⟩
      case isFalse odd =>
        have even : (quotient + 1) % 2 = 0 := by omega
        exact ⟨by push_cast; linarith, by push_cast; linarith,
          fun _ => even, fun _ => even⟩

end IsNearest

/-! ## The place of the last digit -/

theorem two_zpow_of_nonneg {place : Int} (nonneg : 0 ≤ place) :
    (2 : Rat) ^ place = ((2 ^ place.toNat : Nat) : Rat) := by
  obtain ⟨power, rfl⟩ := Int.eq_ofNat_of_zero_le nonneg
  rw [zpow_natCast, Int.toNat_natCast]
  push_cast
  rfl

theorem two_zpow_of_nonpos {place : Int} (nonpos : place ≤ 0) :
    (2 : Rat) ^ place = 1 / ((2 ^ (-place).toNat : Nat) : Rat) := by
  have flipped := two_zpow_of_nonneg (neg_nonneg.mpr nonpos)
  rw [← flipped, zpow_neg, one_div, inv_inv]

theorem two_zpow_pos (place : Int) : (0 : Rat) < 2 ^ place :=
  zpow_pos two_pos place

theorem two_zpow_succ (place : Int) :
    (2 : Rat) ^ (place + 1) = 2 * 2 ^ place := by
  rw [zpow_add_one₀ two_ne_zero, mul_comm]

theorem two_zpow_le {place other : Int} (ordered : place ≤ other) :
    (2 : Rat) ^ place ≤ 2 ^ other :=
  zpow_le_zpow_right₀ one_le_two ordered

/--
From this place up, fifty-three digits hold a value, and the first of them is
needed unless no lower place exists.
-/
structure IsLastPlace (value : Rat) (place : Int) : Prop where
  least : -1074 ≤ place
  narrow : value < 2 ^ 53 * 2 ^ place
  wide : place = -1074 ∨ 2 ^ 52 * 2 ^ place ≤ value

namespace IsLastPlace

variable {value other : Rat} {place higher : Int}

theorem mono (first : IsLastPlace value place)
    (second : IsLastPlace other higher) (ordered : value ≤ other) :
    place ≤ higher := by
  by_contra inverted
  have below : higher + 1 ≤ place := not_le.mp inverted
  rcases first.wide with lowest | wide
  · have least := second.least
    omega
  · have step := two_zpow_le below
    rw [two_zpow_succ] at step
    linarith [second.narrow]

theorem unique (first : IsLastPlace value place)
    (second : IsLastPlace value higher) : place = higher :=
  le_antisymm (first.mono second le_rfl) (second.mono first le_rfl)

end IsLastPlace

namespace Binary64

theorem lt_scaled_iff (numerator : Nat) {denominator : Nat}
    (positive : 0 < denominator) (guess : Int) :
    (if 0 ≤ guess then
        decide (numerator <
          Nat.pow 2 52 * (denominator * Nat.pow 2 guess.toNat))
      else
        decide (numerator * Nat.pow 2 (-guess).toNat <
          Nat.pow 2 52 * denominator)) = true ↔
      (numerator : Rat) / denominator < 2 ^ 52 * 2 ^ guess := by
  have exact : (0 : Rat) < denominator := by exact_mod_cast positive
  simp only [Nat.pow_eq]
  rw [div_lt_iff₀ exact]
  split
  case isTrue nonneg =>
    rw [decide_eq_true_iff, two_zpow_of_nonneg nonneg]
    rw [mul_assoc, mul_comm (_ : Rat) (denominator : Rat)]
    exact_mod_cast Iff.rfl
  case isFalse negative =>
    have scale : (0 : Rat) < ((2 ^ (-guess).toNat : Nat) : Rat) := by
      positivity
    rw [decide_eq_true_iff, two_zpow_of_nonpos (not_le.mp negative).le]
    rw [mul_one_div, div_mul_eq_mul_div, lt_div_iff₀ scale]
    exact_mod_cast Iff.rfl

/-- The place that is chosen for a ratio is the last one it needs. -/
theorem isLastPlace_lastPlace {numerator denominator : Nat}
    (nonzero : 0 < numerator) (positive : 0 < denominator) :
    IsLastPlace ((numerator : Rat) / denominator)
      (lastPlace numerator denominator) := by
  have exact : (0 : Rat) < denominator := by exact_mod_cast positive
  have tooLarge := lt_scaled_iff numerator positive
    ((numerator.log2 : Int) - denominator.log2 - 52)
  rw [lastPlace]
  -- The leading digits of both numbers tell the place, or the next one.
  have digits : (2 : Rat) ^ 52 *
      2 ^ ((numerator.log2 : Int) - denominator.log2 - 52) *
        2 ^ denominator.log2 = 2 ^ numerator.log2 := by
    rw [← zpow_natCast, ← zpow_natCast, ← zpow_natCast,
      ← zpow_add₀ two_ne_zero, ← zpow_add₀ two_ne_zero]
    congr 1
    omega
  generalize (numerator.log2 : Int) - denominator.log2 - 52 = guess at *
  have numeratorLow : (2 : Rat) ^ numerator.log2 ≤ numerator := by
    exact_mod_cast Nat.log2_self_le nonzero.ne'
  have numeratorHigh : (numerator : Rat) < 2 ^ numerator.log2 * 2 := by
    exact_mod_cast Nat.lt_log2_self
  have denominatorLow : (2 : Rat) ^ denominator.log2 ≤ denominator := by
    exact_mod_cast Nat.log2_self_le positive.ne'
  have denominatorHigh :
      (denominator : Rat) < 2 ^ denominator.log2 * 2 := by
    exact_mod_cast Nat.lt_log2_self
  have scale := two_zpow_pos guess
  have upper : (numerator : Rat) / denominator <
      2 ^ 53 * 2 ^ guess := by
    rw [div_lt_iff₀ exact]
    nlinarith
  have lower : (2 : Rat) ^ 51 * 2 ^ guess ≤
      (numerator : Rat) / denominator := by
    rw [le_div_iff₀ exact]
    nlinarith
  generalize (numerator : Rat) / denominator = value at *
  have chosen : ∀ raw : Int, value < 2 ^ 53 * 2 ^ raw →
      2 ^ 52 * 2 ^ raw ≤ value → IsLastPlace value (max (-1074) raw) := by
    intro raw narrow wide
    rcases le_total (-1074) raw with above | below
    · rw [max_eq_right above]
      exact ⟨above, narrow, .inr wide⟩
    · rw [max_eq_left below]
      exact ⟨le_rfl, narrow.trans_le (by gcongr; norm_num), .inl rfl⟩
  by_cases small : value < 2 ^ 52 * 2 ^ guess
  · rw [if_pos (tooLarge.mpr small)]
    have half := two_zpow_succ (guess - 1)
    rw [sub_add_cancel] at half
    exact chosen (guess - 1) (by linarith) (by linarith)
  · rw [if_neg (mt tooLarge.mp small)]
    exact chosen guess upper (not_lt.mp small)

theorem isNearest_scaled (numerator : Nat) {denominator : Nat}
    (positive : 0 < denominator) (place : Int) :
    IsNearest ((numerator : Rat) / denominator / 2 ^ place)
      (if 0 ≤ place then
        divideToNearest numerator (denominator * Nat.pow 2 place.toNat)
      else
        divideToNearest (numerator * Nat.pow 2 (-place).toNat)
          denominator) := by
  simp only [Nat.pow_eq]
  split
  case isTrue nonneg =>
    have nearest := IsNearest.divideToNearest numerator
      (Nat.mul_pos positive (Nat.two_pow_pos place.toNat))
    rw [Nat.cast_mul, ← two_zpow_of_nonneg nonneg, ← div_div] at nearest
    exact nearest
  case isFalse negative =>
    have nearest := IsNearest.divideToNearest
      (numerator * 2 ^ (-place).toNat) positive
    have flipped := two_zpow_of_nonpos (not_le.mp negative).le
    rw [Nat.cast_mul, mul_div_right_comm] at nearest
    rw [flipped, div_div_eq_mul_div, div_one]
    exact nearest

/-! ## The bits of what is rounded -/

/-- The bits of the positive infinity, as a number. -/
def topBits : Nat := 2047 * 2 ^ 52

theorem toNat_bits_infinity : infinity.bits.toNat = topBits := rfl

/-- The bits of a multiple of the last place that it needs. -/
def bitsAt (place : Int) (rounded : Nat) : Nat :=
  (place + 1074).toNat * 2 ^ 52 + rounded

/--
A number stands for a value as well as a number can: for the multiple of the
last place that is nearest, or for infinity if that is too large.
-/
def Rounds (value : Rat) (number : Binary64) : Prop :=
  ∃ place rounded, IsLastPlace value place ∧
    IsNearest (value / 2 ^ place) rounded ∧
    number.bits.toNat = min topBits (bitsAt place rounded)

theorem toNat_bits_withSign (number : Binary64) :
    (number.withSign false).bits.toNat = number.bits.toNat % 2 ^ 63 := by
  rw [withSign]
  simp only [Bool.false_eq_true, if_false, Nat.pow_eq]
  exact Nat.mod_eq_of_lt (by omega)

/-- The multiple of the last place has fifty-three digits, or is a power. -/
theorem bounds_of_isNearest {value : Rat} {place : Int} {rounded : Nat}
    (last : IsLastPlace value place)
    (nearest : IsNearest (value / 2 ^ place) rounded) :
    rounded ≤ 2 ^ 53 ∧ (place = -1074 ∨ 2 ^ 52 ≤ rounded) := by
  have scale := two_zpow_pos place
  constructor
  · apply nearest.mono (.natCast (2 ^ 53))
    rw [div_le_iff₀ scale]
    exact_mod_cast last.narrow.le
  · refine last.wide.imp_right fun wide => ?_
    apply IsNearest.mono (.natCast (2 ^ 52)) nearest
    rw [le_div_iff₀ scale]
    exact_mod_cast wide

theorem rounds_ofRatio (numerator : Nat) {denominator : Nat}
    (positive : 0 < denominator) :
    Rounds ((numerator : Rat) / denominator)
      (ofRatio false numerator denominator) := by
  rcases Nat.eq_zero_or_pos numerator with rfl | nonzero
  · refine ⟨-1074, 0, ⟨le_rfl, ?_, .inl rfl⟩, ?_, rfl⟩
    · rw [Nat.cast_zero, zero_div]
      positivity
    · rw [Nat.cast_zero, zero_div, zero_div]
      exact .natCast 0
  · have last := isLastPlace_lastPlace nonzero positive
    have nearest := isNearest_scaled numerator positive
      (lastPlace numerator denominator)
    refine ⟨_, _, last, nearest, ?_⟩
    rw [ofRatio, if_neg nonzero.ne']
    dsimp only
    have bounds := bounds_of_isNearest last nearest
    have least := last.least
    generalize lastPlace numerator denominator = place at *
    generalize (if 0 ≤ place then
        divideToNearest numerator (denominator * Nat.pow 2 place.toNat)
      else
        divideToNearest (numerator * Nat.pow 2 (-place).toNat)
          denominator) = rounded at *
    simp only [Nat.pow_eq, beq_iff_eq]
    rw [bitsAt]
    by_cases carried : rounded = 2 ^ 53
    · rw [if_pos carried, if_pos carried, if_neg (lt_irrefl _)]
      split
      · rw [toNat_bits_withSign, toNat_bits_infinity, topBits]
        omega
      · rw [toNat_bits_withSign, UInt64.toNat_ofNat', topBits]
        omega
    · rw [if_neg carried, if_neg carried]
      split
      · rw [toNat_bits_withSign, toNat_bits_infinity, topBits]
        omega
      · split
        · rw [toNat_bits_withSign, UInt64.toNat_ofNat', topBits]
          omega
        · rw [toNat_bits_withSign, UInt64.toNat_ofNat', topBits]
          omega

/-- A larger value has the larger bits. -/
theorem Rounds.mono {value other : Rat} {number larger : Binary64}
    (first : Rounds value number) (second : Rounds other larger)
    (ordered : value ≤ other) :
    number.bits.toNat ≤ larger.bits.toNat := by
  rcases first with ⟨place, rounded, last, nearest, bits⟩
  rcases second with ⟨higher, multiple, otherLast, otherNearest, otherBits⟩
  have places := last.mono otherLast ordered
  have bounds := bounds_of_isNearest last nearest
  have otherBounds := bounds_of_isNearest otherLast otherNearest
  have least := last.least
  have grows : bitsAt place rounded ≤ bitsAt higher multiple := by
    rw [bitsAt, bitsAt]
    rcases places.eq_or_lt with rfl | lower
    · have multiples : rounded ≤ multiple := by
        apply nearest.mono otherNearest
        have scale := two_zpow_pos place
        gcongr
      omega
    · -- Above the lowest place the first digit makes up for the place.
      omega
  rw [bits, otherBits]
  exact min_le_min_left _ grows

theorem eq_of_toNat_bits {number other : Binary64}
    (same : number.bits.toNat = other.bits.toNat) : number = other := by
  cases number
  cases other
  rw [Binary64.mk.injEq]
  exact UInt64.toNat_inj.mp same

theorem Rounds.unique {value : Rat} {number other : Binary64}
    (first : Rounds value number) (second : Rounds value other) :
    number = other :=
  eq_of_toNat_bits
    (le_antisymm (first.mono second le_rfl) (second.mono first le_rfl))

theorem Rounds.le_top {value : Rat} {number : Binary64}
    (rounds : Rounds value number) : number.bits.toNat ≤ topBits := by
  rcases rounds with ⟨_, _, _, _, bits⟩
  rw [bits]
  exact min_le_left _ _

/-! ## Sizes -/

/-- How far a finite number is from zero. -/
def size (number : Binary64) : Rat :=
  (number.ratio.1 : Rat) / (number.ratio.2 : Rat)

theorem size_eq (number : Binary64) :
    number.size = number.significand * 2 ^ number.scale := by
  simp only [size, ratio, Nat.pow_eq]
  rcases le_total 0 number.scale with nonneg | nonpos
  · have whole : (-number.scale).toNat = 0 := by omega
    rw [two_zpow_of_nonneg nonneg, whole]
    push_cast
    ring
  · have whole : number.scale.toNat = 0 := by omega
    rw [two_zpow_of_nonpos nonpos, whole]
    push_cast
    ring

/-- A number that is not negative and not infinite. -/
def IsAmount (number : Binary64) : Prop :=
  number.bits.toNat < topBits

/-- The significand of an amount is the multiple that its bits stand for. -/
theorem IsAmount.digits {number : Binary64} (amount : number.IsAmount) :
    -1074 ≤ number.scale ∧ number.significand < 2 ^ 53 ∧
      (number.scale = -1074 ∨ 2 ^ 52 ≤ number.significand) ∧
      number.bits.toNat = bitsAt number.scale number.significand := by
  unfold IsAmount topBits at amount
  have field : number.exponentField = number.bits.toNat / 2 ^ 52 := by
    rw [exponentField, Nat.pow_eq, Nat.pow_eq]
    exact Nat.mod_eq_of_lt (by omega)
  have fraction : number.fractionField = number.bits.toNat % 2 ^ 52 := rfl
  rw [bitsAt, significand, scale, Nat.pow_eq]
  split <;> omega

/-- Rounding a number again does not change it. -/
theorem IsAmount.rounds {number : Binary64} (amount : number.IsAmount) :
    Rounds number.size number := by
  rcases amount.digits with ⟨least, narrow, wide, bits⟩
  have scalePos := two_zpow_pos number.scale
  rw [size_eq]
  refine ⟨number.scale, number.significand, ⟨least, ?_, ?_⟩, ?_, ?_⟩
  · apply mul_lt_mul_of_pos_right _ scalePos
    exact_mod_cast narrow
  · refine wide.imp_right fun wide => ?_
    apply mul_le_mul_of_nonneg_right _ scalePos.le
    exact_mod_cast wide
  · rw [mul_div_cancel_right₀ _ scalePos.ne']
    exact .natCast _
  · rw [← bits]
    exact (min_eq_right (le_of_lt amount)).symm

/-- What is rounded without infinity is the multiple that was chosen. -/
theorem Rounds.size_eq {value : Rat} {number : Binary64}
    (rounds : Rounds value number) (amount : number.IsAmount) :
    ∃ place rounded, IsLastPlace value place ∧
      IsNearest (value / 2 ^ place) rounded ∧
      number.size = rounded * 2 ^ place := by
  rcases rounds with ⟨place, rounded, last, nearest, bits⟩
  refine ⟨place, rounded, last, nearest, ?_⟩
  rcases amount.digits with ⟨least, narrow, wide, digits⟩
  have bounds := bounds_of_isNearest last nearest
  have lowest := last.least
  -- The bits are those of the multiple, or of the power behind the last one.
  have either : number.scale = place ∧ number.significand = rounded ∨
      number.scale = place + 1 ∧ number.significand = 2 ^ 52 ∧
        rounded = 2 ^ 53 := by
    unfold IsAmount at amount
    rw [bitsAt] at bits digits
    omega
  rw [Binary64.size_eq]
  rcases either with ⟨scale, significand⟩ | ⟨scale, significand, carried⟩
  · rw [scale, significand]
  · rw [scale, significand, carried, two_zpow_succ]
    push_cast
    ring

/-- A whole number with fifty-three digits is met exactly. -/
theorem Rounds.size_natCast {count : Nat} {number : Binary64}
    (rounds : Rounds count number) (amount : number.IsAmount)
    (short : count < 2 ^ 53) : number.size = count := by
  rcases rounds.size_eq amount with ⟨place, rounded, last, nearest, size⟩
  have scalePos := two_zpow_pos place
  have nonpos : place ≤ 0 := by
    by_contra positive
    have one : (2 : Rat) ^ (1 : Int) ≤ 2 ^ place :=
      two_zpow_le (by omega)
    have least := last.least
    have wide := last.wide.resolve_left (by omega)
    have upper : (count : Rat) < 2 ^ 53 := by exact_mod_cast short
    rw [zpow_one] at one
    linarith
  have whole : (count : Rat) / 2 ^ place =
      ((count * 2 ^ (-place).toNat : Nat) : Rat) := by
    rw [two_zpow_of_nonpos nonpos, div_div_eq_mul_div, div_one]
    push_cast
    rfl
  rw [whole] at nearest
  rw [size, nearest.unique (.natCast _), ← whole,
    div_mul_cancel₀ _ scalePos.ne']

/-- A larger amount has the larger bits, and only then. -/
theorem IsAmount.bits_le_iff {number other : Binary64}
    (amount : number.IsAmount) (otherAmount : other.IsAmount) :
    number.bits.toNat ≤ other.bits.toNat ↔ number.size ≤ other.size := by
  refine ⟨fun ordered => ?_, amount.rounds.mono otherAmount.rounds⟩
  by_contra smaller
  have inverted := not_le.mp smaller
  have bits := otherAmount.rounds.mono amount.rounds inverted.le
  have same := eq_of_toNat_bits (le_antisymm ordered bits)
  rw [same] at inverted
  exact lt_irrefl _ inverted

end Binary64

end Gatehouse.Decimal
