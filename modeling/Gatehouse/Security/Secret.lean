import Gatehouse.Text.Octets

/-!
# Comparing secrets

Secrets are compared octet by octet to their end, so that the time it takes
does not tell where they begin to differ.  Main statement: the comparison is
equality.
-/

namespace Gatehouse.Security

open Gatehouse.Text

/-- The bits in which two lists of octets differ, gathered into one octet. -/
def difference (left right : Octets) : UInt8 :=
  (left.zip right).foldl (fun bits pair => bits ||| (pair.1 ^^^ pair.2)) 0

/-- Whether two secrets are the same. -/
def sameSecret (left right : Octets) : Bool :=
  left.length == right.length && difference left right == 0

theorem foldl_difference_eq_zero_iff {left right : Octets}
    (sameLength : left.length = right.length) (bits : UInt8) :
    (left.zip right).foldl (fun bits pair => bits ||| (pair.1 ^^^ pair.2)) bits
        = 0 ↔
      bits = 0 ∧ left = right := by
  induction left generalizing right bits with
  | nil =>
    cases right with
    | nil => simp
    | cons _ _ => simp at sameLength
  | cons first lefts ih =>
    cases right with
    | nil => simp at sameLength
    | cons second rights =>
      simp only [List.length_cons, Nat.add_right_cancel_iff] at sameLength
      simp [ih sameLength, UInt8.or_eq_zero_iff, and_assoc]

/-- Two secrets are the same exactly if they are equal. -/
theorem sameSecret_iff_eq {left right : Octets} :
    sameSecret left right = true ↔ left = right := by
  constructor
  · intro same
    simp only [sameSecret, difference, Bool.and_eq_true, beq_iff_eq] at same
    exact ((foldl_difference_eq_zero_iff same.1 0).1 same.2).2
  · rintro rfl
    simp only [sameSecret, difference, Bool.and_eq_true, beq_iff_eq, true_and]
    exact (foldl_difference_eq_zero_iff rfl 0).2 ⟨rfl, rfl⟩

end Gatehouse.Security
