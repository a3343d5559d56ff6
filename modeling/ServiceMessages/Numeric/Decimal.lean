import Mathlib.Algebra.Order.Floor.Semiring
import ServiceMessages.Numeric.Rounding

/-!
# Shortest decimals

A value that a rounding keeps is the image of many decimals.  The shortest of
them has the largest power of ten, and among those with that power it is the
closest one to the value.
-/

namespace Numeric

theorem toDigits_mul_ten_pow {integer : ℕ} (positive : 0 < integer) (places : ℕ) :
    Nat.toDigits 10 (integer * 10 ^ places) =
      Nat.toDigits 10 integer ++ List.replicate places '0' := by
  induction places with
  | zero => simp
  | succ places inductionHypothesis =>
      have shifted : integer * 10 ^ (places + 1) = 10 * (integer * 10 ^ places) + 0 := by
        rw [pow_succ]
        ring
      rw [shifted, ← Nat.toDigits_append_toDigits (by decide) (by positivity) (by decide),
        inductionHypothesis, Nat.toDigits_zero, List.append_assoc, ← List.replicate_succ']

/-- A natural number scaled by a power of ten. -/
structure Decimal where
  significand : ℕ
  exponent : ℤ
deriving DecidableEq

namespace Decimal

variable (round : ℚ → ℚ)

/-- A multiple of the unit is rounded to the value. -/
def Fits (value unit : ℚ) (significand : ℕ) : Prop := round (significand * unit) = value

instance (value unit : ℚ) (significand : ℕ) : Decidable (Fits round value unit significand) :=
  inferInstanceAs (Decidable (_ = _))

/-- The multiple of the unit that is closest to the value among those that are
rounded to it, and the even one of two. -/
def closest? (value unit : ℚ) : Option ℕ :=
  let lower := ⌊value / unit⌋₊
  let distance := value / unit - lower
  if Fits round value unit lower ∧
      (2 * distance < 1 ∨ 2 * distance = 1 ∧ Even lower ∨ ¬ Fits round value unit (lower + 1)) then
    some lower
  else if Fits round value unit (lower + 1) then some (lower + 1)
  else none

/-- Try one power of ten after the other, downwards.  The value is a multiple
of the last one. -/
def search (value : ℚ) : ℕ → ℤ → Decimal
  | 0, exponent => ⟨⌊value / 10 ^ exponent⌋₊, exponent⟩
  | attempts + 1, exponent =>
      match closest? round value (10 ^ exponent) with
      | some significand => ⟨significand, exponent⟩
      | none => search value attempts (exponent - 1)

/-- The shortest decimal that is rounded to a positive value.  The value is a
binary fraction, so it is a multiple of the power of ten with the exponent of
its denominator. -/
def shortest (value : ℚ) : Decimal :=
  let top := Int.log 10 value + 1
  search round value (top + Nat.log 2 value.den).toNat top

variable {round}

theorem fits_of_closest? {value unit : ℚ} {significand : ℕ}
    (found : closest? round value unit = some significand) :
    Fits round value unit significand := by
  simp only [closest?] at found
  split at found
  · rename_i lower
    cases found
    exact lower.1
  · split at found
    · rename_i upper
      cases found
      exact upper
    · simp at found

/-- A natural number that the rounding keeps is found at the power zero at the
latest, and what is found at a higher power is rounded to it. -/
theorem search_natCast {integer : ℕ} (kept : round integer = integer) (attempts : ℕ) :
    ∃ decimal places, search round integer attempts attempts = ⟨decimal, (places : ℕ)⟩ ∧
      round (decimal * 10 ^ places : ℕ) = integer ∧ (places = 0 → decimal = integer) := by
  induction attempts with
  | zero => exact ⟨integer, 0, by simp [search], by simpa using kept, fun _ => rfl⟩
  | succ attempts inductionHypothesis =>
      unfold search
      cases found : closest? round (integer : ℚ) (10 ^ ((attempts + 1 : ℕ) : ℤ)) with
      | some significand =>
          refine ⟨significand, attempts + 1, rfl, ?_, by simp⟩
          have fits := fits_of_closest? found
          rw [Fits, zpow_natCast] at fits
          exact_mod_cast fits
      | none => simpa using inductionHypothesis

/-- The shortest decimal of a natural number that the rounding keeps is a
natural number as well.  It is rounded to the given one, and without a power of
ten it is the given one. -/
theorem shortest_natCast {integer : ℕ} (kept : round integer = integer) :
    ∃ decimal places, shortest round integer = ⟨decimal, (places : ℕ)⟩ ∧
      round (decimal * 10 ^ places : ℕ) = integer ∧ (places = 0 → decimal = integer) := by
  have top : Int.log 10 (integer : ℚ) + 1 = (Nat.log 10 integer + 1 : ℕ) := by
    push_cast
    rw [Int.log_natCast]
  have attempts : (Int.log 10 (integer : ℚ) + 1 + Nat.log 2 (integer : ℚ).den).toNat =
      Nat.log 10 integer + 1 := by
    rw [top]
    simp
  simp only [shortest]
  rw [attempts, top]
  exact search_natCast kept _

end Decimal

end Numeric
