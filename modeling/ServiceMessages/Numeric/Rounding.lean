import Mathlib.Algebra.Order.Field.Power
import Mathlib.Data.Int.Log
import Mathlib.Data.Rat.Floor
import Mathlib.Tactic.FieldSimp
import Mathlib.Tactic.Linarith
import Mathlib.Tactic.Positivity
import Mathlib.Tactic.Ring

/-!
# Rounding to a binary format

A binary format represents the rationals `m * 2 ^ e` whose significand `m` has
at most `precision` bits and whose exponent is not below `minExponent`.  Every
rational is rounded to the nearest represented one, and to the one with the
even significand if two are equally near.  Exponents have no upper bound here.
-/

namespace Numeric

/-- The integer nearest to a rational, and the even one of two. -/
def roundHalfEven (value : ℚ) : ℤ :=
  if 2 * Int.fract value < 1 ∨ 2 * Int.fract value = 1 ∧ Even ⌊value⌋ then ⌊value⌋
  else ⌊value⌋ + 1

@[simp]
theorem roundHalfEven_intCast (integer : ℤ) : roundHalfEven integer = integer := by
  simp [roundHalfEven]

theorem roundHalfEven_mono {lower upper : ℚ} (ordered : lower ≤ upper) :
    roundHalfEven lower ≤ roundHalfEven upper := by
  have floors : ⌊lower⌋ ≤ ⌊upper⌋ := Int.floor_mono ordered
  rcases floors.lt_or_eq with separated | same
  · unfold roundHalfEven
    split <;> split <;> omega
  · -- between the same integers, the fractional parts decide
    have fractions : Int.fract lower ≤ Int.fract upper := by
      unfold Int.fract
      rw [same]
      linarith
    unfold roundHalfEven
    rw [same]
    split
    · split <;> omega
    · rename_i lowerGoesUp
      rw [if_neg]
      rintro (below | ⟨tie, even⟩)
      · exact lowerGoesUp (.inl (by linarith))
      · rcases fractions.lt_or_eq with less | equal
        · exact lowerGoesUp (.inl (by linarith))
        · exact lowerGoesUp (.inr ⟨by linarith, even⟩)

theorem roundHalfEven_le {value : ℚ} {integer : ℤ} (bound : value ≤ integer) :
    roundHalfEven value ≤ integer := by
  simpa using roundHalfEven_mono bound

theorem le_roundHalfEven {value : ℚ} {integer : ℤ} (bound : integer ≤ value) :
    integer ≤ roundHalfEven value := by
  simpa using roundHalfEven_mono bound

structure BinaryFormat where
  precision : ℕ
  minExponent : ℤ
  precision_pos : 0 < precision

namespace BinaryFormat

variable (format : BinaryFormat)

def Representable (value : ℚ) : Prop :=
  ∃ significand exponent : ℤ, |significand| < 2 ^ format.precision ∧
    format.minExponent ≤ exponent ∧ value = significand * 2 ^ exponent

def exponent (value : ℚ) : ℤ :=
  max (Int.log 2 |value| + 1 - format.precision) format.minExponent

/-- The unit in the last place. -/
def ulp (value : ℚ) : ℚ := 2 ^ format.exponent value

def round (value : ℚ) : ℚ := roundHalfEven (value / format.ulp value) * format.ulp value

variable {format}

theorem ulp_pos (value : ℚ) : 0 < format.ulp value := by
  unfold ulp
  positivity

theorem abs_lt_ulp (value : ℚ) : |value| < 2 ^ format.precision * format.ulp value := by
  have bound := Int.lt_zpow_succ_log_self (b := 2) (by norm_num) |value|
  calc |value| < 2 ^ (Int.log 2 |value| + 1) := by simpa using bound
    _ ≤ 2 ^ ((format.precision : ℤ) + format.exponent value) := by
        apply zpow_le_zpow_right₀ (by norm_num)
        unfold exponent
        omega
    _ = 2 ^ format.precision * format.ulp value := by
        rw [ulp, zpow_add₀ two_ne_zero, zpow_natCast]

theorem round_le_of_le_mul_ulp {value : ℚ} {significand : ℤ}
    (bound : value ≤ significand * format.ulp value) :
    format.round value ≤ significand * format.ulp value := by
  have scaled : value / format.ulp value ≤ significand := by
    rwa [div_le_iff₀ (ulp_pos value)]
  unfold round
  have rounded : (roundHalfEven (value / format.ulp value) : ℚ) ≤ significand := by
    exact_mod_cast roundHalfEven_le scaled
  exact mul_le_mul_of_nonneg_right rounded (ulp_pos value).le

theorem le_round_of_mul_ulp_le {value : ℚ} {significand : ℤ}
    (bound : significand * format.ulp value ≤ value) :
    significand * format.ulp value ≤ format.round value := by
  have scaled : (significand : ℚ) ≤ value / format.ulp value := by
    rwa [le_div_iff₀ (ulp_pos value)]
  unfold round
  have rounded : (significand : ℚ) ≤ roundHalfEven (value / format.ulp value) := by
    exact_mod_cast le_roundHalfEven scaled
  exact mul_le_mul_of_nonneg_right rounded (ulp_pos value).le

theorem exists_mul_ulp {value : ℚ} {place : ℤ} (below : format.exponent value ≤ place) :
    ∃ significand : ℤ, (2 : ℚ) ^ place = significand * format.ulp value := by
  obtain ⟨shift, shifted⟩ := Int.le.dest below
  refine ⟨2 ^ shift, ?_⟩
  push_cast
  rw [ulp, ← zpow_natCast, ← zpow_add₀ two_ne_zero, add_comm, shifted]

theorem Representable.eq_mul_ulp {value : ℚ} (representable : format.Representable value) :
    ∃ significand : ℤ, value = significand * format.ulp value := by
  obtain ⟨significand, exponent, bound, least, here⟩ := representable
  by_cases zero : significand = 0
  · exact ⟨0, by simp [here, zero]⟩
  · have magnitude : |value| < 2 ^ ((format.precision : ℤ) + exponent) := by
      rw [here, abs_mul, abs_of_pos (by positivity : (0 : ℚ) < 2 ^ exponent),
        zpow_add₀ two_ne_zero, zpow_natCast]
      have cast : |(significand : ℚ)| < 2 ^ format.precision := by exact_mod_cast bound
      exact mul_lt_mul_of_pos_right cast (by positivity)
    have nonzero : 0 < |value| := by
      rw [abs_pos, here]
      exact mul_ne_zero (by exact_mod_cast zero) (by positivity)
    have log : Int.log 2 |value| < format.precision + exponent :=
      (Int.lt_zpow_iff_log_lt (by norm_num) nonzero).mp (by simpa using magnitude)
    have below : format.exponent value ≤ exponent := by
      unfold BinaryFormat.exponent
      omega
    obtain ⟨units, power⟩ := exists_mul_ulp below
    refine ⟨significand * units, ?_⟩
    push_cast
    rw [mul_assoc, ← power]
    exact here

/-- Rounding leaves a represented value as it is. -/
theorem round_eq_self {value : ℚ} (representable : format.Representable value) :
    format.round value = value := by
  obtain ⟨significand, multiple⟩ := representable.eq_mul_ulp
  have above := round_le_of_le_mul_ulp multiple.le
  have below := le_round_of_mul_ulp_le multiple.ge
  rw [← multiple] at above below
  exact le_antisymm above below

theorem representable_round (value : ℚ) : format.Representable (format.round value) := by
  have magnitude : -(2 ^ format.precision * format.ulp value) < value ∧
      value < 2 ^ format.precision * format.ulp value := abs_lt.mp (abs_lt_ulp value)
  have upper : roundHalfEven (value / format.ulp value) ≤ 2 ^ format.precision := by
    apply roundHalfEven_le
    rw [div_le_iff₀ (ulp_pos value)]
    exact_mod_cast magnitude.2.le
  have lower : -2 ^ format.precision ≤ roundHalfEven (value / format.ulp value) := by
    apply le_roundHalfEven
    rw [le_div_iff₀ (ulp_pos value)]
    push_cast
    linarith [magnitude.1]
  have least : format.minExponent ≤ format.exponent value := le_max_right ..
  rcases (abs_le.mpr ⟨lower, upper⟩).lt_or_eq with inside | carried
  · exact ⟨_, format.exponent value, inside, least, rfl⟩
  · -- the significand overflowed into the next power of two
    obtain ⟨places, precision⟩ := Nat.exists_eq_succ_of_ne_zero format.precision_pos.ne'
    have halved : (0 : ℤ) < 2 ^ places := by positivity
    have even : ∃ half : ℤ, |half| < 2 ^ format.precision ∧
        roundHalfEven (value / format.ulp value) = half * 2 := by
      rw [precision] at carried ⊢
      rcases abs_eq (by positivity) |>.mp carried with positive | negative
      · refine ⟨2 ^ places, ?_, by rw [positive, pow_succ]⟩
        rw [abs_of_pos halved, pow_succ]
        omega
      · refine ⟨-2 ^ places, ?_, by rw [negative, pow_succ, neg_mul]⟩
        rw [abs_neg, abs_of_pos halved, pow_succ]
        omega
    obtain ⟨half, bound, doubled⟩ := even
    refine ⟨half, format.exponent value + 1, bound, by omega, ?_⟩
    rw [round, doubled, ulp, zpow_add_one₀ two_ne_zero]
    push_cast
    ring

@[simp]
theorem round_round (value : ℚ) : format.round (format.round value) = format.round value :=
  round_eq_self (representable_round value)

theorem exponent_mono {lower upper : ℚ} (positive : 0 < lower) (ordered : lower ≤ upper) :
    format.exponent lower ≤ format.exponent upper := by
  have logs : Int.log 2 |lower| ≤ Int.log 2 |upper| := by
    apply Int.log_mono_right (abs_pos.mpr positive.ne')
    rwa [abs_of_pos positive, abs_of_pos (positive.trans_le ordered)]
  unfold exponent
  omega

/-- Rounding keeps the order of positive values. -/
theorem round_mono {lower upper : ℚ} (positive : 0 < lower) (ordered : lower ≤ upper) :
    format.round lower ≤ format.round upper := by
  have exponents : format.exponent lower ≤ format.exponent upper := exponent_mono positive ordered
  rcases exponents.lt_or_eq with separated | same
  · -- a power of two lies between the two, and it is a multiple of both units
    have upperPositive := positive.trans_le ordered
    have precision := format.precision_pos
    have binade : format.exponent upper ≤ Int.log 2 |upper| := by
      unfold exponent at separated ⊢
      omega
    have logs : Int.log 2 |lower| < Int.log 2 |upper| := by
      unfold exponent at separated
      omega
    have above : lower ≤ 2 ^ Int.log 2 |upper| := by
      have strict := (Int.lt_zpow_iff_log_lt (by norm_num) (abs_pos.mpr positive.ne')).mpr logs
      rw [abs_of_pos positive] at strict
      simpa using strict.le
    have below : 2 ^ Int.log 2 |upper| ≤ upper := by
      have reached := Int.zpow_log_le_self (b := 2) (by norm_num) (abs_pos.mpr upperPositive.ne')
      simpa only [Nat.cast_ofNat, abs_of_pos upperPositive] using reached
    obtain ⟨lowerUnits, ofLower⟩ := exists_mul_ulp (separated.le.trans binade)
    obtain ⟨upperUnits, ofUpper⟩ := exists_mul_ulp binade
    calc format.round lower ≤ 2 ^ Int.log 2 |upper| := by
          rw [ofLower] at above ⊢
          exact round_le_of_le_mul_ulp above
      _ ≤ format.round upper := by
          rw [ofUpper] at below ⊢
          exact le_round_of_mul_ulp_le below
  · have units : format.ulp lower = format.ulp upper := by rw [ulp, ulp, same]
    unfold round
    rw [units]
    apply mul_le_mul_of_nonneg_right _ (ulp_pos upper).le
    exact_mod_cast roundHalfEven_mono (div_le_div_of_nonneg_right ordered (ulp_pos upper).le)

end BinaryFormat

end Numeric
