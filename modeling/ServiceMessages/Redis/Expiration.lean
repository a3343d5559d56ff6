import ServiceMessages.Common.Numbers

/-!
# Expiration arguments

A write with an expiration sends a number of seconds as the text the language
prints for it.  The server takes the text if it is a plain decimal integer in
the range of its clock.
-/

namespace ServiceMessages.Redis

def maxTime : ℕ := 2 ^ 63 - 1

def plainDecimal? (text : List Char) : Option ℕ :=
  let value := Nat.ofDigitChars 10 text 0
  if Nat.toDigits 10 value = text then some value else none

/-- The seconds until an entry expires that is written at the time `now` with
this argument, if the server accepts it. -/
def expiration? (now : ℕ) (argument : List Char) : Option ℕ :=
  match plainDecimal? argument with
  | some seconds => if 1 ≤ seconds ∧ seconds * 1000 + now ≤ maxTime then some seconds else none
  | none => none

theorem plainDecimal?_eq_some_iff {text : List Char} {integer : ℕ} :
    plainDecimal? text = some integer ↔ text = Nat.toDigits 10 integer := by
  simp only [plainDecimal?]
  constructor
  · intro plain
    split at plain
    · rename_i digits
      cases plain
      exact digits.symm
    · cases plain
  · rintro rfl
    rw [Nat.ofDigitChars_ten_toDigits, if_pos rfl]

theorem expiration?_eq_some_iff {now : ℕ} {argument : List Char} {seconds : ℕ} :
    expiration? now argument = some seconds ↔
      argument = Nat.toDigits 10 seconds ∧ 1 ≤ seconds ∧ seconds * 1000 + now ≤ maxTime := by
  rw [← plainDecimal?_eq_some_iff]
  unfold expiration?
  cases plainDecimal? argument with
  | none => simp
  | some integer =>
      by_cases usable : 1 ≤ integer ∧ integer * 1000 + now ≤ maxTime
      · simp only [usable, and_self, if_true, Option.some.injEq]
        constructor
        · rintro rfl
          exact ⟨rfl, usable⟩
        · exact And.left
      · simp only [usable, if_false, reduceCtorEq, Option.some.injEq, false_iff]
        rintro ⟨rfl, within⟩
        exact usable within

/-- A decimal without a fraction is printed with its digits as long as there
are at most 21 of them, and with an exponent from there on. -/
theorem decimalText_eq_toDigits_iff {decimal : ℕ} (positive : 0 < decimal) (places integer : ℕ) :
    decimalText ⟨decimal, places⟩ = Nat.toDigits 10 integer ↔
      decimal * 10 ^ places = integer ∧ decimal * 10 ^ places < 10 ^ 21 := by
  have digits := Numeric.toDigits_mul_ten_pow positive places
  have length : (Nat.toDigits 10 (decimal * 10 ^ places)).length =
      (Nat.toDigits 10 decimal).length + places := by
    rw [digits]
    simp
  have short : (Nat.toDigits 10 decimal).length + (places : ℤ) ≤ 21 ↔
      decimal * 10 ^ places < 10 ^ 21 := by
    rw [← Nat.length_toDigits_le_iff (by decide) (by decide), length]
    omega
  simp only [decimalText]
  by_cases printed : decimal * 10 ^ places < 10 ^ 21
  · rw [if_pos ⟨Int.natCast_nonneg places, short.mpr printed⟩, Int.toNat_natCast, ← digits]
    constructor
    · intro same
      have values := congrArg (fun text => Nat.ofDigitChars 10 text 0) same
      simp only [Nat.ofDigitChars_ten_toDigits] at values
      exact ⟨values, printed⟩
    · rintro ⟨rfl, _⟩
      rfl
  · have long := mt short.mp printed
    rw [if_neg (fun both => long both.2), if_neg (fun both => long both.2),
      if_neg (fun both => long (both.2.trans (by decide)))]
    refine iff_of_false (fun same => ?_) (fun both => printed both.2)
    have marked : 'e' ∈ Nat.toDigits 10 integer := by
      rw [← same]
      exact List.mem_append_right _ List.mem_cons_self
    have isDigit := Nat.isDigit_of_mem_toDigits (by decide) (by decide) marked
    exact absurd isDigit (by decide)

/-- A number of seconds in range is rounded to one below `2 ^ 54`, where even
numbers are exact. -/
theorem round_lt_of_within {now seconds : ℕ} (positive : 0 < seconds)
    (within : seconds * 1000 + now ≤ maxTime) {integer : ℕ}
    (rounded : binary64.round seconds = integer) : integer < 2 ^ 54 := by
  have half : 2 ^ 53 - 1 < 2 ^ 53 := by norm_num
  have exact := round_natCast half 1
  have below : seconds ≤ (2 ^ 53 - 1) * 2 ^ 1 := by
    unfold maxTime at within
    omega
  have ordered := round_natCast_mono positive below
  rw [rounded, exact] at ordered
  have bound : integer ≤ (2 ^ 53 - 1) * 2 ^ 1 := by exact_mod_cast ordered
  omega

theorem expiration?_finiteText {integer : ℕ} (kept : binary64.round integer = integer) (now : ℕ) :
    expiration? now (finiteText integer) =
      if 1 ≤ integer ∧ integer * 1000 + now ≤ maxTime then some integer else none := by
  rcases Nat.eq_zero_or_pos integer with rfl | positive
  · have zero : plainDecimal? ['0'] = some 0 := by decide
    simp [finiteText, expiration?, zero]
  · obtain ⟨decimal, places, nonzero, printed, rounded, same⟩ := finiteText_natCast kept positive
    rw [printed]
    by_cases usable : 1 ≤ integer ∧ integer * 1000 + now ≤ maxTime
    · have bound : integer < 2 ^ 54 := by
        unfold maxTime at usable
        omega
      rw [if_pos usable, expiration?_eq_some_iff, decimalText_eq_toDigits_iff nonzero]
      exact ⟨⟨same bound, by rw [same bound]; omega⟩, usable⟩
    · rw [if_neg usable, Option.eq_none_iff_forall_ne_some]
      intro seconds accepted
      rw [expiration?_eq_some_iff, decimalText_eq_toDigits_iff nonzero] at accepted
      obtain ⟨⟨here, _⟩, least, within⟩ := accepted
      rw [here] at rounded same
      have bound := round_lt_of_within (Nat.pos_of_ne_zero (by omega)) within rounded
      rw [same bound] at least within
      exact usable ⟨least, within⟩

end ServiceMessages.Redis
