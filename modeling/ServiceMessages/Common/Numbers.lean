import ServiceMessages.Common.Strings
import ServiceMessages.Numeric.Decimal

/-!
# Numbers of the language

A number is a binary fraction of double precision, an infinity or not a number.
This file has the conversions between texts and numbers that the language
defines, and the codec for variables that hold a natural number.
-/

namespace ServiceMessages

open Numeric

def binary64 : BinaryFormat where
  precision := 53
  minExponent := -1074
  precision_pos := by decide

/-- A finite number.  The sign of zero is left out, since a zero of either sign
is the same integer and has the same text. -/
structure FiniteNumber where
  value : ℚ
  rounded : binary64.round value = value
  bounded : |value| < 2 ^ 1024

inductive Number where
  | nan
  | infinity (negative : Bool)
  | finite (number : FiniteNumber)

namespace Number

def nearest (value : ℚ) : Number :=
  if bounded : |binary64.round value| < 2 ^ 1024 then
    .finite ⟨binary64.round value, by simp, bounded⟩
  else .infinity (decide (value < 0))

end Number

def digit? (character : Char) : Option ℕ :=
  if '0' ≤ character ∧ character ≤ '9' then some (character.toNat - '0'.toNat)
  else if 'a' ≤ character ∧ character ≤ 'f' then some (character.toNat - 'a'.toNat + 10)
  else if 'A' ≤ character ∧ character ≤ 'F' then some (character.toNat - 'A'.toNat + 10)
  else none

def appendDigit? (radix value : ℕ) (character : Char) : Option ℕ :=
  match digit? character with
  | some digit => if digit < radix then some (radix * value + digit) else none
  | none => none

def digits? (radix : ℕ) : List Char → Option ℕ
  | [] => none
  | text => text.foldlM (appendDigit? radix) 0

def nonDecimalIntegerLiteral? : List Char → Option ℕ
  | '0' :: marker :: digits =>
      if marker = 'b' ∨ marker = 'B' then digits? 2 digits
      else if marker = 'o' ∨ marker = 'O' then digits? 8 digits
      else if marker = 'x' ∨ marker = 'X' then digits? 16 digits
      else none
  | _ => none

def signed (text : List Char) : Bool × List Char :=
  match text with
  | '-' :: rest => (true, rest)
  | '+' :: rest => (false, rest)
  | rest => (false, rest)

def withSign (negative : Bool) (magnitude : ℚ) : ℚ := if negative then -magnitude else magnitude

/-- The power of ten after the marker of an exponent. -/
def exponentPart? : List Char → Option ℤ
  | [] => some 0
  | _ :: exponent =>
      let (negative, digits) := signed exponent
      (digits? 10 digits).map fun magnitude => if negative then -(magnitude : ℤ) else magnitude

/-- Digits with a point among them, and an exponent.  The digits before the
point may be missing, and so may those after it, but not both. -/
def decimalLiteral? (text : List Char) : Option ℚ :=
  let (digits, exponent) := text.span fun character => character ≠ 'e' ∧ character ≠ 'E'
  let (whole, point) := digits.span fun character => character ≠ '.'
  let fraction := point.drop 1
  match digits? 10 (whole ++ fraction), exponentPart? exponent with
  | some significand, some exponent => some (significand * 10 ^ (exponent - fraction.length))
  | _, _ => none

def strDecimalLiteral (text : List Char) : Number :=
  let (negative, unsigned) := signed text
  if unsigned = "Infinity".toList then .infinity negative
  else match decimalLiteral? unsigned with
    | some magnitude => .nearest (withSign negative magnitude)
    | none => .nan

def stringToNumber (text : String) : Number :=
  match Text.trim isWhiteSpace text.toList with
  | [] => .nearest 0
  | literal =>
      match nonDecimalIntegerLiteral? literal with
      | some integer => .nearest integer
      | none => strDecimalLiteral literal

def parseInt (text : String) : Number :=
  let (negative, unsigned) := signed (text.toList.dropWhile isWhiteSpace)
  match digits? 10 (unsigned.takeWhile fun character => '0' ≤ character ∧ character ≤ '9') with
  | some magnitude => .nearest (withSign negative magnitude)
  | none => .nan

/-- Accepts the texts that stand for an integer which is not negative. -/
def nonNegativeIntegerFromString (text : String) : Option ℕ :=
  match stringToNumber text with
  | .finite number =>
      if number.value.den = 1 ∧ 0 ≤ number.value then some number.value.num.toNat else none
  | _ => none

/-- The digits of a decimal with the point where it belongs.  Large and small
values are written with an exponent. -/
def decimalText (decimal : Decimal) : List Char :=
  let digits := Nat.toDigits 10 decimal.significand
  let point : ℤ := digits.length + decimal.exponent
  if 0 ≤ decimal.exponent ∧ point ≤ 21 then
    digits ++ List.replicate decimal.exponent.toNat '0'
  else if 0 < point ∧ point ≤ 21 then
    digits.take point.toNat ++ '.' :: digits.drop point.toNat
  else if -6 < point ∧ point ≤ 0 then
    '0' :: '.' :: List.replicate (-point).toNat '0' ++ digits
  else
    let mantissa := match digits with
      | first :: second :: rest => first :: '.' :: second :: rest
      | single => single
    mantissa ++ 'e' :: (if 0 < point then '+' else '-') :: Nat.toDigits 10 (point - 1).natAbs

def finiteText (value : ℚ) : List Char :=
  if value = 0 then ['0']
  else if value < 0 then '-' :: decimalText (Decimal.shortest binary64.round (-value))
  else decimalText (Decimal.shortest binary64.round value)

def Number.toText : Number → String
  | .nan => "NaN"
  | .infinity true => "-Infinity"
  | .infinity false => "Infinity"
  | .finite number => String.ofList (finiteText number.value)

theorem round_natCast {significand : ℕ} (bound : significand < 2 ^ 53) (exponent : ℕ) :
    binary64.round (significand * 2 ^ exponent : ℕ) = (significand * 2 ^ exponent : ℕ) := by
  apply BinaryFormat.round_eq_self
  refine ⟨significand, exponent, ?_, ?_, by simp⟩
  · rw [abs_of_nonneg (by positivity)]
    exact_mod_cast bound
  · have least : binary64.minExponent = -1074 := rfl
    omega

theorem round_natCast_mono {lower upper : ℕ} (positive : 0 < lower) (ordered : lower ≤ upper) :
    binary64.round lower ≤ binary64.round upper :=
  BinaryFormat.round_mono (by exact_mod_cast positive) (by exact_mod_cast ordered)

/-- Even numbers are exact up to `2 ^ 54`, and what is larger is rounded to
something that is not smaller. -/
theorem eq_of_round_even {even integer : ℕ} (divisible : 2 ∣ even)
    (rounded : binary64.round even = integer) (bound : integer < 2 ^ 54) : even = integer := by
  rcases lt_or_ge even (2 ^ 54) with small | large
  · obtain ⟨half, rfl⟩ := divisible
    have exact := round_natCast (by omega : half < 2 ^ 53) 1
    rw [pow_one, mul_comm, rounded] at exact
    exact_mod_cast exact.symm
  · have exact := round_natCast (by norm_num : 1 < 2 ^ 53) 54
    have ordered := round_natCast_mono (by norm_num : 0 < 1 * 2 ^ 54) (by omega : 1 * 2 ^ 54 ≤ even)
    rw [exact, rounded] at ordered
    have beyond : 1 * 2 ^ 54 ≤ integer := by exact_mod_cast ordered
    omega

theorem nonNegativeIntegerFromString_eq_some_iff {text : String} {integer : ℕ} :
    nonNegativeIntegerFromString text = some integer ↔
      ∃ number, stringToNumber text = .finite number ∧ number.value = integer := by
  unfold nonNegativeIntegerFromString
  cases stringToNumber text with
  | nan => simp
  | infinity negative => simp
  | finite number =>
      simp only [Number.finite.injEq, exists_eq_left']
      constructor
      · intro accepted
        split at accepted
        · rename_i integral
          obtain ⟨denominator, nonnegative⟩ := integral
          have numerator : 0 ≤ number.value.num := Rat.num_nonneg.mpr nonnegative
          rw [← Option.some.inj accepted, ← Int.cast_natCast, Int.toNat_of_nonneg numerator]
          exact (Rat.coe_int_num_of_den_eq_one denominator).symm
        · simp at accepted
      · intro value
        rw [value]
        simp

theorem round_of_nonNegativeIntegerFromString {text : String} {integer : ℕ}
    (accepted : nonNegativeIntegerFromString text = some integer) :
    binary64.round integer = integer := by
  obtain ⟨number, _, value⟩ := nonNegativeIntegerFromString_eq_some_iff.mp accepted
  rw [← value]
  exact number.rounded

/-- The text of a positive integer stands for a natural number that is rounded
to it.  It is the integer itself below `2 ^ 54`. -/
theorem finiteText_natCast {integer : ℕ} (kept : binary64.round integer = integer)
    (positive : 0 < integer) :
    ∃ decimal places : ℕ, 0 < decimal ∧ finiteText integer = decimalText ⟨decimal, places⟩ ∧
      binary64.round (decimal * 10 ^ places : ℕ) = integer ∧
      (integer < 2 ^ 54 → decimal * 10 ^ places = integer) := by
  obtain ⟨decimal, places, shortest, rounded, whole⟩ := Decimal.shortest_natCast kept
  refine ⟨decimal, places, ?_, ?_, rounded, ?_⟩
  · apply Nat.pos_of_ne_zero
    rintro rfl
    have zero := round_natCast (by norm_num : 0 < 2 ^ 53) 0
    rw [zero_mul] at zero rounded
    rw [zero] at rounded
    have same : 0 = integer := by exact_mod_cast rounded
    omega
  · have notZero : (integer : ℚ) ≠ 0 := by exact_mod_cast positive.ne'
    have notNegative : ¬ (integer : ℚ) < 0 := by simp
    rw [finiteText, if_neg notZero, if_neg notNegative, shortest]
  · intro bound
    cases places with
    | zero => simpa using whole rfl
    | succ places =>
        apply eq_of_round_even _ rounded bound
        have even : 2 ∣ 10 ^ (places + 1) := dvd_pow (by norm_num) (by omega)
        exact even.mul_left decimal

section Digits

variable {character : Char} (isDigit : character.isDigit)

include isDigit

theorem toNat_of_isDigit : '0'.toNat ≤ character.toNat ∧ character.toNat ≤ '9'.toNat := by
  simpa [Char.isDigit, UInt32.le_iff_toNat_le] using isDigit

theorem appendDigit?_of_isDigit (value : ℕ) :
    appendDigit? 10 value character = some (10 * value + (character.toNat - '0'.toNat)) := by
  obtain ⟨least, greatest⟩ := toNat_of_isDigit isDigit
  have within : '0' ≤ character ∧ character ≤ '9' := ⟨least, greatest⟩
  have small : character.toNat - '0'.toNat < 10 := by
    have nine : '9'.toNat = '0'.toNat + 9 := rfl
    omega
  rw [appendDigit?, digit?, if_pos within]
  simp only [small, if_true]

theorem isWhiteSpace_of_isDigit : isWhiteSpace character = false := by
  obtain ⟨least, greatest⟩ := toNat_of_isDigit isDigit
  have zero : '0'.toNat = 48 := rfl
  have nine : '9'.toNat = 57 := rfl
  simp only [isWhiteSpace, List.contains_eq_mem, List.mem_cons, List.not_mem_nil, or_false,
    decide_eq_false_iff_not]
  omega

end Digits

theorem foldlM_appendDigit? {text : List Char} (allDigits : ∀ character ∈ text, character.isDigit)
    (value : ℕ) :
    text.foldlM (appendDigit? 10) value = some (Nat.ofDigitChars 10 text value) := by
  induction text generalizing value with
  | nil => simp
  | cons first rest inductionHypothesis =>
      rw [List.foldlM_cons, appendDigit?_of_isDigit (allDigits first List.mem_cons_self),
        Option.bind_eq_bind, Option.bind_some, inductionHypothesis, Nat.ofDigitChars_cons]
      intro character membership
      exact allDigits character (List.mem_cons_of_mem _ membership)

theorem span_of_all {text : List Char} {keep : Char → Bool}
    (kept : ∀ character ∈ text, keep character) : text.span keep = (text, []) := by
  rw [List.span_eq_takeWhile_dropWhile, List.takeWhile_eq_self_iff.mpr kept,
    List.dropWhile_eq_nil_iff.mpr kept]

section Numeral

variable {text : List Char} (allDigits : ∀ character ∈ text, character.isDigit)

include allDigits

theorem ne_of_mem_digits {character other : Char} (membership : character ∈ text)
    (notDigit : other.isDigit = false) : character ≠ other := by
  rintro rfl
  simp [allDigits _ membership] at notDigit

theorem trim_digits : Text.trim isWhiteSpace text = text := by
  apply Text.Trimmed.trim_eq
  constructor
  · intro first isFirst
    exact isWhiteSpace_of_isDigit (allDigits first (List.mem_of_mem_head? isFirst))
  · intro last isLast
    exact isWhiteSpace_of_isDigit (allDigits last (List.mem_of_getLast? isLast))

theorem nonDecimalIntegerLiteral?_digits : nonDecimalIntegerLiteral? text = none := by
  unfold nonDecimalIntegerLiteral?
  split
  · rename_i marker digits
    have distinct : ∀ other : Char, other.isDigit = false → marker ≠ other := fun _ notDigit =>
      ne_of_mem_digits allDigits (by simp) notDigit
    simp [distinct]
  · rfl

theorem signed_digits : signed text = (false, text) := by
  unfold signed
  split
  · exact absurd rfl (ne_of_mem_digits allDigits List.mem_cons_self (by decide))
  · exact absurd rfl (ne_of_mem_digits allDigits List.mem_cons_self (by decide))
  · rfl

theorem decimalLiteral?_digits (nonempty : text ≠ []) :
    decimalLiteral? text = some (Nat.ofDigitChars 10 text 0 : ℚ) := by
  have noExponent : text.span (fun character => decide (character ≠ 'e' ∧ character ≠ 'E')) =
      (text, []) := by
    apply span_of_all
    intro character membership
    have lower := ne_of_mem_digits allDigits membership (by decide : 'e'.isDigit = false)
    have upper := ne_of_mem_digits allDigits membership (by decide : 'E'.isDigit = false)
    simp [lower, upper]
  have noPoint : text.span (fun character => decide (character ≠ '.')) = (text, []) := by
    apply span_of_all
    intro character membership
    have point := ne_of_mem_digits allDigits membership (by decide : '.'.isDigit = false)
    simp [point]
  have digits : digits? 10 text = some (Nat.ofDigitChars 10 text 0) := by
    cases text with
    | nil => exact absurd rfl nonempty
    | cons first rest => exact foldlM_appendDigit? allDigits 0
  simp only [decimalLiteral?, noExponent, noPoint, exponentPart?, List.drop_nil, List.append_nil,
    digits]
  simp

end Numeral

theorem stringToNumber_toDigits (integer : ℕ) :
    stringToNumber (String.ofList (Nat.toDigits 10 integer)) = .nearest integer := by
  have allDigits : ∀ character ∈ Nat.toDigits 10 integer, character.isDigit := fun _ membership =>
    Nat.isDigit_of_mem_toDigits (by decide) (by decide) membership
  have nonempty : Nat.toDigits 10 integer ≠ [] := Nat.toDigits_ne_nil
  have notInfinite : Nat.toDigits 10 integer ≠ "Infinity".toList := by
    intro same
    exact ne_of_mem_digits allDigits (by simp [same]) (by decide : 'I'.isDigit = false) rfl
  have literal := decimalLiteral?_digits allDigits nonempty
  rw [Nat.ofDigitChars_ten_toDigits] at literal
  unfold stringToNumber
  rw [String.toList_ofList, trim_digits allDigits]
  split
  · exact absurd ‹_› nonempty
  · rw [nonDecimalIntegerLiteral?_digits allDigits]
    simp only [strDecimalLiteral, signed_digits allDigits, literal, notInfinite, if_false, withSign]
    rfl

theorem nearest_natCast {integer : ℕ} (bound : integer < 2 ^ 53) :
    ∃ number, Number.nearest integer = .finite number ∧ number.value = integer := by
  have kept : binary64.round integer = integer := by simpa using round_natCast bound 0
  have bounded : |binary64.round integer| < 2 ^ 1024 := by
    rw [kept, abs_of_nonneg (by positivity)]
    have cast : (integer : ℚ) < 2 ^ 53 := by exact_mod_cast bound
    exact cast.trans (pow_lt_pow_right₀ (by norm_num) (by norm_num))
  rw [Number.nearest, dif_pos bounded]
  exact ⟨_, rfl, kept⟩

theorem nonNegativeIntegerFromString_toDigits {integer : ℕ} (bound : integer < 2 ^ 53) :
    nonNegativeIntegerFromString (String.ofList (Nat.toDigits 10 integer)) = some integer := by
  rw [nonNegativeIntegerFromString_eq_some_iff, stringToNumber_toDigits]
  exact nearest_natCast bound

end ServiceMessages
