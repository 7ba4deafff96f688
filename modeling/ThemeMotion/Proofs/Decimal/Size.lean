import ThemeMotion.Proofs.Binary.Pattern
import ThemeMotion.Proofs.Decimal.Numeral

/-!
# Sizes of numerals

A numeral with digits has a sign and a size, which is a rational number, and is rounded to the
nearest number of a format (`Within.pattern_rounds`). Numerals whose leading digit stands far
out are rounded without forming their size. They are no exception for a format that lies within
the powers of ten at which this begins, and doubles do.

From there the limits follow in terms of sizes: which numerals have finite doubles, and which of
these doubles become infinite as singles. Words for infinity and NaN have no size.
-/

namespace ThemeMotion.Decimal

/-- The number of digits places a number between two powers of ten. -/
theorem digits_bounds {n : ℕ} (positive : 0 < n) :
    10 ^ ((digits n).length - 1) ≤ n ∧ n < 10 ^ (digits n).length := by
  constructor
  · by_contra short
    rw [not_le] at short
    rcases Nat.eq_zero_or_pos ((digits n).length - 1) with single | several
    · rw [single] at short
      omega
    · have fewer := digits_length_le several short
      omega
  · have bound := value_lt (digits n) (digits_isDigit n)
    rwa [value_digits] at bound

/-- Powers of ten. -/
theorem tenTo_eq (places : ℕ) : tenTo places = 10 ^ places := rfl

/-- The place of the leading digit bounds the size on either side. -/
theorem size_bounds {mantissa : ℕ} (positive : 0 < mantissa) (exponent : ℤ) :
    (10 : ℚ) ^ ((digits mantissa).length + exponent - 1) ≤ size mantissa exponent ∧
      size mantissa exponent < (10 : ℚ) ^ ((digits mantissa).length + exponent) := by
  obtain ⟨lower, upper⟩ := digits_bounds positive
  have scale : (0 : ℚ) < 10 ^ exponent := by positivity
  have filled := List.length_pos_of_ne_nil (digits_ne_nil mantissa)
  constructor
  · have place : ((digits mantissa).length : ℤ) + exponent - 1 =
        ((digits mantissa).length - 1 : ℕ) + exponent := by omega
    rw [place, zpow_add₀ (by norm_num), zpow_natCast]
    exact mul_le_mul_of_nonneg_right (by exact_mod_cast lower) scale.le
  · rw [zpow_add₀ (by norm_num), zpow_natCast]
    exact mul_lt_mul_of_pos_right (by exact_mod_cast upper) scale

/-- A format lies within the far exponent when its infinity is smaller, and half its quantum
larger, than the powers of ten there. -/
structure Within (format : BinaryFormat) : Prop where
  fractional : 0 < format.fractionBits
  upper : format.quanta format.infinity ≤ 10 ^ 400 * format.one
  lower : 2 * format.one ≤ 10 ^ 400

/-- Doubles lie within the far exponent. -/
theorem within_double : Within .double :=
  ⟨by decide +kernel, by decide +kernel, by decide +kernel⟩

namespace Within

open BinaryFormat

variable {format : BinaryFormat} (within : Within format)

include within

/-- Sizes before the far exponent, and zero, are rounded to zero. -/
theorem rounds_zero {size : ℚ} (small : size < 10 ^ (-400 : ℤ)) : format.Rounds size 0 where
  bounded := Nat.zero_le _
  placed pattern finite := by
    have unit : (0 : ℚ) < format.one := by exact_mod_cast format.one_pos
    have lower : (2 * format.one : ℚ) ≤ 10 ^ 400 := by exact_mod_cast within.lower
    have sum : 1 ≤ format.quanta pattern + format.quanta (pattern + 1) := by
      have next : format.quanta pattern < format.quanta (pattern + 1) :=
        quanta_strictMono (Nat.lt_succ_self pattern)
      omega
    have sum_rat : (1 : ℚ) ≤ (format.quanta pattern + format.quanta (pattern + 1) : ℕ) := by
      exact_mod_cast sum
    have short : 2 * (size * format.one) < 1 := by
      calc 2 * (size * format.one) = size * (2 * format.one) := by ring
        _ < 10 ^ (-400 : ℤ) * (2 * format.one) :=
          mul_lt_mul_of_pos_right small (mul_pos two_pos unit)
        _ ≤ 10 ^ (-400 : ℤ) * 10 ^ 400 := mul_le_mul_of_nonneg_left lower (by positivity)
        _ = 1 := by rw [zpow_neg, zpow_ofNat, inv_mul_cancel₀ (by positivity)]
    refine iff_of_false (Nat.not_lt_zero pattern) ?_
    rintro (past | ⟨same, _⟩) <;> linarith

/-- Sizes from the far exponent on are rounded to infinity. -/
theorem rounds_infinity {size : ℚ} (great : 10 ^ 400 ≤ size) :
    format.Rounds size format.infinity where
  bounded := le_refl _
  placed pattern finite := by
    have upper : (format.quanta format.infinity : ℚ) ≤ 10 ^ 400 * format.one := by
      exact_mod_cast within.upper
    have sum : format.quanta pattern + format.quanta (pattern + 1) <
        2 * format.quanta format.infinity := by
      have lower : format.quanta pattern < format.quanta format.infinity :=
        quanta_strictMono finite
      have next : format.quanta (pattern + 1) ≤ format.quanta format.infinity :=
        quanta_strictMono.monotone finite
      omega
    refine iff_of_true finite (.inl ?_)
    calc ((format.quanta pattern + format.quanta (pattern + 1) : ℕ) : ℚ)
        < (2 * format.quanta format.infinity : ℕ) := by exact_mod_cast sum
      _ = 2 * format.quanta format.infinity := by push_cast; rfl
      _ ≤ 2 * (10 ^ 400 * format.one) := mul_le_mul_of_nonneg_left upper two_pos.le
      _ ≤ 2 * (size * format.one) := by
        have unit : (0 : ℚ) ≤ format.one := Nat.cast_nonneg _
        exact mul_le_mul_of_nonneg_left (mul_le_mul_of_nonneg_right great unit) two_pos.le

/-- A numeral with digits has the pattern of its sign and of the magnitude that its size is
rounded to. -/
theorem pattern_rounds (negative : Bool) (mantissa : ℕ) (exponent : ℤ) :
    ∃ magnitude, format.Rounds (size mantissa exponent) magnitude ∧
      (Numeral.finite negative mantissa exponent).pattern format =
        format.sign negative + magnitude := by
  by_cases near : mantissa = 0 ∨ (digits mantissa).length + exponent < -Numeral.farExponent
  · refine ⟨0, within.rounds_zero ?_, if_pos near⟩
    rcases Nat.eq_zero_or_pos mantissa with rfl | positive
    · rw [size, Nat.cast_zero, zero_mul]
      positivity
    · have before := near.resolve_left positive.ne'
      exact (size_bounds positive exponent).2.trans
        (zpow_lt_zpow_right₀ (by norm_num) before)
  by_cases far : Numeral.farExponent < (digits mantissa).length + exponent
  · refine ⟨_, within.rounds_infinity ?_, (if_neg near).trans (if_pos far)⟩
    have positive := Nat.pos_of_ne_zero fun zero => near (.inl zero)
    refine le_trans ?_ (size_bounds positive exponent).1
    rw [← zpow_ofNat]
    exact zpow_le_zpow_right₀ (by norm_num) (Int.le_sub_one_of_lt far)
  by_cases whole : 0 ≤ exponent
  · refine ⟨_, rounds_nearest within.fractional Nat.one_pos ?_,
      (if_neg near).trans ((if_neg far).trans (if_pos whole))⟩
    obtain ⟨places, rfl⟩ := Int.eq_ofNat_of_zero_le whole
    rw [size, tenTo_eq, Int.toNat_natCast, zpow_natCast]
    push_cast
    rw [div_one]
  · refine ⟨_, rounds_nearest within.fractional (Nat.pow_pos (by decide)) ?_,
      (if_neg near).trans ((if_neg far).trans (if_neg whole))⟩
    obtain ⟨places, same⟩ := Int.eq_ofNat_of_zero_le (a := -exponent) (by omega)
    obtain rfl : exponent = -(places : ℤ) := by omega
    rw [size, neg_neg, Int.toNat_natCast, zpow_neg, zpow_natCast]
    push_cast
    rw [div_eq_mul_inv]
    ring

end Within

namespace Numeral

/-- The double of a numeral with digits is the one that its size is rounded to. -/
theorem ofDouble_toDouble (negative : Bool) (mantissa : ℕ) (exponent : ℤ) :
    ∃ magnitude, BinaryFormat.double.Rounds (size mantissa exponent) magnitude ∧
      BinaryNumber.ofDouble (finite negative mantissa exponent).toDouble =
        BinaryFormat.double.signed negative magnitude := by
  obtain ⟨magnitude, rounds, same⟩ := within_double.pattern_rounds negative mantissa exponent
  refine ⟨magnitude, rounds, ?_⟩
  rw [toDouble, same]
  exact ofDouble_packed negative rounds.bounded

/-- A numeral has a finite double when it has digits and is not too great. -/
theorem isFiniteDouble_toDouble_iff (numeral : Numeral) :
    isFiniteDouble numeral.toDouble = true ↔
      ∃ negative mantissa exponent, numeral = finite negative mantissa exponent ∧
        size mantissa exponent < 2 ^ 1024 - 2 ^ 970 := by
  cases numeral with
  | nan =>
    refine iff_of_false (by decide) ?_
    rintro ⟨_, _, _, ⟨⟩, _⟩
  | infinite negative =>
    refine iff_of_false (by cases negative <;> decide) ?_
    rintro ⟨_, _, _, ⟨⟩, _⟩
  | finite negative mantissa exponent =>
    obtain ⟨magnitude, rounds, holds⟩ := ofDouble_toDouble negative mantissa exponent
    rw [isFiniteDouble_iff holds, rounds.lt_double_infinity_iff]
    constructor
    · intro small
      exact ⟨negative, mantissa, exponent, rfl, small⟩
    · rintro ⟨_, _, _, ⟨⟩, small⟩
      exact small

/-- A numeral that has a finite double comes to a finite single, or to infinity where it is too
great for a single. -/
theorem narrow_toDouble (negative : Bool) {mantissa : ℕ} {exponent : ℤ}
    (small : size mantissa exponent < 2 ^ 1024 - 2 ^ 970) :
    (isFiniteSingle (narrow (finite negative mantissa exponent).toDouble) = true ↔
      size mantissa exponent < 2 ^ 128 - 2 ^ 103 - 2 ^ 74) ∧
    (BinaryNumber.ofSingle (narrow (finite negative mantissa exponent).toDouble) =
        .infinite negative ↔
      2 ^ 128 - 2 ^ 103 - 2 ^ 74 ≤ size mantissa exponent) := by
  obtain ⟨magnitude, rounds, holds⟩ := ofDouble_toDouble negative mantissa exponent
  have whole : BinaryFormat.double.signed negative magnitude =
      .finite negative (BinaryFormat.double.quanta magnitude) :=
    if_pos (rounds.lt_double_infinity_iff.mpr small)
  obtain ⟨narrowed, again, kept⟩ := ofSingle_narrow (holds.trans whole)
  have limit := again.lt_single_infinity_iff.trans rounds.lt_narrow_iff
  rw [isFiniteSingle_iff kept, kept, BinaryFormat.signed_eq_infinite_iff, ← not_lt, limit]
  exact ⟨Iff.rfl, Iff.rfl⟩

end Numeral

end ThemeMotion.Decimal
