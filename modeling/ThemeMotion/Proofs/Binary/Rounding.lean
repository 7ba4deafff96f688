import Mathlib.Data.Rat.Cast.Order
import Mathlib.Tactic.Ring
import ThemeMotion.Binary

/-!
# Rounding to the nearest number

Two neighbouring patterns of a format stand for two neighbouring numbers, and a quotient between
them is rounded to the upper one when it lies past their middle, or in the middle itself when the
lower pattern is odd. `BinaryFormat.lt_nearest_iff` says this of all quotients at once: it tells
for every pattern whether a quotient is rounded beyond it. Infinity needs no case of its own,
since it follows the largest finite number as a pattern, and as a number of quanta too.

A size is a rational number, and `BinaryFormat.Rounds` says which magnitude it is rounded to, so
that the limits of the two formats can be told as numbers. A size that is rounded to a double and
then to a single is rounded twice, and its limit is lower by half a step of doubles.

Magnitudes have no sign. How a numeral comes to a quotient of quanta is not treated here.
-/

namespace ThemeMotion

/-- Twice a number lies past the sum of two neighbours, or is this sum while the lower neighbour
is odd: the number is rounded beyond the lower neighbour. -/
def Beyond {Number : Type} [LT Number] (sum twice : Number) (lower : ℕ) : Prop :=
  sum < twice ∨ sum = twice ∧ lower % 2 = 1

/-- A quotient is rounded beyond a natural number as its place in the middle between this number
and the next one says. -/
theorem lt_nearestEven_iff {denominator : ℕ} (positive : 0 < denominator)
    (lower numerator : ℕ) :
    lower < nearestEven numerator denominator ↔
      Beyond ((2 * lower + 1) * denominator) (2 * numerator) lower := by
  have split := Nat.div_add_mod numerator denominator
  have small := Nat.mod_lt numerator positive
  unfold nearestEven Beyond
  generalize numerator / denominator = floor at split ⊢
  generalize numerator % denominator = remainder at split small ⊢
  have sum : (2 * lower + 1) * denominator = 2 * (lower * denominator) + denominator := by ring
  rw [sum]
  have whole : denominator * floor = floor * denominator := Nat.mul_comm ..
  rcases Nat.lt_trichotomy lower floor with under | same | above
  · have step : (lower + 1) * denominator ≤ floor * denominator :=
      Nat.mul_le_mul_right denominator under
    rw [Nat.succ_mul] at step
    dsimp only
    split_ifs <;> omega
  · subst same
    dsimp only
    split_ifs <;> omega
  · have step : (floor + 1) * denominator ≤ lower * denominator :=
      Nat.mul_le_mul_right denominator above
    rw [Nat.succ_mul] at step
    dsimp only
    split_ifs <;> omega

/-- Powers of two. -/
theorem twoTo_eq (places : ℕ) : twoTo places = 2 ^ places := rfl

namespace BinaryFormat

variable {format : BinaryFormat}

/-- A pattern counts steps of its binade behind those of all binades below. The first binade has
twice as many numbers as the others, and the end of a binade is the start of the next. -/
structure Scaled (format : BinaryFormat) (pattern shift mantissa : ℕ) : Prop where
  placed : pattern = shift * 2 ^ format.fractionBits + mantissa
  filled : shift = 0 ∨ 2 ^ format.fractionBits ≤ mantissa
  bounded : mantissa ≤ 2 * 2 ^ format.fractionBits

/-- Every pattern lies in a binade, before its end. -/
theorem exists_scaled (format : BinaryFormat) (pattern : ℕ) :
    ∃ shift mantissa, format.Scaled pattern shift mantissa ∧
      mantissa < 2 * 2 ^ format.fractionBits := by
  have split := Nat.div_add_mod pattern (2 ^ format.fractionBits)
  have small := Nat.mod_lt pattern (Nat.two_pow_pos format.fractionBits)
  rcases Nat.eq_zero_or_pos (pattern / 2 ^ format.fractionBits) with first | later
  · rw [first, Nat.mul_zero, Nat.zero_add] at split
    exact ⟨0, pattern, ⟨by omega, .inl rfl, by omega⟩, by omega⟩
  · obtain ⟨shift, same⟩ := Nat.exists_eq_add_of_le' later
    rw [same, Nat.mul_comm, Nat.succ_mul] at split
    exact ⟨shift, 2 ^ format.fractionBits + pattern % 2 ^ format.fractionBits,
      ⟨by omega, .inr (by omega), by omega⟩, by omega⟩

/-- Below the first power of two a pattern is its own count of quanta. -/
theorem quanta_subnormal {fraction : ℕ} (inside : fraction < 2 ^ format.fractionBits) :
    format.quanta fraction = fraction := by
  unfold quanta
  rw [twoTo_eq, Nat.div_eq_of_lt inside, Nat.mod_eq_of_lt inside]
  exact if_pos rfl

/-- From there on a leading bit is added, and each binade doubles the step. -/
theorem quanta_normal (shift : ℕ) {fraction : ℕ} (inside : fraction < 2 ^ format.fractionBits) :
    format.quanta ((shift + 1) * 2 ^ format.fractionBits + fraction) =
      (2 ^ format.fractionBits + fraction) * 2 ^ shift := by
  have positive := Nat.two_pow_pos format.fractionBits
  have field : ((shift + 1) * 2 ^ format.fractionBits + fraction) / 2 ^ format.fractionBits =
      shift + 1 := by
    rw [Nat.mul_comm, Nat.mul_add_div positive, Nat.div_eq_of_lt inside, Nat.add_zero]
  have rest : ((shift + 1) * 2 ^ format.fractionBits + fraction) % 2 ^ format.fractionBits =
      fraction := by
    rw [Nat.mul_comm, Nat.mul_add_mod, Nat.mod_eq_of_lt inside]
  unfold quanta
  rw [twoTo_eq, field, rest]
  exact if_neg (Nat.succ_ne_zero shift)

/-- The number of a pattern counts the quanta of its steps. The end of a binade is the start of the
next, where a step is twice as large. -/
theorem Scaled.quanta {pattern shift mantissa : ℕ} (scaled : format.Scaled pattern shift mantissa) :
    format.quanta pattern = mantissa * 2 ^ shift := by
  obtain ⟨rfl, filled, bounded⟩ := scaled
  rcases Nat.lt_or_ge mantissa (2 ^ format.fractionBits) with below | reached
  · obtain rfl : shift = 0 := by omega
    rw [Nat.zero_mul, Nat.zero_add, quanta_subnormal below, Nat.pow_zero, Nat.mul_one]
  · obtain ⟨fraction, rfl⟩ := Nat.exists_eq_add_of_le reached
    rcases Nat.lt_or_ge fraction (2 ^ format.fractionBits) with inside | ended
    · rw [← Nat.add_assoc, ← Nat.succ_mul]
      exact quanta_normal shift inside
    · obtain rfl : fraction = 2 ^ format.fractionBits := by omega
      have start := format.quanta_normal (shift + 1) (Nat.two_pow_pos format.fractionBits)
      rw [Nat.add_zero, Nat.add_zero, Nat.pow_succ] at start
      rw [← Nat.add_assoc, ← Nat.succ_mul, ← Nat.succ_mul, start]
      ring

/-- The next pattern is one step further. -/
theorem Scaled.next {pattern shift mantissa : ℕ} (scaled : format.Scaled pattern shift mantissa)
    (inside : mantissa < 2 * 2 ^ format.fractionBits) :
    format.Scaled (pattern + 1) shift (mantissa + 1) where
  placed := by rw [scaled.placed, Nat.add_assoc]
  filled := scaled.filled.imp_right Nat.le_succ_of_le
  bounded := inside

/-- Patterns are in the order of their numbers. -/
theorem quanta_strictMono : StrictMono format.quanta := by
  apply strictMono_nat_of_lt_succ
  intro pattern
  obtain ⟨shift, mantissa, scaled, inside⟩ := format.exists_scaled pattern
  rw [scaled.quanta, (scaled.next inside).quanta]
  exact Nat.mul_lt_mul_of_pos_right (Nat.lt_succ_self mantissa) (Nat.two_pow_pos shift)

/-- The sum of two neighbours in a binade, which is twice their middle. -/
theorem Scaled.sum {pattern shift mantissa : ℕ} (scaled : format.Scaled pattern shift mantissa)
    (inside : mantissa < 2 * 2 ^ format.fractionBits) :
    format.quanta pattern + format.quanta (pattern + 1) = (2 * mantissa + 1) * 2 ^ shift := by
  rw [scaled.quanta, (scaled.next inside).quanta]
  ring

/-- A pattern is odd when its step is. -/
theorem Scaled.odd_iff {pattern shift mantissa : ℕ} (scaled : format.Scaled pattern shift mantissa)
    (fractional : 0 < format.fractionBits) : pattern % 2 = mantissa % 2 := by
  obtain ⟨places, same⟩ := Nat.exists_eq_add_of_le' fractional
  rw [scaled.placed, same, Nat.pow_succ, ← Nat.mul_assoc, Nat.mul_comm _ 2, Nat.mul_add_mod]

/-- The binade in which a quotient is rounded. -/
def binade (format : BinaryFormat) (numerator denominator : ℕ) : ℕ :=
  (numerator / denominator).log2 - format.fractionBits

section Binade

variable {denominator : ℕ} (positive : 0 < denominator) (numerator : ℕ)

include positive

/-- A quotient lies before the end of its binade, and not before the start, which the first
binade does not have. -/
theorem binade_bounds (format : BinaryFormat) :
    let step := denominator * 2 ^ format.binade numerator denominator
    numerator < 2 * 2 ^ format.fractionBits * step ∧
      (format.binade numerator denominator = 0 ∨ 2 ^ format.fractionBits * step ≤ numerator) := by
  unfold binade
  generalize leading : (numerator / denominator).log2 = power
  generalize format.fractionBits = places
  have start : 2 ^ places * (denominator * 2 ^ (power - places)) =
      2 ^ (places + (power - places)) * denominator := by
    rw [Nat.pow_add]
    ring
  have ending : 2 * 2 ^ places * (denominator * 2 ^ (power - places)) =
      2 ^ (places + (power - places) + 1) * denominator := by
    rw [Nat.pow_succ, Nat.pow_add]
    ring
  dsimp only
  rw [start, ending]
  constructor
  · rw [← Nat.div_lt_iff_lt_mul positive]
    have upper := Nat.lt_log2_self (n := numerator / denominator)
    exact lt_of_lt_of_le upper (Nat.pow_le_pow_right (by decide) (by omega))
  · rcases Nat.eq_zero_or_pos (power - places) with first | later
    · exact .inl first
    · right
      have reached : places + (power - places) = (numerator / denominator).log2 := by omega
      rw [← Nat.le_div_iff_mul_le positive, reached]
      apply Nat.log2_self_le
      intro zero
      rw [zero, Nat.log2_zero] at leading
      omega

/-- A quotient is rounded to a pattern of its binade, or to the end of it. -/
theorem scaled_rounded (format : BinaryFormat) :
    let shift := format.binade numerator denominator
    let mantissa := nearestEven numerator (denominator * 2 ^ shift)
    format.Scaled (shift * 2 ^ format.fractionBits + mantissa) shift mantissa := by
  obtain ⟨before, behind⟩ := binade_bounds positive numerator format
  intro shift mantissa
  have step : 0 < denominator * 2 ^ shift := Nat.mul_pos positive (Nat.two_pow_pos shift)
  refine ⟨rfl, behind.imp_right fun reached => ?_, ?_⟩
  · obtain ⟨lower, unit⟩ := Nat.exists_eq_add_of_le' (Nat.two_pow_pos format.fractionBits)
    rw [unit] at reached ⊢
    rw [Nat.succ_le_iff, lt_nearestEven_iff step]
    left
    calc (2 * lower + 1) * (denominator * 2 ^ shift)
        < (2 * (lower + 1)) * (denominator * 2 ^ shift) :=
          Nat.mul_lt_mul_of_pos_right (by omega) step
      _ = 2 * ((lower + 1) * (denominator * 2 ^ shift)) := Nat.mul_assoc ..
      _ ≤ 2 * numerator := Nat.mul_le_mul_left 2 reached
  · by_contra beyond
    rw [not_le, lt_nearestEven_iff step] at beyond
    have short : 2 * numerator <
        (2 * (2 * 2 ^ format.fractionBits) + 1) * (denominator * 2 ^ shift) := by
      calc 2 * numerator < 2 * (2 * 2 ^ format.fractionBits * (denominator * 2 ^ shift)) :=
            Nat.mul_lt_mul_of_pos_left before (by decide)
        _ = (2 * (2 * 2 ^ format.fractionBits)) * (denominator * 2 ^ shift) :=
            (Nat.mul_assoc ..).symm
        _ ≤ (2 * (2 * 2 ^ format.fractionBits) + 1) * (denominator * 2 ^ shift) :=
            Nat.mul_le_mul_right _ (Nat.le_succ _)
    rcases beyond with past | ⟨same, _⟩ <;> omega

end Binade

/-- A step doubles from a binade to a later one, at least. -/
theorem doubled_le {shift level : ℕ} (earlier : shift < level) (denominator : ℕ) :
    2 * (2 ^ shift * denominator) ≤ denominator * 2 ^ level := by
  calc 2 * (2 ^ shift * denominator) = denominator * 2 ^ (shift + 1) := by ring
    _ ≤ denominator * 2 ^ level :=
      Nat.mul_le_mul_left _ (Nat.pow_le_pow_right (by decide) earlier)

/-- A quotient in a later binade lies past all middles of an earlier one. -/
theorem middle_lt {shift level mantissa places numerator denominator : ℕ}
    (positive : 0 < denominator) (later : shift < level) (inside : mantissa < 2 * 2 ^ places)
    (reached : 2 ^ places * (denominator * 2 ^ level) ≤ numerator) :
    (2 * mantissa + 1) * 2 ^ shift * denominator < 2 * numerator := by
  have step := Nat.mul_pos (Nat.two_pow_pos shift) positive
  calc (2 * mantissa + 1) * 2 ^ shift * denominator
      = (2 * mantissa + 1) * (2 ^ shift * denominator) := Nat.mul_assoc ..
    _ < (2 * (2 * 2 ^ places)) * (2 ^ shift * denominator) :=
      Nat.mul_lt_mul_of_pos_right (by omega) step
    _ = 2 * (2 ^ places * (2 * (2 ^ shift * denominator))) := by ring
    _ ≤ 2 * (2 ^ places * (denominator * 2 ^ level)) :=
      Nat.mul_le_mul_left 2 (Nat.mul_le_mul_left _ (doubled_le later denominator))
    _ ≤ 2 * numerator := Nat.mul_le_mul_left 2 reached

/-- A quotient in an earlier binade lies before all middles of a later one. -/
theorem lt_middle {shift level mantissa places numerator denominator : ℕ}
    (earlier : level < shift) (filled : 2 ^ places ≤ mantissa)
    (before : numerator < 2 * 2 ^ places * (denominator * 2 ^ level)) :
    2 * numerator < (2 * mantissa + 1) * 2 ^ shift * denominator := by
  calc 2 * numerator < 2 * (2 * 2 ^ places * (denominator * 2 ^ level)) :=
        Nat.mul_lt_mul_of_pos_left before (by decide)
    _ = 2 * 2 ^ places * (2 * (2 ^ level * denominator)) := by ring
    _ ≤ 2 * 2 ^ places * (denominator * 2 ^ shift) :=
        Nat.mul_le_mul_left _ (doubled_le earlier denominator)
    _ ≤ (2 * mantissa + 1) * (denominator * 2 ^ shift) :=
        Nat.mul_le_mul_right _ (by omega)
    _ = (2 * mantissa + 1) * 2 ^ shift * denominator := by ring

/-- Whether a quotient is rounded beyond a finite pattern is decided by the middle between the
numbers of this pattern and of the next one. In a later binade the quotient lies beyond all
numbers of this one; in an earlier binade it is rounded to the end at most. -/
theorem lt_nearest_iff {denominator : ℕ} (positive : 0 < denominator) (numerator : ℕ)
    (fractional : 0 < format.fractionBits) {pattern : ℕ} (finite : pattern < format.infinity) :
    pattern < format.nearest numerator denominator ↔
      Beyond ((format.quanta pattern + format.quanta (pattern + 1)) * denominator)
        (2 * numerator) pattern := by
  obtain ⟨shift, mantissa, scaled, inside⟩ := format.exists_scaled pattern
  have rounded := scaled_rounded positive numerator format
  have bounds := binade_bounds positive numerator format
  have nearest : format.nearest numerator denominator =
      min (format.binade numerator denominator * 2 ^ format.fractionBits +
        nearestEven numerator (denominator * 2 ^ format.binade numerator denominator))
        format.infinity := rfl
  rw [nearest, lt_min_iff, and_iff_left finite, scaled.sum inside]
  generalize format.binade numerator denominator = level at rounded bounds ⊢
  obtain ⟨before, behind⟩ := bounds
  rcases Nat.lt_trichotomy shift level with later | same | earlier
  · have reached := behind.resolve_left (by omega)
    have filled := rounded.filled.resolve_left (by omega)
    have binades : (shift + 1) * 2 ^ format.fractionBits ≤ level * 2 ^ format.fractionBits :=
      Nat.mul_le_mul_right _ later
    rw [Nat.succ_mul] at binades
    refine iff_of_true ?_ (.inl (middle_lt positive later inside reached))
    rw [scaled.placed]
    omega
  · subst same
    have step : 0 < denominator * 2 ^ shift := Nat.mul_pos positive (Nat.two_pow_pos shift)
    have sum : (2 * mantissa + 1) * 2 ^ shift * denominator =
        (2 * mantissa + 1) * (denominator * 2 ^ shift) := by ring
    rw [sum, Beyond, scaled.odd_iff fractional, scaled.placed, Nat.add_lt_add_iff_left,
      lt_nearestEven_iff step]
    exact Iff.rfl
  · have filled := scaled.filled.resolve_left (by omega)
    have short := lt_middle earlier filled before
    have ended := rounded.bounded
    have binades : (level + 1) * 2 ^ format.fractionBits ≤ shift * 2 ^ format.fractionBits :=
      Nat.mul_le_mul_right _ earlier
    rw [Nat.succ_mul] at binades
    refine iff_of_false ?_ ?_
    · rw [scaled.placed]
      omega
    · rintro (past | ⟨same, _⟩) <;> omega

/-- One is a positive number of quanta. -/
theorem one_pos (format : BinaryFormat) : 0 < format.one := Nat.two_pow_pos _

/-- A magnitude is the one that a size is rounded to: infinity at most, and beyond just those
finite magnitudes beyond which the size lies. -/
structure Rounds (format : BinaryFormat) (size : ℚ) (magnitude : ℕ) : Prop where
  bounded : magnitude ≤ format.infinity
  placed : ∀ pattern < format.infinity, pattern < magnitude ↔
    Beyond ((format.quanta pattern + format.quanta (pattern + 1) : ℕ) : ℚ)
      (2 * (size * format.one)) pattern

/-- A quotient that counts the quanta of a size is rounded to the magnitude of the size. -/
theorem rounds_nearest (fractional : 0 < format.fractionBits) {numerator denominator : ℕ}
    (positive : 0 < denominator) {size : ℚ}
    (counts : size * format.one = numerator / denominator) :
    format.Rounds size (format.nearest numerator denominator) where
  bounded := Nat.min_le_right _ _
  placed pattern finite := by
    have positive_rat : (0 : ℚ) < denominator := by exact_mod_cast positive
    have twice : (2 : ℚ) * (numerator / denominator) = (2 * numerator : ℕ) / denominator := by
      push_cast
      ring
    rw [lt_nearest_iff positive numerator fractional finite, counts, twice, Beyond, Beyond,
      lt_div_iff₀ positive_rat, eq_div_iff positive_rat.ne']
    norm_cast

/-- Above an odd magnitude, rounding leads to the next one from the middle on. The middle is
given as a difference of two whole numbers, counted in quanta. -/
theorem Rounds.lt_succ_iff {size : ℚ} {magnitude : ℕ} (rounds : format.Rounds size magnitude)
    {pattern : ℕ} (finite : pattern < format.infinity) (odd : pattern % 2 = 1) {whole less : ℕ}
    (middle : format.quanta pattern + format.quanta (pattern + 1) + 2 * (less * format.one) =
      2 * (whole * format.one)) :
    magnitude < pattern + 1 ↔ size < whole - less := by
  have unit : (0 : ℚ) < format.one := by exact_mod_cast format.one_pos
  have sum : ((format.quanta pattern + format.quanta (pattern + 1) : ℕ) : ℚ) =
      2 * ((whole - less) * format.one) := by
    rw [sub_mul, mul_sub, eq_sub_iff_add_eq]
    exact_mod_cast middle
  rw [← not_le, Nat.succ_le_iff, rounds.placed pattern finite, Beyond, and_iff_left odd,
    ← le_iff_lt_or_eq, sum, mul_le_mul_iff_right₀ two_pos, mul_le_mul_iff_left₀ unit, not_le]

/-- Sizes are rounded to finite magnitudes up to half a step past the largest one. The half
step is a power of two, and the step leads to another one. -/
theorem Rounds.lt_infinity_iff {size : ℚ} {magnitude : ℕ} (rounds : format.Rounds size magnitude)
    (last : format.infinity - 1 + 1 = format.infinity) (odd : (format.infinity - 1) % 2 = 1)
    {whole half : ℕ}
    (middle : format.quanta (format.infinity - 1) + format.quanta (format.infinity - 1 + 1) +
      2 * (2 ^ half * format.one) = 2 * (2 ^ whole * format.one)) :
    magnitude < format.infinity ↔ size < 2 ^ whole - 2 ^ half := by
  have limit := rounds.lt_succ_iff (by omega) odd middle
  rw [last, Nat.cast_pow, Nat.cast_pow, Nat.cast_ofNat] at limit
  exact limit

/-- Sizes are rounded to finite doubles up to half a step past the largest. -/
theorem Rounds.lt_double_infinity_iff {size : ℚ} {magnitude : ℕ}
    (rounds : double.Rounds size magnitude) :
    magnitude < double.infinity ↔ size < 2 ^ 1024 - 2 ^ 970 :=
  rounds.lt_infinity_iff (by decide +kernel) (by decide +kernel) (by decide +kernel)

/-- Sizes are rounded to finite singles up to half a step past the largest. -/
theorem Rounds.lt_single_infinity_iff {size : ℚ} {magnitude : ℕ}
    (rounds : single.Rounds size magnitude) :
    magnitude < single.infinity ↔ size < 2 ^ 128 - 2 ^ 103 :=
  rounds.lt_infinity_iff (by decide) (by decide) (by decide)

/-- The pattern of the double in the middle between the largest single and the next number. -/
def singleLimit : ℕ := 1151 * 2 ^ 52 - 2 ^ 28

/-- A size that is rounded to a double first reaches the limit of singles earlier, by half a
step of doubles. -/
theorem Rounds.lt_narrow_iff {size : ℚ} {magnitude : ℕ} (rounds : double.Rounds size magnitude) :
    (double.quanta magnitude / double.one : ℚ) < 2 ^ 128 - 2 ^ 103 ↔
      size < 2 ^ 128 - 2 ^ 103 - 2 ^ 74 := by
  have unit : (0 : ℚ) < double.one := by exact_mod_cast double.one_pos
  have quanta : double.quanta singleLimit + 2 ^ 103 * double.one = 2 ^ 128 * double.one := by
    decide +kernel
  have reached : (2 ^ 128 - 2 ^ 103 : ℚ) * double.one = double.quanta singleLimit := by
    rw [sub_mul, sub_eq_iff_eq_add]
    exact_mod_cast quanta.symm
  have last : singleLimit - 1 + 1 = singleLimit := by decide
  have middle : double.quanta (singleLimit - 1) + double.quanta (singleLimit - 1 + 1) +
      2 * ((2 ^ 103 + 2 ^ 74) * double.one) = 2 * (2 ^ 128 * double.one) := by decide +kernel
  have limit := rounds.lt_succ_iff (by decide) (by decide) middle
  rw [last, Nat.cast_add, Nat.cast_pow, Nat.cast_pow, Nat.cast_pow, Nat.cast_ofNat, ← sub_sub] at limit
  rw [div_lt_iff₀ unit, reached, Nat.cast_lt, quanta_strictMono.lt_iff_lt]
  exact limit

end BinaryFormat

end ThemeMotion
