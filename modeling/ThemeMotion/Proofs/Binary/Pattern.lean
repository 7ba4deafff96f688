import Mathlib
import ThemeMotion.Proofs.Binary.Rounding

/-!
# Numbers of bit patterns

A floating-point value that is made of a bit pattern holds the number of the pattern. Only the
pattern of NaN is not kept, since there is one NaN; its number is.

A pattern is written as a sign and a magnitude. The magnitudes up to that of infinity are the
finite numbers in order, and infinity behind them. That packing undoes unpacking is a law of the
library, which has to be imported whole for it.
-/

namespace ThemeMotion

namespace BinaryFormat

variable (format : BinaryFormat)

/-- The weight of a sign, where there is one. -/
def sign (negative : Bool) : ℕ := if negative then format.signWeight else 0

/-- The number of a sign and a magnitude up to infinity. -/
def signed (negative : Bool) (magnitude : ℕ) : BinaryNumber :=
  if magnitude < format.infinity then .finite negative (format.quanta magnitude)
  else .infinite negative

/-- A sign and a magnitude are infinite when the magnitude is that of infinity, or past it. -/
theorem signed_eq_infinite_iff (negative : Bool) (magnitude : ℕ) :
    format.signed negative magnitude = .infinite negative ↔ ¬ magnitude < format.infinity := by
  unfold signed
  by_cases finite : magnitude < format.infinity
  · simp [finite]
  · simp [finite]

/-- The pattern of infinity leaves the place of the sign free. -/
theorem infinity_lt : format.infinity < format.signWeight := by
  unfold infinity signWeight
  simp only [twoTo_eq]
  rw [Nat.pow_add]
  exact Nat.mul_lt_mul_of_pos_right (Nat.sub_lt (Nat.two_pow_pos _) Nat.one_pos)
    (Nat.two_pow_pos _)

/-- A pattern is decoded as its sign and its magnitude. -/
theorem decode_signed (negative : Bool) {magnitude : ℕ} (bounded : magnitude ≤ format.infinity) :
    format.decode (format.sign negative + magnitude) = format.signed negative magnitude := by
  have below := lt_of_le_of_lt bounded format.infinity_lt
  have rest : (format.sign negative + magnitude) % format.signWeight = magnitude := by
    unfold sign
    cases negative with
    | false => rw [if_neg Bool.false_ne_true, Nat.zero_add, Nat.mod_eq_of_lt below]
    | true => rw [if_pos rfl, Nat.add_mod_left, Nat.mod_eq_of_lt below]
  have front : decide (format.signWeight ≤ format.sign negative + magnitude) = negative := by
    unfold sign
    cases negative with
    | false => simpa using below
    | true => simp
  unfold decode signed
  simp only [rest, front]
  by_cases finite : magnitude < format.infinity
  · rw [if_pos finite, if_pos finite]
  · rw [if_neg finite, if_neg finite, if_pos (le_antisymm bounded (not_lt.mp finite))]

/-- The format of floating-point values with the given fields. -/
def ofFields (fields : Float.Model.Format) : BinaryFormat :=
  ⟨fields.mantissaBitsWithoutImplicit, fields.exponentBits⟩

end BinaryFormat

section Values

open Float.Model.UnpackedFloat

variable {fields : Float.Model.Format}

/-- A magnitude without its sign consists of the exponent field and the fraction behind it. -/
theorem magnitude_eq (bits : BitVec fields.numBits) :
    bits.toNat % (BinaryFormat.ofFields fields).signWeight =
      (unpackMantissa bits).toNat +
        2 ^ fields.mantissaBitsWithoutImplicit * (unpackExponent bits).toNat := by
  rw [unpackMantissa_def, unpackExponent_def, BitVec.extractLsb'_toNat, BitVec.extractLsb'_toNat,
    Nat.shiftRight_zero, Nat.shiftRight_eq_div_pow, ← Nat.mod_mul, ← Nat.pow_add, Nat.add_comm]
  rfl

/-- The patterns of NaN are those past infinity. Below the top field even the largest fraction does
not reach it. -/
theorem isNaNBits_iff (bits : BitVec fields.numBits) :
    isNaNBits bits = true ↔ (BinaryFormat.ofFields fields).infinity <
      bits.toNat % (BinaryFormat.ofFields fields).signWeight := by
  have topped : unpackExponent bits = -1#(fields.exponentBits) ↔
      (unpackExponent bits).toNat = 2 ^ fields.exponentBits - 1 := by
    rw [← BitVec.toNat_inj, BitVec.neg_one_eq_allOnes, BitVec.toNat_allOnes]
  have filled : unpackMantissa bits ≠ 0#(fields.mantissaBitsWithoutImplicit) ↔
      0 < (unpackMantissa bits).toNat := by
    rw [Ne, ← BitVec.toNat_inj, BitVec.toNat_ofNat, Nat.zero_mod, Nat.pos_iff_ne_zero]
  have infinity : (BinaryFormat.ofFields fields).infinity =
      2 ^ fields.mantissaBitsWithoutImplicit * (2 ^ fields.exponentBits - 1) := Nat.mul_comm ..
  have exponent := (unpackExponent bits).isLt
  have fraction := (unpackMantissa bits).isLt
  rw [isNaNBits, decide_eq_true_iff, topped, filled, magnitude_eq, infinity]
  constructor
  · rintro ⟨top, positive⟩
    rw [top]
    omega
  · intro past
    by_cases top : (unpackExponent bits).toNat = 2 ^ fields.exponentBits - 1
    · rw [top] at past
      exact ⟨top, by omega⟩
    · have short : 2 ^ fields.mantissaBitsWithoutImplicit * ((unpackExponent bits).toNat + 1) ≤
          2 ^ fields.mantissaBitsWithoutImplicit * (2 ^ fields.exponentBits - 1) :=
        Nat.mul_le_mul_left _ (by omega)
      rw [Nat.mul_succ] at short
      omega

/-- A pattern of NaN is decoded as such. -/
theorem decode_nan {bits : BitVec fields.numBits} (nan : isNaNBits bits = true) :
    (BinaryFormat.ofFields fields).decode bits.toNat = .nan := by
  have past := (isNaNBits_iff bits).mp nan
  unfold BinaryFormat.decode
  dsimp only
  rw [if_neg (by omega), if_neg (by omega)]

/-- A pattern that is made a value keeps its number. -/
theorem decode_packed (fields : Float.Model.Format) (wide : 2 ≤ fields.exponentBits)
    (bits : BitVec fields.numBits) :
    (BinaryFormat.ofFields fields).decode (pack fields (unpack fields bits)).toNat =
      (BinaryFormat.ofFields fields).decode bits.toNat := by
  rw [pack_unpack bits wide]
  by_cases nan : isNaNBits bits = true
  · rw [if_pos nan, decode_nan nan, decode_nan isNaNBits_packedNaN]
  · rw [if_neg nan]

end Values

/-- A double that is made of a pattern holds the number of the pattern. -/
theorem ofDouble_ofBits {pattern : ℕ} (fits : pattern < 2 ^ 64) :
    BinaryNumber.ofDouble (Float.ofBits (UInt64.ofNat pattern)) =
      BinaryFormat.double.decode pattern := by
  have kept := decode_packed .binary64 (by decide) (UInt64.ofNat pattern).toBitVec
  have same : (UInt64.ofNat pattern).toBitVec.toNat = pattern := UInt64.toNat_ofNat_of_lt' fits
  rw [same] at kept
  exact kept

/-- A single that is made of a pattern holds the number of the pattern. -/
theorem ofSingle_ofBits {pattern : ℕ} (fits : pattern < 2 ^ 32) :
    BinaryNumber.ofSingle (Float32.ofBits (UInt32.ofNat pattern)) =
      BinaryFormat.single.decode pattern := by
  have kept := decode_packed .binary32 (by decide) (UInt32.ofNat pattern).toBitVec
  have same : (UInt32.ofNat pattern).toBitVec.toNat = pattern := UInt32.toNat_ofNat_of_lt' fits
  rw [same] at kept
  exact kept

/-- A sign and a magnitude fill no more than twice the weight of the sign. -/
theorem BinaryFormat.packed_lt (format : BinaryFormat) (negative : Bool) {magnitude : ℕ}
    (bounded : magnitude ≤ format.infinity) :
    format.sign negative + magnitude < 2 * format.signWeight := by
  have below := lt_of_le_of_lt bounded format.infinity_lt
  have weight : format.sign negative ≤ format.signWeight := by
    cases negative
    · exact Nat.zero_le _
    · exact le_refl _
  omega

/-- A double that is made of a sign and a magnitude. -/
theorem ofDouble_packed (negative : Bool) {magnitude : ℕ}
    (bounded : magnitude ≤ BinaryFormat.double.infinity) :
    BinaryNumber.ofDouble
      (Float.ofBits (UInt64.ofNat (BinaryFormat.double.sign negative + magnitude))) =
        BinaryFormat.double.signed negative magnitude := by
  rw [ofDouble_ofBits (BinaryFormat.double.packed_lt negative bounded)]
  exact BinaryFormat.double.decode_signed negative bounded

/-- A single that is made of a sign and a magnitude. -/
theorem ofSingle_packed (negative : Bool) {magnitude : ℕ}
    (bounded : magnitude ≤ BinaryFormat.single.infinity) :
    BinaryNumber.ofSingle
      (Float32.ofBits (UInt32.ofNat (BinaryFormat.single.sign negative + magnitude))) =
        BinaryFormat.single.signed negative magnitude := by
  rw [ofSingle_ofBits (BinaryFormat.single.packed_lt negative bounded)]
  exact BinaryFormat.single.decode_signed negative bounded

/-- A double is finite when its magnitude lies before infinity. -/
theorem isFiniteDouble_iff {x : Float} {negative : Bool} {magnitude : ℕ}
    (holds : BinaryNumber.ofDouble x = BinaryFormat.double.signed negative magnitude) :
    isFiniteDouble x = true ↔ magnitude < BinaryFormat.double.infinity := by
  rw [isFiniteDouble, holds, BinaryFormat.signed]
  by_cases finite : magnitude < BinaryFormat.double.infinity
  · simp [finite]
  · simp [finite]

/-- A single is finite when its magnitude lies before infinity. -/
theorem isFiniteSingle_iff {x : Float32} {negative : Bool} {magnitude : ℕ}
    (holds : BinaryNumber.ofSingle x = BinaryFormat.single.signed negative magnitude) :
    isFiniteSingle x = true ↔ magnitude < BinaryFormat.single.infinity := by
  rw [isFiniteSingle, holds, BinaryFormat.signed]
  by_cases finite : magnitude < BinaryFormat.single.infinity
  · simp [finite]
  · simp [finite]

/-- A finite double becomes the single that its size is rounded to, under the same sign. -/
theorem ofSingle_narrow {x : Float} {negative : Bool} {quanta : ℕ}
    (holds : BinaryNumber.ofDouble x = .finite negative quanta) :
    ∃ magnitude, BinaryFormat.single.Rounds (quanta / BinaryFormat.double.one) magnitude ∧
      BinaryNumber.ofSingle (narrow x) = BinaryFormat.single.signed negative magnitude := by
  have positive := BinaryFormat.double.one_pos
  have counts : (quanta / BinaryFormat.double.one : ℚ) * BinaryFormat.single.one =
      (quanta * BinaryFormat.single.one : ℕ) / BinaryFormat.double.one := by
    push_cast
    exact div_mul_eq_mul_div ..
  have rounds := BinaryFormat.rounds_nearest (by decide) positive counts
  refine ⟨_, rounds, ?_⟩
  rw [narrow, holds]
  exact ofSingle_packed negative rounds.bounded

end ThemeMotion
