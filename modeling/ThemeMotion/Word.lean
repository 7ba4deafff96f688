/-!
# Integers that fit a machine word

Property values live in words of 32 or 64 bits. An integer enters a word only
when the word's range holds it; nothing wraps.
-/

namespace ThemeMotion.Word

/-- The signed 64-bit word of an integer from `-2^63` to `2^63 - 1`. -/
def int64? (n : Int) : Option Int64 :=
  if -0x8000000000000000 ≤ n ∧ n ≤ 0x7FFFFFFFFFFFFFFF then some (Int64.ofInt n) else none

/-- The unsigned 64-bit word of an integer from zero to `2^64 - 1`. -/
def uint64? (n : Int) : Option UInt64 :=
  if 0 ≤ n ∧ n ≤ 0xFFFFFFFFFFFFFFFF then some (UInt64.ofNat n.toNat) else none

/-- The signed 32-bit word of an integer from `-2^31` to `2^31 - 1`. -/
def int32? (n : Int) : Option Int32 :=
  if -0x80000000 ≤ n ∧ n ≤ 0x7FFFFFFF then some (Int32.ofInt n) else none

/-- The unsigned 32-bit word of an integer from zero to `2^32 - 1`. -/
def uint32? (n : Int) : Option UInt32 :=
  if 0 ≤ n ∧ n ≤ 0xFFFFFFFF then some (UInt32.ofNat n.toNat) else none

/-- The byte of an integer from zero to 255. -/
def uint8? (n : Int) : Option UInt8 :=
  if 0 ≤ n ∧ n ≤ 0xFF then some (UInt8.ofNat n.toNat) else none

/-- A word is given exactly for the integer that it denotes, where words denote integers of
the range only and each integer of the range is denoted by its word. -/
theorem held_eq_some_iff {Word : Type} {low high : Int} (ofInt : Int → Word)
    (toInt : Word → Int) (bound : ∀ word, low ≤ toInt word ∧ toInt word ≤ high)
    (toInt_ofInt : ∀ n, low ≤ n → n ≤ high → toInt (ofInt n) = n)
    (ofInt_toInt : ∀ word, ofInt (toInt word) = word) (n : Int) (word : Word) :
    (if low ≤ n ∧ n ≤ high then some (ofInt n) else none) = some word ↔ n = toInt word := by
  constructor
  · intro found
    split at found
    · next inside =>
      obtain rfl := Option.some.inj found
      exact (toInt_ofInt n inside.1 inside.2).symm
    · cases found
  · rintro rfl
    rw [if_pos (bound word), ofInt_toInt]

/-- Some word is given exactly under the condition for one. -/
theorem exists_held_iff {Word : Type} {inside : Prop} [Decidable inside] {held : Word} :
    (∃ word, (if inside then some held else none) = some word) ↔ inside := by
  split
  · next within => exact iff_of_true ⟨held, rfl⟩ within
  · next outside => simp [outside]

/-- A signed 64-bit word is given exactly for the integer that it denotes. -/
theorem int64?_eq_some (n : Int) (word : Int64) : int64? n = some word ↔ n = word.toInt := by
  refine held_eq_some_iff Int64.ofInt Int64.toInt ?_ ?_ Int64.ofInt_toInt n word
  · intro word
    have lower := word.le_toInt
    have upper := word.toInt_lt
    omega
  · intro n lower upper
    exact Int64.toInt_ofInt_of_le (by omega) (by omega)

/-- The integers that signed 64-bit words denote. -/
theorem exists_int64_iff (n : Int) :
    (∃ word : Int64, n = word.toInt) ↔ -0x8000000000000000 ≤ n ∧ n ≤ 0x7FFFFFFFFFFFFFFF := by
  simp only [← int64?_eq_some]
  exact exists_held_iff

/-- A signed 32-bit word is given exactly for the integer that it denotes. -/
theorem int32?_eq_some (n : Int) (word : Int32) : int32? n = some word ↔ n = word.toInt := by
  refine held_eq_some_iff Int32.ofInt Int32.toInt ?_ ?_ Int32.ofInt_toInt n word
  · intro word
    have lower := word.le_toInt
    have upper := word.toInt_lt
    omega
  · intro n lower upper
    exact Int32.toInt_ofInt_of_le (by omega) (by omega)

section Unsigned

variable {Word : Type} {limit : Nat} (ofNat : Nat → Word) (toNat : Word → Nat)

/-- An unsigned word is given exactly for the natural number that it denotes. -/
theorem held_unsigned_eq_some_iff (bound : ∀ word, toNat word ≤ limit)
    (toNat_ofNat : ∀ n ≤ limit, toNat (ofNat n) = n)
    (ofNat_toNat : ∀ word, ofNat (toNat word) = word) (n : Int) (word : Word) :
    (if 0 ≤ n ∧ n ≤ limit then some (ofNat n.toNat) else none) = some word ↔
      n = toNat word := by
  refine held_eq_some_iff (fun n => ofNat n.toNat) (fun word => (toNat word : Int)) ?_ ?_ ?_ n word
  · intro word
    have upper := bound word
    omega
  · intro n lower upper
    rw [toNat_ofNat n.toNat (by omega)]
    omega
  · intro word
    exact ofNat_toNat word

end Unsigned

/-- An unsigned 64-bit word is given exactly for the integer that it denotes. -/
theorem uint64?_eq_some (n : Int) (word : UInt64) :
    uint64? n = some word ↔ n = word.toNat :=
  held_unsigned_eq_some_iff UInt64.ofNat UInt64.toNat
    (fun word => Nat.le_of_lt_succ word.toNat_lt)
    (fun _ fits => UInt64.toNat_ofNat_of_lt' (Nat.lt_succ_of_le fits))
    (fun _ => UInt64.ofNat_toNat) n word

/-- The integers that unsigned 64-bit words denote. -/
theorem exists_uint64_iff (n : Int) :
    (∃ word : UInt64, n = word.toNat) ↔ 0 ≤ n ∧ n ≤ 0xFFFFFFFFFFFFFFFF := by
  simp only [← uint64?_eq_some]
  exact exists_held_iff

/-- No unsigned 64-bit word is given for integers outside the range. -/
theorem uint64?_eq_none_iff (n : Int) :
    uint64? n = none ↔ n < 0 ∨ 0xFFFFFFFFFFFFFFFF < n := by
  unfold uint64?
  split
  · simp
    omega
  · simp
    omega

/-- An unsigned 32-bit word is given exactly for the integer that it denotes. -/
theorem uint32?_eq_some (n : Int) (word : UInt32) :
    uint32? n = some word ↔ n = word.toNat :=
  held_unsigned_eq_some_iff UInt32.ofNat UInt32.toNat
    (fun word => Nat.le_of_lt_succ word.toNat_lt)
    (fun _ fits => UInt32.toNat_ofNat_of_lt' (Nat.lt_succ_of_le fits))
    (fun _ => UInt32.ofNat_toNat) n word

/-- The integers that unsigned 32-bit words denote. -/
theorem exists_uint32_iff (n : Int) :
    (∃ word : UInt32, n = word.toNat) ↔ 0 ≤ n ∧ n ≤ 0xFFFFFFFF := by
  simp only [← uint32?_eq_some]
  exact exists_held_iff

/-- A byte is given exactly for the integer that it denotes. -/
theorem uint8?_eq_some (n : Int) (byte : UInt8) : uint8? n = some byte ↔ n = byte.toNat :=
  held_unsigned_eq_some_iff UInt8.ofNat UInt8.toNat
    (fun byte => Nat.le_of_lt_succ byte.toNat_lt)
    (fun _ fits => UInt8.toNat_ofNat_of_lt' (Nat.lt_succ_of_le fits))
    (fun _ => UInt8.ofNat_toNat) n byte

/-- An unsigned 32-bit sum, held at the largest word when it does not fit. -/
def saturatingSum (first second : UInt32) : UInt32 :=
  UInt32.ofNat (min (first.toNat + second.toNat) 0xFFFFFFFF)

/-- A held sum denotes the sum or the largest number of a word, whichever is smaller. -/
theorem saturatingSum_toNat (first second : UInt32) :
    (saturatingSum first second).toNat = min (first.toNat + second.toNat) 0xFFFFFFFF := by
  unfold saturatingSum
  exact UInt32.toNat_ofNat_of_lt' (Nat.lt_of_le_of_lt (Nat.min_le_right _ _) (by decide))

/-- An integer held at the nearest end of the signed 32-bit range. -/
def heldSigned (n : Int) : Int32 := Int32.ofInt (max (-0x80000000) (min n 0x7FFFFFFF))

/-- A signed 32-bit sum, held at the nearest end of the range when it does not fit. -/
def saturatingSumSigned (first second : Int32) : Int32 :=
  heldSigned (first.toInt + second.toInt)

/-- A held signed sum denotes the sum, or the end of the range beyond which it lies. -/
theorem saturatingSumSigned_toInt (first second : Int32) :
    (saturatingSumSigned first second).toInt =
      max (-0x80000000) (min (first.toInt + second.toInt) 0x7FFFFFFF) := by
  unfold saturatingSumSigned heldSigned
  exact Int32.toInt_ofInt_of_le (by omega) (by omega)

/-- The greater of two signed words denotes the greater integer. -/
theorem toInt_max (first second : Int32) :
    (max first second).toInt = max first.toInt second.toInt := by
  have greater : max first second = if first ≤ second then second else first := rfl
  rw [greater]
  by_cases ordered : first ≤ second
  · rw [if_pos ordered, Int.max_eq_right (Int32.le_iff_toInt_le.mp ordered)]
  · have reversed : ¬ first.toInt ≤ second.toInt := fun le =>
      ordered (Int32.le_iff_toInt_le.mpr le)
    rw [if_neg ordered, Int.max_eq_left (by omega)]

end ThemeMotion.Word
