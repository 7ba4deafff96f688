import Mathlib.Algebra.Group.Nat.Defs
import Mathlib.Data.List.Induction
import ThemeMotion.Decimal.Whole

/-!
# Digits of a number

The decimal digits of a number are digit characters, at least one of them, and denote the
number again. No text with as few digits denotes a larger number than its length allows.
-/

namespace ThemeMotion.Decimal

/-- The character of a digit is a digit character and has the digit as its value. -/
theorem digitChar_spec {digit : Nat} (single : digit < 10) :
    (digitChar digit).isDigit = true ∧ digitValue (digitChar digit) = digit := by
  have every : ∀ digit < 10,
      (digitChar digit).isDigit = true ∧ digitValue (digitChar digit) = digit := by decide
  exact every digit single

/-- One more digit at the end counts ones. -/
theorem value_concat (text : List Char) (c : Char) :
    value (text ++ [c]) = 10 * value text + digitValue c := by
  unfold value
  rw [List.foldl_append, List.foldl_cons, List.foldl_nil]

/-- The digits of a number denote it. -/
theorem value_digits (n : Nat) : value (digits n) = n := by
  fun_induction digits n with
  | case1 n single => exact (Nat.zero_add _).trans (digitChar_spec single).2
  | case2 n several inductionHypothesis =>
    have last : n % 10 < 10 := Nat.mod_lt n (by decide)
    rw [value_concat, inductionHypothesis, (digitChar_spec last).2]
    omega

/-- Digits are digit characters. -/
theorem digits_isDigit (n : Nat) : ∀ c ∈ digits n, c.isDigit = true := by
  fun_induction digits n with
  | case1 n single =>
    intro c member
    obtain rfl := List.mem_singleton.mp member
    exact (digitChar_spec single).1
  | case2 n several inductionHypothesis =>
    intro c member
    rcases List.mem_append.mp member with earlier | last
    · exact inductionHypothesis c earlier
    · obtain rfl := List.mem_singleton.mp last
      exact (digitChar_spec (Nat.mod_lt n (by decide))).1

/-- A number has a digit. -/
theorem digits_ne_nil (n : Nat) : digits n ≠ [] := by
  rw [digits]
  split <;> simp

/-- A number begins with a digit. -/
theorem digits_front (n : Nat) :
    ∃ first others, digits n = first :: others ∧ first.isDigit = true := by
  obtain ⟨first, others, front⟩ := List.exists_cons_of_ne_nil (digits_ne_nil n)
  exact ⟨first, others, front, digits_isDigit n first (front ▸ List.mem_cons_self)⟩

/-- No other digit follows a zero in front. -/
theorem digits_zero {n : Nat} {rest : List Char} (zero : digits n = '0' :: rest) : rest = [] := by
  fun_induction digits n generalizing rest with
  | case1 n single => exact (List.cons.inj zero).2.symm
  | case2 n several inductionHypothesis =>
    obtain ⟨first, others, front, _⟩ := digits_front (n / 10)
    rw [front, List.cons_append] at zero
    obtain ⟨rfl, _⟩ := List.cons.inj zero
    obtain rfl := inductionHypothesis front
    have none : n / 10 = 0 := (value_digits (n / 10)).symm.trans (congrArg value front)
    omega

/-- The digit characters are those between the codes of zero and nine. -/
theorem isDigit_iff (c : Char) : c.isDigit = true ↔ 48 ≤ c.toNat ∧ c.toNat ≤ 57 := by
  simp only [Char.isDigit, Bool.and_eq_true, decide_eq_true_eq]
  exact Iff.rfl

/-- The value of a digit character is below ten. -/
theorem digitValue_lt {c : Char} (digit : c.isDigit = true) : digitValue c < 10 := by
  have upper := ((isDigit_iff c).mp digit).2
  unfold digitValue
  omega

/-- A text of digits denotes a number below the power of ten with as many zeros. -/
theorem value_lt (text : List Char) (digit : ∀ c ∈ text, c.isDigit = true) :
    value text < 10 ^ text.length := by
  induction text using List.reverseRecOn with
  | nil => decide
  | append_singleton text c inductionHypothesis =>
    have earlier := inductionHypothesis fun other member =>
      digit other (List.mem_append_left _ member)
    have last := digitValue_lt (digit c (List.mem_append_right _ (List.mem_singleton_self c)))
    rw [value_concat, List.length_append, List.length_singleton, Nat.pow_succ]
    omega

/-- A number below a power of ten has no more digits than the power has zeros. -/
theorem digits_length_le {n places : Nat} (positive : 0 < places) (bound : n < 10 ^ places) :
    (digits n).length ≤ places := by
  induction places generalizing n with
  | zero => cases positive
  | succ places inductionHypothesis =>
    rw [digits]
    split
    · exact Nat.succ_le_succ (Nat.zero_le places)
    · next several =>
      have rest : n / 10 < 10 ^ places := by
        rw [Nat.pow_succ] at bound
        omega
      have further : 0 < places := by
        rcases Nat.eq_zero_or_pos places with rfl | further
        · omega
        · exact further
      rw [List.length_append]
      exact Nat.succ_le_succ (inductionHypothesis further rest)

end ThemeMotion.Decimal
