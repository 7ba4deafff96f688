import Mathlib.Algebra.Order.Ring.Nat
import ThemeMotion.Proofs.Css.Scanning

/-!
# What a name takes of a text

Each character of a decoded name comes from at least one character of the text, and one
that could not stand in a name by itself from two, the first of which is a backslash. Blanks
do not count as characters here, since an escape may take one along or stand for one.
-/

namespace ThemeMotion.Css

/-- The number of characters that are no blanks. -/
def solid (text : List Char) : Nat := text.countP fun c => !isSpace c

/-- The number of characters that a name has only by an escape. -/
def foreign (text : List Char) : Nat := text.countP fun c => !isNameChar c

/-- What a decoded name takes of a text at least. -/
def weight (decoded : List Char) : Nat := solid decoded + foreign decoded

@[simp]
theorem solid_append (first second : List Char) :
    solid (first ++ second) = solid first + solid second := List.countP_append

@[simp]
theorem foreign_append (first second : List Char) :
    foreign (first ++ second) = foreign first + foreign second := List.countP_append

/-- The first character counts by itself. -/
theorem solid_cons (c : Char) (rest : List Char) : solid (c :: rest) = solid [c] + solid rest :=
  solid_append [c] rest

/-- A name without foreign characters is ordinary. -/
theorem foreign_eq_zero_iff (text : List Char) :
    foreign text = 0 ↔ ∀ c ∈ text, isNameChar c = true := by
  simp [foreign, List.countP_eq_zero]

/-- The first character has a weight by itself. -/
theorem weight_cons (c : Char) (rest : List Char) :
    weight (c :: rest) = weight [c] + weight rest := by
  have foreign_cons : foreign (c :: rest) = foreign [c] + foreign rest := foreign_append [c] rest
  rw [weight, weight, weight, solid_cons, foreign_cons]
  omega

/-- No character needs more than a backslash and itself. -/
theorem weight_singleton_le (c : Char) : weight [c] ≤ solid [c] + 1 :=
  Nat.add_le_add_left List.countP_le_length _

/-- A single character is solid at most once. -/
theorem solid_singleton_le (c : Char) : solid [c] ≤ 1 := List.countP_le_length

/-- An ordinary character takes itself. -/
theorem weight_ordinary {c : Char} (ordinary : isNameChar c = true) : weight [c] = solid [c] := by
  simp [weight, foreign, ordinary]

/-- A part at the end of a text has no more solid characters. -/
theorem solid_suffix_le {after text : List Char} (suffix : after <:+ text) :
    solid after ≤ solid text := suffix.sublist.countP_le

/-- A hexadecimal run ends within the text. -/
theorem hexRun_suffix (count number : Nat) (text : List Char) :
    (hexRun count number text).2 <:+ text := by
  induction count generalizing number text with
  | zero => exact List.suffix_rfl
  | succ count inductionHypothesis =>
    cases text with
    | nil => exact List.suffix_rfl
    | cons c rest =>
      simp only [hexRun]
      split
      · exact (inductionHypothesis _ rest).trans (List.suffix_cons c rest)
      · exact List.suffix_rfl

/-- What follows a blank ends the text. -/
theorem dropSpace_suffix (text : List Char) : dropSpace text <:+ text := by
  fun_cases dropSpace text with
  | case1 rest => exact (List.suffix_cons _ rest).trans (List.suffix_cons _ _)
  | case2 => exact List.suffix_cons _ _
  | case3 => exact List.suffix_rfl
  | case4 => exact List.suffix_rfl

/-- A hexadecimal digit is solid. -/
theorem hexValue_solid {c : Char} (digit : (Decimal.hexValue? c).isSome = true) :
    solid [c] = 1 := by
  have blanks : ∀ blank ∈ ['\n', '\r', '\x0c', ' ', '\t'], Decimal.hexValue? blank = none := by
    simp only [List.mem_cons, List.not_mem_nil, or_false, forall_eq_or_imp, forall_eq]
    decide
  have plain : isSpace c = false := by
    cases space : isSpace c with
    | false => rfl
    | true =>
      have member : c ∈ ['\n', '\r', '\x0c', ' ', '\t'] := by
        simpa [isSpace, isNewline, or_assoc] using space
      rw [blanks c member] at digit
      cases digit
  simp [solid, plain]

/-- Together with its backslash an escape takes what its character needs. -/
theorem escape_taken (text : List Char) :
    ∃ taken, text = taken ++ (escape text).2 ∧ weight [(escape text).1] ≤ solid taken + 1 := by
  cases text with
  | nil => exact ⟨[], rfl, by decide⟩
  | cons c rest =>
    simp only [escape]
    split
    · next digit =>
      obtain ⟨value, known⟩ := Option.isSome_iff_exists.mp digit
      have run : (hexRun 6 0 (c :: rest)).2 <:+ rest := by
        rw [hexRun, known]
        exact hexRun_suffix _ _ rest
      obtain ⟨further, same⟩ := (dropSpace_suffix _).trans run
      refine ⟨c :: further, by rw [List.cons_append, same], ?_⟩
      have needed := weight_singleton_le (codePoint (hexRun 6 0 (c :: rest)).1)
      have single := solid_singleton_le (codePoint (hexRun 6 0 (c :: rest)).1)
      have first := hexValue_solid digit
      rw [solid_cons]
      show weight [codePoint (hexRun 6 0 (c :: rest)).1] ≤ _
      omega
    · split
      · exact ⟨[c], rfl, Nat.le_add_left 1 _⟩
      · exact ⟨[c], rfl, weight_singleton_le c⟩

/-- A name takes what its decoded characters need. -/
theorem name_taken (text : List Char) :
    ∃ taken, text = taken ++ (name text).2 ∧ weight (name text).1 ≤ solid taken := by
  fun_induction name text with
  | case1 => exact ⟨[], rfl, Nat.zero_le _⟩
  | case2 => exact ⟨[], rfl, Nat.zero_le _⟩
  | case3 rest closed decoded after read inductionHypothesis =>
    rw [read] at inductionHypothesis
    obtain ⟨escaped, same, first⟩ := escape_taken rest
    obtain ⟨further, same', others⟩ := inductionHypothesis
    have backslash : solid ['\\'] = 1 := rfl
    refine ⟨'\\' :: (escaped ++ further), ?_, ?_⟩
    · rw [List.cons_append, List.append_assoc, ← same', ← same]
    · calc weight ((escape rest).1 :: decoded)
          = weight [(escape rest).1] + weight decoded := weight_cons _ _
        _ ≤ (solid escaped + 1) + solid further := Nat.add_le_add first others
        _ = solid ('\\' :: (escaped ++ further)) := by
          rw [solid_cons, solid_append, backslash]
          omega
  | case4 rest decoded after read _ inductionHypothesis =>
    rw [read] at inductionHypothesis
    obtain ⟨further, same, others⟩ := inductionHypothesis
    have first : weight [replacement] = solid ['\x00'] := rfl
    refine ⟨'\x00' :: further, by rw [List.cons_append, ← same], ?_⟩
    rw [weight_cons, solid_cons]
    exact Nat.add_le_add first.le others
  | case5 c rest _ _ ordinary decoded after read inductionHypothesis =>
    rw [read] at inductionHypothesis
    obtain ⟨further, same, others⟩ := inductionHypothesis
    have first := weight_ordinary ordinary
    refine ⟨c :: further, by rw [List.cons_append, ← same], ?_⟩
    rw [weight_cons, solid_cons]
    exact Nat.add_le_add first.le others
  | case6 => exact ⟨[], rfl, Nat.zero_le _⟩

/-- A hyphen or what opens a name goes on with a name, in which a null character is
replaced. -/
theorem name_cons {c : Char} (rest : List Char) (opens : c = '-' ∨ isNameStart c = true) :
    ∃ first, (name (c :: rest)).1 = first :: (name rest).1 ∧
      (c = '-' ∧ first = '-' ∨ isNameStart first = true) := by
  have solid : c ≠ '\\' := by
    rintro rfl
    revert opens
    decide
  by_cases null : c = '\x00'
  · refine ⟨replacement, ?_, .inr rfl⟩
    rw [name, if_neg solid, if_pos null]
  · have ordinary : isNameChar c = true := by
      rcases opens with rfl | opens
      · rfl
      · have plain : (c == '\x00') = false := by simp [null]
        simp only [isNameStart, plain, Bool.or_false] at opens
        simp only [isNameChar, Char.isAlphanum]
        grind
    refine ⟨c, ?_, opens.imp_left fun hyphen => ⟨hyphen, hyphen⟩⟩
    rw [name, if_neg solid, if_neg null, if_pos ordinary]

/-- Without a backslash, what begins as an identifier is decoded to what begins as one. -/
theorem name_opens {text : List Char} (opens : startsIdent text = true) (plain : '\\' ∉ text) :
    startsIdent (name text).1 = true := by
  unfold startsIdent at opens
  split at opens
  · cases opens
  · exact absurd List.mem_cons_self plain
  · exact absurd (List.mem_cons_of_mem _ List.mem_cons_self) plain
  · next second behind _ =>
    have opens : second = '-' ∨ isNameStart second = true := by simpa using opens
    obtain ⟨first, same, ⟨-, rfl⟩ | started⟩ := name_cons (second :: behind) (.inl rfl)
    · obtain ⟨next, same', kind⟩ := name_cons behind opens
      rw [same, same', startsIdent]
      · rcases kind with ⟨-, rfl⟩ | started
        · rfl
        · simp [started]
      · rintro rfl
        rcases kind with ⟨-, hyphen⟩ | started
        · cases hyphen
        · cases started
    · rw [same]
      exact startsIdent_cons _ started
  · next c rest _ _ _ =>
    obtain ⟨first, same, ⟨rfl, rfl⟩ | started⟩ := name_cons rest (.inr opens)
    · cases opens
    · rw [same]
      exact startsIdent_cons _ started

/-- A sign is part of the text. -/
theorem splitSign_taken (text : List Char) : ∃ sign, text = sign ++ (splitSign text).2 := by
  fun_cases splitSign text with
  | case1 rest => exact ⟨['-'], rfl⟩
  | case2 rest => exact ⟨['+'], rfl⟩
  | case3 => exact ⟨[], rfl⟩

/-- Without a fraction nothing is taken. -/
theorem splitFraction_none {text : List Char} (lacking : (splitFraction text).1 = none) :
    (splitFraction text).2 = text := by
  fun_cases splitFraction text with
  | case1 rest digit =>
    rw [splitFraction, if_pos digit] at lacking
    cases lacking
  | case2 => rfl
  | case3 => rfl

/-- Without an exponent nothing is taken. -/
theorem splitExponent_none {text : List Char} (lacking : (splitExponent text).1 = none) :
    (splitExponent text).2 = text := by
  cases text with
  | nil => rfl
  | cons c rest =>
    simp only [splitExponent] at lacking ⊢
    split at lacking
    · cases lacking
    · next alone => rw [if_neg alone]

/-- Digits are solid. -/
theorem solid_digits {text : List Char} (digit : ∀ c ∈ text, c.isDigit = true) :
    solid text = text.length := by
  refine List.countP_eq_length.mpr fun c member => ?_
  have marks := digit_not_mark (digit c member)
  simp only [List.mem_cons, List.not_mem_nil, or_false, not_or] at marks
  simp [isSpace, isNewline, marks]

/-- An integer held within 32 bits has no more digits than the number it is held for. -/
theorem held_digits_le {size places : Nat} (negative : Bool) (positive : 0 < places)
    (bound : size < 10 ^ places) :
    (Decimal.digits (Word.heldSigned (if negative then -(size : Int) else size)).toInt.toNat).length
      ≤ places := by
  refine Decimal.digits_length_le positive ?_
  have held (n : Int) : (Word.heldSigned n).toInt = max (-0x80000000) (min n 0x7FFFFFFF) :=
    Int32.toInt_ofInt_of_le (by omega) (by omega)
  rw [held]
  cases negative <;> simp only [Bool.false_eq_true, ↓reduceIte] <;> omega

/-- A number without fraction and exponent takes the digits of its integer. -/
theorem numeric_taken {text : List Char} {n : Int32} (opens : startsNumber text = true)
    (whole : (numeric text).1.integer = some n) :
    ∃ taken, text = taken ++ (numeric text).2 ∧
      (Decimal.digits n.toInt.toNat).length ≤ solid taken := by
  obtain ⟨sign, same⟩ := splitSign_taken text
  unfold startsNumber at opens
  unfold numeric at whole ⊢
  dsimp only at whole ⊢
  generalize splitSign text = split at *
  obtain ⟨signed, unsigned⟩ := split
  dsimp only at *
  split at whole
  · next lacking =>
    have fraction := Option.isNone_iff_eq_none.mp lacking.1
    have exponent := Option.isNone_iff_eq_none.mp lacking.2
    have digit : ∀ c ∈ (splitDigits unsigned).1, c.isDigit = true := fun c member =>
      List.mem_takeWhile_imp member
    have first : startsDigit unsigned = true := by
      unfold startsFraction at opens
      split at opens
      · next rest =>
        have undone : (splitFraction ('.' :: rest)).1 = none := fraction
        rw [splitFraction, if_pos opens] at undone
        cases undone
      · exact opens
    have positive : 0 < (splitDigits unsigned).1.length := by
      cases unsigned with
      | nil => cases first
      | cons c rest =>
        have digit : c.isDigit = true := first
        simp [splitDigits, digit]
    rw [splitExponent_none exponent, splitFraction_none fraction]
    refine ⟨sign ++ (splitDigits unsigned).1, ?_, ?_⟩
    · rw [List.append_assoc, splitDigits, List.takeWhile_append_dropWhile, same]
    · rw [← Option.some.inj whole, solid_append, solid_digits digit]
      exact Nat.le_add_left_of_le
        (held_digits_le _ positive (Decimal.value_lt _ digit))
  · cases whole

end ThemeMotion.Css
