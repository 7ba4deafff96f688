import ThemeMotion.Json.Quoted

/-!
# Strings that read back

A character is read back from its writing, whatever follows: from itself, from its short
escape, or as a control character from the four digits of its unit. By induction on the
text, a string is read back up to its closing quote.
-/

namespace ThemeMotion.Json

open Decimal (hexChar hexDigits hexValue?)

/-- The character of a digit has the digit as its value. -/
theorem hexValue?_hexChar {digit : Nat} (single : digit < 16) :
    hexValue? (hexChar digit) = some digit := by
  have every : ∀ digit < 16, hexValue? (hexChar digit) = some digit := by decide
  exact every digit single

/-- A unit is read back from its four digits. -/
theorem unit?_hexDigits {unit : Nat} (fits : unit < 0x10000) :
    unit? (hexDigits 4 unit) = some unit := by
  have digits : hexDigits 4 unit =
      [hexChar (unit / 16 / 16 / 16 % 16), hexChar (unit / 16 / 16 % 16),
        hexChar (unit / 16 % 16), hexChar (unit % 16)] := rfl
  have below (n : Nat) : n % 16 < 16 := Nat.mod_lt n (by decide)
  simp only [unit?, digits, List.mapM_cons, List.mapM_nil, hexValue?_hexChar (below _),
    Option.bind_eq_bind, Option.bind_some, Option.pure_def, Option.map_some, List.foldl_cons,
    List.foldl_nil, Option.some.injEq]
  omega

/-- A unit below the surrogates is a character. -/
theorem letterOfUnit_toNat {c : Char} (low : c.toNat < 0xD800) :
    letterOfUnit c.toNat = .char c := by
  have first : isFirstHalf c.toNat = false := by
    simp [isFirstHalf, Nat.not_le.mpr low]
  have second : isSecondHalf c.toNat = false := by
    simp [isSecondHalf, Nat.not_le.mpr (Nat.lt_trans low (by decide : 0xD800 < 0xDC00))]
  simp [letterOfUnit, first, second, Char.ofNat_toNat]

/-- An escaped unit is read as its letter. -/
theorem units?_unitEscape {unit : Nat} (fits : unit < 0x10000) (rest : List Char) :
    units? (unitEscape unit ++ rest) =
      (units? rest).map fun found => (letterOfUnit unit :: found.1, found.2) := by
  have read : units? (unitEscape unit ++ rest) =
      (unit? (hexDigits 4 unit) >>= fun unit =>
        units? rest >>= fun found => some (letterOfUnit unit :: found.1, found.2)) := rfl
  rw [read, unit?_hexDigits fits]
  exact (Option.map_eq_bind ..).symm

/-- A character that stands for itself is read as it is. -/
theorem units?_plain {c : Char} (plain : ¬ c < ' ') (quote : c ≠ '"') (backslash : c ≠ '\\')
    (rest : List Char) :
    units? (c :: rest) = (units? rest).map fun found => (.char c :: found.1, found.2) := by
  rw [units?, if_neg (not_or.mpr ⟨plain, backslash⟩)]
  · exact (Option.map_eq_bind ..).symm
  · exact quote
  · intro _ _ _ _ _ escaped
    exact absurd escaped backslash
  · intro _ _ escaped
    exact absurd escaped backslash

/-- A short escape is read as its character. -/
theorem units?_escaped {e c : Char} (short : escaped? e = some c) (rest : List Char) :
    units? ('\\' :: e :: rest) =
      (units? rest).map fun found => (.char c :: found.1, found.2) := by
  have noUnit : e ≠ 'u' := by
    rintro rfl
    cases short
  rw [units?, short]
  · exact (Option.map_eq_bind ..).symm
  · intro _ _ _ _ _ unit
    exact absurd unit noUnit

/-- A character is read back from its writing. -/
theorem units?_writeChar (c : Char) (rest : List Char) :
    units? (writeChar c ++ rest) =
      (units? rest).map fun found => (.char c :: found.1, found.2) := by
  unfold writeChar
  split
  case h_8 quote backslash _ _ _ _ _ =>
    split
    · next control =>
      have low : c.toNat < 0x20 := control
      rw [units?_unitEscape (by omega), letterOfUnit_toNat (by omega)]
    · next plain => exact units?_plain plain quote backslash rest
  all_goals exact units?_escaped rfl rest

/-- Letters without halves stay as they are. -/
theorem joinHalves_map_char (text : List Char) :
    joinHalves (text.map .char) = text.map .char := by
  induction text with
  | nil => rfl
  | cons c rest inductionHypothesis =>
    exact congrArg (Letter.char c :: ·) inductionHypothesis

/-- The writings of characters are read back up to the closing quote. -/
theorem units?_flatMap (text rest : List Char) :
    units? ((text.map Letter.char).flatMap writeLetter ++ '"' :: rest) =
      some (text.map .char, rest) := by
  induction text with
  | nil => rfl
  | cons c text inductionHypothesis =>
    have first : ((c :: text).map Letter.char).flatMap writeLetter ++ '"' :: rest =
        writeChar c ++ ((text.map Letter.char).flatMap writeLetter ++ '"' :: rest) :=
      List.append_assoc ..
    rw [first, units?_writeChar, inductionHypothesis]
    rfl

/-- A text is read back from its quoted form, after the opening quote. -/
theorem unquote?_letters (text : String) (rest : List Char) :
    unquote? ((letters text).flatMap writeLetter ++ '"' :: rest) = some (letters text, rest) := by
  unfold unquote? letters
  rw [units?_flatMap]
  exact congrArg (fun letters => some (letters, rest)) (joinHalves_map_char text.toList)

end ThemeMotion.Json
