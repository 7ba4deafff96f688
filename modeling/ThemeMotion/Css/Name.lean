import ThemeMotion.Decimal.Whole

/-!
# Names in CSS text

A name consists of letters, digits, hyphens, underscores and characters beyond
ASCII; a backslash brings in any character, by itself or by its hexadecimal code
point. Reading a name gives its decoded text and what follows it. Every reader here
leaves a rest that is no longer than its input, which is what the scan of a whole
text needs to end.
-/

namespace ThemeMotion.Css

/-- What stands for a character that cannot be. -/
def replacement : Char := '\uFFFD'

/-- Line feed, carriage return and form feed. -/
def isNewline (c : Char) : Bool := c == '\n' || c == '\r' || c == '\x0c'

/-- Newlines, space and tabulator. -/
def isSpace (c : Char) : Bool := isNewline c || c == ' ' || c == '\t'

/-- Characters that open a name without a hyphen or a backslash. -/
def isNameStart (c : Char) : Bool := c.isAlpha || c == '_' || c == '\x00' || 128 ≤ c.toNat

/-- Characters that continue a name as they are. -/
def isNameChar (c : Char) : Bool := c.isAlphanum || c == '_' || c == '-' || 128 ≤ c.toNat

/-- The text begins with a newline. -/
def startsNewline : List Char → Bool
  | [] => false
  | c :: _ => isNewline c

/-- The text begins with an identifier. After a hyphen a backslash always opens one,
also when the backslash itself then breaks off at a newline. -/
def startsIdent : List Char → Bool
  | [] => false
  | '\\' :: rest => !startsNewline rest
  | '-' :: '\\' :: _ => true
  | '-' :: c :: _ => c == '-' || isNameStart c
  | c :: _ => isNameStart c

/-- The text begins with a digit. -/
def startsDigit : List Char → Bool
  | [] => false
  | c :: _ => c.isDigit

/-- The text begins with a digit, or with a point and a digit. -/
def startsFraction : List Char → Bool
  | '.' :: rest => startsDigit rest
  | text => startsDigit text

/-- The character of a code point; zero, surrogates and numbers past the last code
point have none. -/
def codePoint (n : Nat) : Char :=
  if n ≠ 0 ∧ n.isValidChar then Char.ofNat n else replacement

/-- Hexadecimal digits at the front, at most the given count of them, as a number on
top of the one read so far. -/
def hexRun : (count number : Nat) → List Char → Nat × List Char
  | count + 1, number, c :: rest =>
    match Decimal.hexValue? c with
    | some digit => hexRun count (16 * number + digit) rest
    | none => (number, c :: rest)
  | _, number, text => (number, text)

/-- The text without one leading blank; a carriage return and line feed are one. -/
def dropSpace : List Char → List Char
  | '\r' :: '\n' :: rest => rest
  | c :: rest => if isSpace c then rest else c :: rest
  | [] => []

/-- The character that an escape stands for, read after its backslash. -/
def escape : List Char → Char × List Char
  | [] => (replacement, [])
  | c :: rest =>
    if (Decimal.hexValue? c).isSome then
      let (number, after) := hexRun 6 0 (c :: rest)
      (codePoint number, dropSpace after)
    else if c = '\x00' then (replacement, rest)
    else (c, rest)

/-- What follows a hexadecimal run is no longer than the text. -/
theorem hexRun_length_le (count number : Nat) (text : List Char) :
    (hexRun count number text).2.length ≤ text.length := by
  induction count generalizing number text with
  | zero => simp [hexRun]
  | succ count inductionHypothesis =>
    cases text with
    | nil => simp [hexRun]
    | cons c rest =>
      simp only [hexRun]
      split
      · exact Nat.le_succ_of_le (inductionHypothesis _ rest)
      · simp

/-- Dropping a blank does not lengthen a text. -/
theorem dropSpace_length_le (text : List Char) : (dropSpace text).length ≤ text.length := by
  fun_cases dropSpace text <;> grind

/-- What follows an escape is no longer than the text after its backslash. -/
theorem escape_length_le (text : List Char) :
    (escape text).2.length ≤ text.length := by
  cases text with
  | nil => simp [escape]
  | cons c rest =>
    simp only [escape]
    split
    · exact Nat.le_trans (dropSpace_length_le _) (hexRun_length_le 6 0 (c :: rest))
    · split <;> simp

/-- The name at the front of a text, decoded, and what follows it. -/
def name : List Char → List Char × List Char
  | [] => ([], [])
  | c :: rest =>
    if c = '\\' then
      if startsNewline rest then ([], c :: rest)
      else
        let (decoded, after) := name (escape rest).2
        ((escape rest).1 :: decoded, after)
    else if c = '\x00' then
      let (decoded, after) := name rest
      (replacement :: decoded, after)
    else if isNameChar c then
      let (decoded, after) := name rest
      (c :: decoded, after)
    else ([], c :: rest)
termination_by text => text.length
decreasing_by
  · have shorter := escape_length_le rest
    simp only [List.length_cons]
    omega
  all_goals simp

/-- What follows a name is no longer than the text. -/
theorem name_length_le (text : List Char) : (name text).2.length ≤ text.length := by
  fun_induction name text <;> grind [escape_length_le]

/-- The name of an identifier takes at least one character. -/
theorem name_length_lt (text : List Char) (opened : startsIdent text = true) :
    (name text).2.length < text.length := by
  cases text with
  | nil => simp [startsIdent] at opened
  | cons c rest =>
    have shorter := name_length_le rest
    have afterEscape := name_length_le (escape rest).2
    have escaped := escape_length_le rest
    rw [name]
    split
    · next backslash =>
      subst backslash
      simp only [startsIdent, Bool.not_eq_eq_eq_not, Bool.not_true] at opened
      simp only [opened, Bool.false_eq_true, ↓reduceIte, List.length_cons]
      omega
    · split
      · simp only [List.length_cons]
        omega
      · split
        · simp only [List.length_cons]
          omega
        · next backslash null ordinary =>
          exfalso
          have notHyphen : c ≠ '-' := by
            rintro rfl
            exact ordinary (by decide)
          have start : isNameStart c = true := by
            unfold startsIdent at opened
            split at opened <;> simp_all
          simp only [isNameStart, isNameChar, Char.isAlphanum] at start ordinary
          grind

end ThemeMotion.Css
