import ThemeMotion.Css.Name

/-!
# Strings, addresses and comments in CSS text

Each reader starts behind the opening mark and gives the decoded text with what
follows the closing one. The end of the text closes everything. A newline breaks a
string off, and a character that an unquoted address may not hold spoils the whole
address up to its closing parenthesis.
-/

namespace ThemeMotion.Css

/-- A string up to its quote: whether it is complete, its text and what follows. An escaped
newline stands for nothing. -/
def quotedText (quote : Char) : List Char → Bool × List Char × List Char
  | [] => (true, [], [])
  | c :: rest =>
    if isNewline c then (false, [], c :: rest)
    else if c = quote then (true, [], rest)
    else if c = '\\' then
      if rest.isEmpty then (true, [], [])
      else if startsNewline rest then
        quotedText quote (dropSpace rest)
      else
        let (complete, text, after) := quotedText quote (escape rest).2
        (complete, (escape rest).1 :: text, after)
    else
      let (complete, text, after) := quotedText quote rest
      (complete, (if c = '\x00' then replacement else c) :: text, after)
termination_by text => text.length
decreasing_by
  · have shorter := dropSpace_length_le rest
    simp only [List.length_cons]
    omega
  · have shorter := escape_length_le rest
    simp only [List.length_cons]
    omega
  · simp

/-- What follows a string is no longer than the text. -/
theorem quotedText_length_le (quote : Char) (text : List Char) :
    (quotedText quote text).2.2.length ≤ text.length := by
  fun_induction quotedText quote text <;> grind [escape_length_le, dropSpace_length_le]

/-- What follows a comment, or nothing when it is not closed. -/
def afterComment : List Char → List Char
  | '*' :: '/' :: rest => rest
  | _ :: rest => afterComment rest
  | [] => []

/-- What follows a comment is no longer than the text. -/
theorem afterComment_length_le (text : List Char) : (afterComment text).length ≤ text.length := by
  fun_induction afterComment text <;> grind

/-- The text without the comments at its front. -/
def dropComments : List Char → List Char
  | '/' :: '*' :: rest => dropComments (afterComment rest)
  | text => text
termination_by text => text.length
decreasing_by
  have shorter := afterComment_length_le rest
  simp only [List.length_cons]
  omega

/-- Dropping comments does not lengthen a text. -/
theorem dropComments_length_le (text : List Char) : (dropComments text).length ≤ text.length := by
  fun_induction dropComments text <;> grind [afterComment_length_le]

/-- Characters that an unquoted address may not hold. -/
def spoilsUrl (c : Char) : Bool :=
  c == '"' || c == '\'' || c == '(' || c == '\x0b' || c == '\x7f' ||
    ('\x01' ≤ c && c ≤ '\x08') || ('\x0e' ≤ c && c ≤ '\x1f')

/-- What is left of a spoilt address: from its closing parenthesis on. An escaped
parenthesis or backslash does not count. -/
def closingParenthesis : List Char → List Char
  | [] => []
  | ')' :: rest => ')' :: rest
  | '\\' :: ')' :: rest => closingParenthesis rest
  | '\\' :: '\\' :: rest => closingParenthesis rest
  | _ :: rest => closingParenthesis rest

/-- Seeking the closing parenthesis does not lengthen a text. -/
theorem closingParenthesis_length_le (text : List Char) :
    (closingParenthesis text).length ≤ text.length := by
  fun_induction closingParenthesis text <;> grind

/-- The end of an address after a blank: only blanks and the parenthesis may follow.
The flag tells whether the address is sound. -/
def urlEnd : List Char → Bool × List Char
  | [] => (true, [])
  | c :: rest =>
    if c = ')' then (true, rest)
    else if isSpace c then urlEnd rest
    else (false, rest)

/-- What follows an address is no longer than the text. -/
theorem urlEnd_length_le (text : List Char) : (urlEnd text).2.length ≤ text.length := by
  fun_induction urlEnd text <;> grind

/-- An address up to its end: whether it is sound, its text, and what follows it or,
in a spoilt one, the character that spoilt it. -/
def urlText : List Char → Bool × List Char × List Char
  | [] => (true, [], [])
  | c :: rest =>
    if isSpace c then ((urlEnd rest).1, [], (urlEnd rest).2)
    else if c = ')' then (true, [], rest)
    else if spoilsUrl c then (false, [], rest)
    else if c = '\\' then
      if startsNewline rest then (false, [], rest)
      else
        let (sound, text, after) := urlText (escape rest).2
        (sound, (escape rest).1 :: text, after)
    else
      let (sound, text, after) := urlText rest
      (sound, (if c = '\x00' then replacement else c) :: text, after)
termination_by text => text.length
decreasing_by
  · have shorter := escape_length_le rest
    simp only [List.length_cons]
    omega
  · simp

/-- What follows an address is no longer than the text. -/
theorem urlText_length_le (text : List Char) : (urlText text).2.2.length ≤ text.length := by
  fun_induction urlText text <;> grind [escape_length_le, urlEnd_length_le]

end ThemeMotion.Css
