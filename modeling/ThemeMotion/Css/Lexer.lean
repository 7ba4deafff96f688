import ThemeMotion.Css.Numeric
import ThemeMotion.Css.Quoted

/-!
# Scanning CSS text into tokens

The longest token at each place is taken. Comments vanish, but a token that follows
one is placed where the comment begins. Columns start at one, restart after each
newline, and count UTF-16 units.
-/

namespace ThemeMotion.Css

/-- A token with the column at which its text, or a comment before it, begins. -/
structure Located (α : Type) where
  content : α
  column : UInt32
deriving DecidableEq, Repr

/-- The address function's token after its parenthesis; a quoted argument makes it a
function like any other. -/
def urlToken (functionName : String) (text : List Char) : Token × List Char :=
  match text.dropWhile isSpace with
  | [] => (.unquotedUrl "", [])
  | c :: rest =>
    if c = '"' ∨ c = '\'' then (.function functionName, text)
    else if c = ')' then (.unquotedUrl "", rest)
    else
      let (sound, address, after) := urlText (c :: rest)
      if sound then (.unquotedUrl (String.ofList address), after)
      else
        let closing := closingParenthesis after
        let spoilt := (c :: rest).take (rest.length + 1 - closing.length)
        (.badUrl (String.ofList spoilt), closing.drop 1)

/-- An identifier, or a function when a parenthesis follows at once. -/
def identToken (text : List Char) : Token × List Char :=
  let (decoded, after) := name text
  let identName := String.ofList decoded
  match after with
  | '(' :: rest =>
    if identName.toList.map Char.toLower = "url".toList then urlToken identName rest
    else (.function identName, rest)
  | _ => (.ident identName, after)

/-- A number, with a percent sign or a unit when one follows at once. -/
def numberToken (text : List Char) : Token × List Char :=
  let (number, after) := numeric text
  match after with
  | '%' :: rest => (.percentage number, rest)
  | _ =>
    if startsIdent after then (.dimension number (String.ofList (name after).1), (name after).2)
    else (.number number, after)

/-- What follows a number sign makes an identifier, another name, or nothing. -/
def hashToken (text : List Char) : Token × List Char :=
  if startsIdent text then (.idHash (String.ofList (name text).1), (name text).2)
  else if startsDigit text ∨ text.head? = some '-' then
    (.hash (String.ofList (name text).1), (name text).2)
  else (.delim '#', text)

/-- A character that opens no name, number or string, with what it joins to. -/
def symbolToken (c : Char) (rest : List Char) : Token × List Char :=
  match c, rest with
  | '#', _ => hashToken rest
  | '@', _ =>
    if startsIdent rest then (.atKeyword (String.ofList (name rest).1), (name rest).2)
    else (.delim '@', rest)
  | '$', '=' :: after => (.suffixMatch, after)
  | '*', '=' :: after => (.substringMatch, after)
  | '^', '=' :: after => (.prefixMatch, after)
  | '|', '=' :: after => (.dashMatch, after)
  | '~', '=' :: after => (.includeMatch, after)
  | '<', '!' :: '-' :: '-' :: after => (.cdo, after)
  | '(', _ => (.parenthesisBlock, rest)
  | ')', _ => (.closeParenthesis, rest)
  | '[', _ => (.squareBracketBlock, rest)
  | ']', _ => (.closeSquareBracket, rest)
  | '\x7b', _ => (.curlyBracketBlock, rest)
  | '\x7d', _ => (.closeCurlyBracket, rest)
  | ':', _ => (.colon, rest)
  | ';', _ => (.semicolon, rest)
  | ',', _ => (.comma, rest)
  | _, _ => (.delim c, rest)

/-- The token that begins with a character, and what follows it. -/
def token (c : Char) (rest : List Char) : Token × List Char :=
  if isSpace c then (.whitespace, rest.dropWhile isSpace)
  else if c = '"' ∨ c = '\'' then
    let (complete, text, after) := quotedText c rest
    let content := String.ofList text
    (if complete then .quotedString content else .badString content, after)
  else if startsNumber (c :: rest) then numberToken (c :: rest)
  else
    match c, rest with
    | '-', '-' :: '>' :: after => (.cdc, after)
    | _, _ => if startsIdent (c :: rest) then identToken (c :: rest) else symbolToken c rest

/-- What follows an address token is no longer than the text. -/
theorem urlToken_length_le (functionName : String) (text : List Char) :
    (urlToken functionName text).2.length ≤ text.length := by
  have spaces := (List.dropWhile_suffix isSpace (l := text)).length_le
  simp only [urlToken]
  split
  · simp
  · next c rest opened =>
    rw [opened, List.length_cons] at spaces
    have address := urlText_length_le (c :: rest)
    have closing := closingParenthesis_length_le (urlText (c :: rest)).2.2
    simp only [List.length_cons] at address
    split
    · exact Nat.le_refl _
    · split
      · simp only
        omega
      · have dropped : ((closingParenthesis (urlText (c :: rest)).2.2).drop 1).length ≤
            (closingParenthesis (urlText (c :: rest)).2.2).length := by simp
        split
        · exact Nat.le_trans address spaces
        · exact Nat.le_trans dropped (Nat.le_trans closing (Nat.le_trans address spaces))

/-- An identifier token takes at least one character. -/
theorem identToken_length_lt (text : List Char) (opened : startsIdent text = true) :
    (identToken text).2.length < text.length := by
  have shorter := name_length_lt text opened
  simp only [identToken]
  split
  · next rest after =>
    rw [after, List.length_cons] at shorter
    split
    · have url := urlToken_length_le (String.ofList (name text).1) rest
      omega
    · simp only
      omega
  · exact shorter

/-- A number token takes at least one character. -/
theorem numberToken_length_lt (text : List Char) (opened : startsNumber text = true) :
    (numberToken text).2.length < text.length := by
  have shorter := numeric_length_lt text opened
  have unit := name_length_le (numeric text).2
  simp only [numberToken]
  split
  · next rest after =>
    rw [after, List.length_cons] at shorter
    simp only
    omega
  · split
    · simp only
      omega
    · exact shorter

/-- What follows a number sign's token is no longer than the text. -/
theorem hashToken_length_le (text : List Char) : (hashToken text).2.length ≤ text.length := by
  have shorter := name_length_le text
  simp only [hashToken]
  split
  · exact shorter
  · split
    · exact shorter
    · exact Nat.le_refl _

/-- What follows a symbol is no longer than the text after its first character. -/
theorem symbolToken_length_le (c : Char) (rest : List Char) :
    (symbolToken c rest).2.length ≤ rest.length := by
  fun_cases symbolToken c rest <;> grind [hashToken_length_le, name_length_le]

/-- A token takes at least one character. -/
theorem token_length_le (c : Char) (rest : List Char) :
    (token c rest).2.length ≤ rest.length := by
  simp only [token]
  split
  · exact (List.dropWhile_suffix isSpace (l := rest)).length_le
  · split
    · exact quotedText_length_le c rest
    · split
      · next opened => exact Nat.le_of_lt_succ (numberToken_length_lt (c :: rest) opened)
      · split
        · simp only [List.length_cons]
          omega
        · split
          · next opened => exact Nat.le_of_lt_succ (identToken_length_lt _ opened)
          · exact symbolToken_length_le c rest

/-- UTF-16 units of a character. -/
def units (c : Char) : UInt32 := if c.toNat < 0x10000 then 1 else 2

/-- The column after some text, from the column before it. -/
def advance (column : UInt32) (text : List Char) : UInt32 :=
  text.foldl (fun column c => if isNewline c then 1 else column + units c) column

/-- The tokens of a text, the first of which begins at the given column. -/
def tokensFrom (column : UInt32) (text : List Char) : List (Located Token) :=
  match _begun : dropComments text with
  | [] => []
  | c :: rest =>
    let (found, after) := token c rest
    let consumed := text.take (text.length - after.length)
    ⟨found, column⟩ :: tokensFrom (advance column consumed) (token c rest).2
termination_by text.length
decreasing_by
  have comments := dropComments_length_le text
  have shorter := token_length_le c rest
  rw [_begun, List.length_cons] at comments
  omega

/-- The tokens of a whole text. -/
def tokens (text : String) : List (Located Token) := tokensFrom 1 text.toList

end ThemeMotion.Css
