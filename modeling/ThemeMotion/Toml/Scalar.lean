import ThemeMotion.Binary
import ThemeMotion.Decimal.Numeral
import ThemeMotion.Toml.Basic

/-!
# TOML scalars

Truth values, numbers, dates and times are written without quotes. Underscores may
stand between digits. An integer fits a signed 64-bit word, a number with a fraction
is not too large for a double, and a date names a day that there is.
-/

namespace ThemeMotion.Toml

/-- Digits with single underscores between them, without the underscores. -/
def plainDigits? (isDigit : Char → Bool) : List Char → Option (List Char)
  | [] => none
  | [c] => if isDigit c then some [c] else none
  | c :: '_' :: rest => if isDigit c then (plainDigits? isDigit rest).map (c :: ·) else none
  | c :: rest => if isDigit c then (plainDigits? isDigit rest).map (c :: ·) else none

/-- The sign in front of a number, and what follows it. -/
def splitSign : List Char → Bool × List Char
  | '-' :: rest => (true, rest)
  | '+' :: rest => (false, rest)
  | text => (false, text)

/-- The digits of a decimal whole number; only zero itself begins with a zero. -/
def wholeDigits? (text : List Char) : Option (List Char) :=
  match plainDigits? Char.isDigit text with
  | some ('0' :: _ :: _) => none
  | found => found

/-- The value of digits of a base. -/
def digitsValue? (base : Nat) (text : List Char) : Option Nat := do
  let digits ← plainDigits? (fun c => (Decimal.hexValue? c).any (· < base)) text
  let values ← digits.mapM Decimal.hexValue?
  return values.foldl (fun number digit => base * number + digit) 0

/-- The largest integer. The smallest lies one further from zero. -/
def largestInteger : Nat := 0x7FFFFFFFFFFFFFFF

/-- An integer, in decimal or without a sign in one of three other bases. -/
def isInteger : List Char → Bool
  | '0' :: 'x' :: rest => (digitsValue? 16 rest).any (· ≤ largestInteger)
  | '0' :: 'o' :: rest => (digitsValue? 8 rest).any (· ≤ largestInteger)
  | '0' :: 'b' :: rest => (digitsValue? 2 rest).any (· ≤ largestInteger)
  | text =>
    let (negative, magnitude) := splitSign text
    (wholeDigits? magnitude).any fun digits =>
      Decimal.value digits ≤ largestInteger + (if negative then 1 else 0)

/-- The double is positive infinity. -/
def isOverflow (x : Float) : Bool := BinaryNumber.ofDouble x == .infinite false

/-- A number with a fraction, an exponent or both, or one of the special numbers. -/
def isReal (text : List Char) : Bool :=
  let (_, magnitude) := splitSign text
  if magnitude = "inf".toList ∨ magnitude = "nan".toList then true
  else
    let isExponentMark (c : Char) : Bool := c == 'e' || c == 'E'
    let mantissa := magnitude.takeWhile (! isExponentMark ·)
    let exponent := magnitude.dropWhile (! isExponentMark ·)
    let whole := mantissa.takeWhile (· != '.')
    let fraction := mantissa.dropWhile (· != '.')
    (wholeDigits? whole).isSome &&
      (fraction.isEmpty || (plainDigits? Char.isDigit fraction.tail).isSome) &&
      (exponent.isEmpty || (plainDigits? Char.isDigit (splitSign exponent.tail).2).isSome) &&
      !(fraction.isEmpty && exponent.isEmpty) &&
      (Decimal.double? (text.filter (· != '_'))).any fun x => !isOverflow x

/-- The value of a field of a given count of digits. -/
def field? (count : Nat) (text : List Char) : Option Nat :=
  if text.length = count then Decimal.natural? text else none

/-- A year with one day more. -/
def isLeapYear (year : Nat) : Bool :=
  (year % 4 == 0 && year % 100 != 0) || year % 400 == 0

/-- The number of days of a month. -/
def daysOfMonth (year month : Nat) : Nat :=
  if month = 2 then (if isLeapYear year then 29 else 28)
  else if month = 4 ∨ month = 6 ∨ month = 9 ∨ month = 11 then 30
  else 31

/-- A date: year, month and day. -/
def isDate (text : List Char) : Bool :=
  match Text.fields '-' text with
  | [year, month, day] =>
    match field? 4 year, field? 2 month, field? 2 day with
    | some year, some month, some day =>
      1 ≤ month && month ≤ 12 && 1 ≤ day && day ≤ daysOfMonth year month
    | _, _, _ => false
  | _ => false

/-- Seconds with an optional fraction; a minute may have one second more. -/
def isSeconds (text : List Char) : Bool :=
  let fraction := text.dropWhile (· != '.')
  (field? 2 (text.takeWhile (· != '.'))).any (· ≤ 60) &&
    (fraction.isEmpty || (Decimal.natural? fraction.tail).isSome)

/-- A time of day. -/
def isTime (text : List Char) : Bool :=
  match Text.fields ':' text with
  | [hour, minute, seconds] =>
    (field? 2 hour).any (· ≤ 23) && (field? 2 minute).any (· ≤ 59) && isSeconds seconds
  | _ => false

/-- A distance from universal time in hours and minutes. -/
def isDistance (text : List Char) : Bool :=
  match Text.fields ':' text with
  | [hour, minute] => (field? 2 hour).any (· ≤ 23) && (field? 2 minute).any (· ≤ 59)
  | _ => false

/-- A time of day with an optional offset: universal time, or a signed distance. -/
def isOffsetTime (text : List Char) : Bool :=
  let isOffsetMark (c : Char) : Bool := c == 'Z' || c == 'z' || c == '+' || c == '-'
  isTime (text.takeWhile (! isOffsetMark ·)) &&
    match text.dropWhile (! isOffsetMark ·) with
    | [] => true
    | mark :: distance => if mark.isAlpha then distance.isEmpty else isDistance distance

/-- A date, a time of day, or both with a letter between them. -/
def isMoment (text : List Char) : Bool :=
  isDate text || isTime text ||
    match text.drop 10 with
    | mark :: time => (mark == 'T' || mark == 't') && isDate (text.take 10) && isOffsetTime time
    | [] => false

/-- A character of a scalar. -/
def isScalarChar (c : Char) : Bool :=
  c.isAlphanum || c == '+' || c == '-' || c == '_' || c == '.' || c == ':'

/-- The scalar of a whole word. -/
def scalarOf? (word : List Char) : Option Toml :=
  if word = "true".toList then some (.flag true)
  else if word = "false".toList then some (.flag false)
  else if isMoment word then some .moment
  else if isInteger word || isReal word then some .number
  else none

/-- What follows a date: a time of day may stand after a space. -/
def afterDate (rest : List Char) : List Char :=
  match rest with
  | ' ' :: more =>
    if isOffsetTime (more.takeWhile isScalarChar) then more.dropWhile isScalarChar else rest
  | _ => rest

/-- The scalar in front of a text, and what follows it. -/
def scalar? (text : List Char) : Option (Toml × List Char) :=
  let word := text.takeWhile isScalarChar
  let rest := text.dropWhile isScalarChar
  (scalarOf? word).map fun scalar => (scalar, if isDate word then afterDate rest else rest)

end ThemeMotion.Toml
