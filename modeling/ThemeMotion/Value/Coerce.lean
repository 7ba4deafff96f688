import ThemeMotion.Text.Units
import ThemeMotion.Value.ColorText
import ThemeMotion.Value.Transform

/-!
# Values from text

Attribute texts become values of the type that the property declares. Every type
has its own strict rule; a floating-point type also takes an integer or a boolean
word, converted. A text is refused as a whole or read as a whole.
-/

namespace ThemeMotion.Coerce

/-- Words for false, in lower case. -/
def falseWords : List String := ["false", "f", "no", "n", "0"]

/-- Words for true, in lower case. -/
def trueWords : List String := ["true", "t", "yes", "y", "1"]

/-- A boolean word, in any case, with nothing around it. -/
def boolWord? (text : String) : Option Bool :=
  let word := String.ofList (Text.lower text.toList)
  if falseWords.contains word then some false
  else if trueWords.contains word then some true
  else none

/-- Whether a number begins with a minus, and what follows its sign. -/
def cutSign : List Char → Bool × List Char
  | '-' :: rest => (true, rest)
  | '+' :: rest => (false, rest)
  | text => (false, text)

/-- A word with one more digit at its end. A negative number grows downward, which reaches
the least word too. A step that leaves the range of words gives none. -/
def extend? (negative : Bool) (word : Int64) (digit : Char) : Option Int64 :=
  Word.int64? (word.toInt * 10) >>= fun tens =>
    let ones : Int := Decimal.digitValue digit
    Word.int64? (if negative then tens.toInt - ones else tens.toInt + ones)

/-- The word of a number, grown from its digits, the highest first. -/
def accumulate? (negative : Bool) (digits : List Char) : Option Int64 :=
  digits.foldlM (extend? negative) 0

/-- Leading blanks, an optional sign and digits to the end, within 64 signed bits. The text
has ended when the bytes up to the last digit are all of its bytes. -/
def int? (text : List Char) : Option Int64 :=
  let (negative, number) := cutSign (Text.trimStart text)
  let digits := number.takeWhile Char.isDigit
  let consumed := Text.byteLength text - Text.byteLength number + digits.length
  if digits.isEmpty then none
  else accumulate? negative digits >>= fun word =>
    if consumed = Text.byteLength text then some word else none

/-- A member of an enumeration by name or nick, else by its declared integer. -/
def member? (type : EnumType) (text : String) : Option Int32 :=
  let token := Text.trim text.toList
  match type.byName? (String.ofList token) with
  | some member => some member.value
  | none =>
    int? token >>= fun integer => Word.int32? integer.toInt >>= fun word =>
      (type.byValue? word).map (·.value)

/-- One flag by name or nick, else by its integer. A blank token is no flag. -/
def flag? (type : FlagsType) (token : List Char) : Option UInt32 :=
  if token.isEmpty then none
  else
    match type.byName? (String.ofList token) with
    | some member => some member.value
    | none => int? token >>= fun integer => Word.uint32? integer.toInt

/-- The union of all flags, none when one of them is refused. -/
def union? : List (Option UInt32) → Option UInt32
  | [] => some 0
  | flag :: rest => flag >>= fun bits => (union? rest).map (bits ||| ·)

/-- Flags separated by vertical bars. -/
def flags? (type : FlagsType) (text : String) : Option UInt32 :=
  union? ((Text.fields '|' text.toList).map fun token => flag? type (Text.trim token))

/-- An integer, else a boolean word: the literals that stand for a number. -/
def literal? (text : List Char) : Option Value :=
  match int? text with
  | some integer => some (.int integer)
  | none => (boolWord? (String.ofList (Text.trim text))).map .bool

/-- A floating-point value of the given type: a finite numeral, else a literal. -/
def floating? (text : List Char) (type : ValueType) : Option Value :=
  let double := (Decimal.double? (Text.trim text)).filter isFiniteDouble
  match double with
  | some number => (Value.double number).transform? type
  | none => literal? text >>= fun value => value.transform? type

/-- A value that was read, or the type whose rule gave none. -/
def accepted (type : ValueType) : Option Value → Except ValueType Value
  | some value => .ok value
  | none => .error type

/-- What is accepted is what was read. -/
theorem accepted_ok_iff {type : ValueType} {candidate : Option Value} {value : Value} :
    accepted type candidate = .ok value ↔ candidate = some value := by
  cases candidate <;> simp [accepted]

/-- What is accepted of content that was read is this content in its form. -/
theorem accepted_map_ok_iff {Content : Type} {type : ValueType} {content : Option Content}
    {form : Content → Value} {value : Value} :
    accepted type (content.map form) = .ok value ↔
      ∃ read, content = some read ∧ form read = value := by
  rw [accepted_ok_iff, Option.map_eq_some_iff]

/-- A rule that gave no value refuses with its own type. -/
theorem accepted_error_iff {type expected : ValueType} {candidate : Option Value} :
    accepted type candidate = .error expected ↔ candidate = none ∧ expected = type := by
  cases candidate <;> simp [accepted, eq_comm]

/-- The value of a text, or the type whose rule refused it: for an unsigned integer
this is the signed rule when the text is no integer at all. -/
def read (text : String) (type : ValueType) : Except ValueType Value :=
  match type with
  | .bool => accepted type ((boolWord? text).map .bool)
  | .int => accepted type ((int? text.toList).map .int)
  | .uint =>
    match int? text.toList with
    | none => .error .int
    | some integer => accepted type ((Word.uint64? integer.toInt).map .uint)
  | .float | .double => accepted type (floating? text.toList type)
  | .string => .ok (.string text)
  | .color => accepted type ((ColorText.parse? text.toList).map .color)
  | .enumeration enum => accepted type ((member? enum text).map (.enumeration enum.name))
  | .flags flags => accepted type ((flags? flags text).map (.flags flags.name))

end ThemeMotion.Coerce

namespace ThemeMotion

/-- Reads a text as a value of a type. -/
def coerce (text : String) (type : ValueType) : Except ValueError Value :=
  (Coerce.read text type).mapError (.invalidValue text)

/-- A text has the value that is read for the type. -/
theorem coerce_ok_iff {text : String} {type : ValueType} {value : Value} :
    coerce text type = .ok value ↔ Coerce.read text type = .ok value := by
  unfold coerce
  cases Coerce.read text type with
  | error expected => exact ⟨nofun, nofun⟩
  | ok given =>
    constructor
    · intro same
      cases same
      rfl
    · intro same
      cases same
      rfl

/-- A refusal quotes the text as a whole and names the type whose rule refused it. -/
theorem coerce_error_iff {text : String} {type : ValueType} {refusal : ValueError} :
    coerce text type = .error refusal ↔
      ∃ expected, Coerce.read text type = .error expected ∧
        refusal = .invalidValue text expected := by
  unfold coerce
  cases Coerce.read text type with
  | ok given => exact ⟨nofun, nofun⟩
  | error expected =>
    constructor
    · intro refused
      cases refused
      exact ⟨expected, rfl, rfl⟩
    · rintro ⟨_, same, rfl⟩
      cases same
      rfl

/-- Reads a boolean word. -/
def coerceBool (text : String) : Except ValueError Bool :=
  match Coerce.boolWord? text with
  | some value => .ok value
  | none => .error (.invalidValue text .bool)

/-- Reads a 64-bit integer. -/
def coerceInt (text : String) : Except ValueError Int64 :=
  match Coerce.int? text.toList with
  | some value => .ok value
  | none => .error (.invalidValue text .int)

/-- Reads a member of an enumeration. -/
def coerceEnum (text : String) (type : EnumType) : Except ValueError Int32 :=
  match Coerce.member? type text with
  | some value => .ok value
  | none => .error (.invalidValue text (.enumeration type))

/-- Reads a union of flags. -/
def coerceFlags (text : String) (type : FlagsType) : Except ValueError UInt32 :=
  match Coerce.flags? type text with
  | some value => .ok value
  | none => .error (.invalidValue text (.flags type))

end ThemeMotion
