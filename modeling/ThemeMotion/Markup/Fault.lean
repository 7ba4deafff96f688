import ThemeMotion.Decimal.Whole

/-!
# Faults of markup

What can be wrong with a document before its elements have a meaning. Positions
within a tag and ranges within an attribute value count bytes.
-/

namespace ThemeMotion.Markup

/-- A numeric character reference that stands for no character. -/
inductive ReferenceFault where
  | sign
  | empty
  | digit
  | tooLarge
  | noCharacter (code : Nat)
  | null
deriving DecidableEq, Repr

/-- The wording of a faulty character reference. -/
def ReferenceFault.message : ReferenceFault → String
  | .sign => "unexpected number sign"
  | .empty => "cannot parse integer from empty string"
  | .digit => "invalid digit found in string"
  | .tooLarge => "number too large to fit in target type"
  | .noCharacter code => s!"`{Decimal.natural code}` is not a valid codepoint"
  | .null => "0x0 character is not permitted in XML"

/-- A value whose references cannot be replaced. -/
inductive ValueFault where
  /-- No semicolon ends the reference. -/
  | unterminated (start stop : Nat)
  /-- The name is none of the predefined ones. -/
  | unknownEntity (start stop : Nat) (name : String)
  | reference (fault : ReferenceFault)
deriving DecidableEq, Repr

/-- A half-open range of bytes. -/
def rangeText (start stop : Nat) : String :=
  Decimal.natural start ++ ".." ++ Decimal.natural stop

/-- The wording of a faulty value. -/
def ValueFault.message : ValueFault → String
  | .unterminated start stop =>
    s!"Error while escaping character at range {rangeText start stop}: " ++
      "Cannot find ';' after '&'"
  | .unknownEntity start stop name =>
    s!"at {rangeText start stop}: unrecognized entity `{name}`"
  | .reference fault => "invalid character reference: " ++ fault.message

/-- An attribute that is not a name, an equals sign and a quoted value. -/
inductive AttributeFault where
  | noEquals (position : Nat)
  | noValue (position : Nat)
  | noOpeningQuote (position : Nat)
  | noClosingQuote (position : Nat) (quote : Char)
  | duplicate (position previous : Nat)
deriving DecidableEq, Repr

/-- The wording of a faulty attribute. -/
def AttributeFault.message : AttributeFault → String
  | .noEquals position =>
    s!"position {Decimal.natural position}: " ++
      "attribute key must be directly followed by `=` or space"
  | .noValue position =>
    s!"position {Decimal.natural position}: `=` must be followed by an attribute value"
  | .noOpeningQuote position =>
    s!"position {Decimal.natural position}: " ++
      "attribute value must be enclosed in `\"` or `'`"
  | .noClosingQuote position quote =>
    s!"position {Decimal.natural position}: missing closing quote `{quote}` in attribute value"
  | .duplicate position previous =>
    s!"position {Decimal.natural position}: duplicated attribute, " ++
      s!"previous declaration at position {Decimal.natural previous}"

/-- Markup that is no markup, or tags that do not pair up. -/
inductive Fault where
  | unknownMarkup
  | openComment
  | openData
  | openDoctype
  | openInstruction
  | openTag
  | namelessDoctype
  /-- A closing tag that differs from the tag it should close. -/
  | mismatchedClosing (expected found : String)
  /-- A closing tag with nothing to close. -/
  | unmatchedClosing (found : String)
deriving DecidableEq, Repr

/-- The wording of faulty markup. -/
def Fault.message : Fault → String
  | .unknownMarkup => notMarkup "unknown or missed symbol in markup"
  | .openComment => unclosed "comment" "-->"
  | .openData => unclosed "CDATA" "]]>"
  | .openDoctype => unclosed "DOCTYPE" ">"
  | .openInstruction => unclosed "processing instruction or xml declaration" "?>"
  | .openTag => unclosed "tag" ">"
  | .namelessDoctype =>
    illFormed "`<!DOCTYPE>` declaration does not contain a name of a document type"
  | .mismatchedClosing expected found =>
    illFormed s!"expected `</{expected}>`, but `</{found}>` was found"
  | .unmatchedClosing found =>
    illFormed s!"close tag `</{found}>` does not match any open tag"
where
  /-- Text that cannot be cut into markup. -/
  notMarkup (detail : String) : String := "syntax error: " ++ detail
  /-- Markup without its end. -/
  unclosed (kind ending : String) : String :=
    notMarkup s!"{kind} not closed: `{ending}` not found before end of input"
  /-- Markup in the wrong place. -/
  illFormed (detail : String) : String := "ill-formed document: " ++ detail

end ThemeMotion.Markup
