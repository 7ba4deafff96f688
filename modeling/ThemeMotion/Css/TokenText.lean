import ThemeMotion.Css.Token
import ThemeMotion.Decimal.FloatText
import ThemeMotion.Text.Quotation

/-!
# Names of tokens in messages

A message names a token that has no place in a selector by its kind and content.
-/

namespace ThemeMotion.Css

/-- A truth value in a message. -/
def flagText (flag : Bool) : String := if flag then "true" else "false"

/-- An optional integer in a message. -/
def integerText : Option Int32 → String
  | none => "None"
  | some n => s!"Some({Decimal.integer n.toInt})"

/-- A single-precision number in a message. -/
def numberText (value : Float) : String := Decimal.FloatStyle.quoted.single (narrow value)

/-- The kind and content of a token. -/
def Token.display : Token → String
  | .ident name => s!"Ident({Text.quoted name})"
  | .function name => s!"Function({Text.quoted name})"
  | .atKeyword name => s!"AtKeyword({Text.quoted name})"
  | .hash name => s!"Hash({Text.quoted name})"
  | .idHash name => s!"IDHash({Text.quoted name})"
  | .quotedString text => s!"QuotedString({Text.quoted text})"
  | .badString text => s!"BadString({Text.quoted text})"
  | .unquotedUrl text => s!"UnquotedUrl({Text.quoted text})"
  | .badUrl text => s!"BadUrl({Text.quoted text})"
  | .delim char => s!"Delim({Text.quotedSingle char})"
  | .number n =>
    s!"Number \x7b has_sign: {flagText n.signed}, value: {numberText n.value}, " ++
      s!"int_value: {integerText n.integer} \x7d"
  | .percentage n =>
    s!"Percentage \x7b has_sign: {flagText n.signed}, " ++
      s!"unit_value: {numberText (n.value / 100)}, " ++
      s!"int_value: {integerText n.integer} \x7d"
  | .dimension n unit =>
    s!"Dimension \x7b has_sign: {flagText n.signed}, value: {numberText n.value}, " ++
      s!"int_value: {integerText n.integer}, unit: {Text.quoted unit} \x7d"
  | .whitespace => "WhiteSpace"
  | .colon => "Colon"
  | .semicolon => "Semicolon"
  | .comma => "Comma"
  | .includeMatch => "IncludeMatch"
  | .dashMatch => "DashMatch"
  | .prefixMatch => "PrefixMatch"
  | .suffixMatch => "SuffixMatch"
  | .substringMatch => "SubstringMatch"
  | .cdo => "CDO"
  | .cdc => "CDC"
  | .parenthesisBlock => "ParenthesisBlock"
  | .squareBracketBlock => "SquareBracketBlock"
  | .curlyBracketBlock => "CurlyBracketBlock"
  | .closeParenthesis => "CloseParenthesis"
  | .closeSquareBracket => "CloseSquareBracket"
  | .closeCurlyBracket => "CloseCurlyBracket"

end ThemeMotion.Css
