/-!
# Tokens of CSS text

The tokens that CSS syntax cuts a text into, comments aside. Names and strings hold
their decoded text. A number keeps whether a sign was written and, when it has
neither fraction nor exponent, its integer held within 32 bits.
-/

namespace ThemeMotion.Css

/-- A numeric token's number. -/
structure Numeric where
  signed : Bool
  value : Float
  integer : Option Int32
deriving DecidableEq, Repr

/-- A token of CSS text. Opening brackets stand for the block that they open. -/
inductive Token where
  | ident (name : String)
  | function (name : String)
  | atKeyword (name : String)
  /-- A number sign before a name that could not open an identifier. -/
  | hash (name : String)
  /-- A number sign before an identifier. -/
  | idHash (name : String)
  | quotedString (text : String)
  /-- A string that a newline cuts off. -/
  | badString (text : String)
  | unquotedUrl (text : String)
  /-- An unquoted address with a character that it may not hold. -/
  | badUrl (text : String)
  | delim (char : Char)
  | number (numeric : Numeric)
  | percentage (numeric : Numeric)
  | dimension (numeric : Numeric) (unit : String)
  | whitespace
  | colon
  | semicolon
  | comma
  | includeMatch
  | dashMatch
  | prefixMatch
  | suffixMatch
  | substringMatch
  /-- The opening of a markup comment. -/
  | cdo
  /-- The end of a markup comment. -/
  | cdc
  | parenthesisBlock
  | squareBracketBlock
  | curlyBracketBlock
  | closeParenthesis
  | closeSquareBracket
  | closeCurlyBracket
deriving DecidableEq, Repr

end ThemeMotion.Css
