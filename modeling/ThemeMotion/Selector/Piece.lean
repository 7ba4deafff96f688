import ThemeMotion.Css.Lexer
import ThemeMotion.Css.TokenText

/-!
# Pieces of a selector

The tokens that selectors are made of. A token without a meaning in selectors is
kept, so that a refusal can name it.
-/

namespace ThemeMotion

/-- A token by its role in a selector. -/
inductive Piece where
  | ident (name : String)
  | star
  | idHash (id : String)
  | dot
  | colon
  | space
  | child
  | bang
  | integer (value : Int32)
  | other (token : Css.Token)
deriving DecidableEq, Repr

namespace Piece

/-- The role of a token. -/
def ofToken : Css.Token → Piece
  | .ident name => .ident name
  | .idHash id => .idHash id
  | .delim '*' => .star
  | .delim '.' => .dot
  | .delim '>' => .child
  | .delim '!' => .bang
  | .colon => .colon
  | .whitespace => .space
  | .number ⟨_, _, some n⟩ => .integer n
  | token => .other token

/-- How a refusal names a piece. -/
def display : Piece → String
  | .ident name => s!"identifier '{name}'"
  | .star => "'*'"
  | .idHash id => s!"'#{id}'"
  | .dot => "'.'"
  | .colon => "':'"
  | .space => "whitespace"
  | .child => "'>'"
  | .bang => "'!'"
  | .integer n => s!"number {Decimal.integer n.toInt}"
  | .other token => token.display

/-- The pieces of a selector text with their columns. -/
def scan (text : String) : List (Css.Located Piece) :=
  (Css.tokens text).map fun token => ⟨ofToken token.content, token.column⟩

end Piece

end ThemeMotion
