import ThemeMotion.Selector.Link
import ThemeMotion.Selector.Piece

/-!
# The grammar of selectors

A selector is written as compounds in a row, each but the last with a combinator to its
right, and perhaps a priority behind them. What can be written is laid down as data: a
written selector has a row of pieces, and it describes a selector. How pieces are read
plays no part in it.

A compound has no blanks inside and has to consist of something. A row of blanks between
compounds is a combinator, unless the mark of a parent stands among them. Blanks before the
first compound, behind the last, and around a priority and its mark do not count.
-/

namespace ThemeMotion

/-- A number of blanks. -/
def blanks (count : Nat) : List Piece := List.replicate count .space

/-- What a compound begins with, ahead of its components. -/
inductive Head where
  | absent
  | star
  | type (name : String)
deriving DecidableEq, Repr

namespace Head

/-- The pieces of the beginning of a compound. -/
def pieces : Head → List Piece
  | absent => []
  | star => [.star]
  | type name => [.ident name]

/-- The type that a compound names at its beginning. -/
def typeName : Head → Option String
  | type name => some name
  | _ => none

end Head

/-- A component of a compound. -/
inductive Component where
  | id (name : String)
  | ofClass (name : String)
  | ofPseudoClass (name : String)
deriving DecidableEq, Repr

namespace Component

/-- The pieces of a component. -/
def pieces : Component → List Piece
  | id name => [.idHash name]
  | ofClass name => [.dot, .ident name]
  | ofPseudoClass name => [.colon, .ident name]

/-- The name of a component that is an id. -/
def id? : Component → Option String
  | id name => some name
  | _ => none

/-- The name of a component that is a class. -/
def class? : Component → Option String
  | ofClass name => some name
  | _ => none

/-- The name of a component that is a pseudo-class. -/
def pseudoClass? : Component → Option String
  | ofPseudoClass name => some name
  | _ => none

end Component

/-- The compound of a beginning and components, which keep their order. -/
def compoundOf (head : Head) (components : List Component) : Compound :=
  ⟨head.typeName, components.findSome? Component.id?, components.filterMap Component.class?,
    components.filterMap Component.pseudoClass?⟩

/-- A compound as it is written: not empty and with one id at most. -/
structure WrittenCompound where
  head : Head
  components : List Component
  filled : head ≠ .absent ∨ components ≠ []
  single : (components.filterMap Component.id?).length ≤ 1

namespace WrittenCompound

/-- The pieces of a compound. -/
def pieces (written : WrittenCompound) : List Piece :=
  written.head.pieces ++ written.components.flatMap Component.pieces

/-- What is written. -/
def compound (written : WrittenCompound) : Compound :=
  compoundOf written.head written.components

end WrittenCompound

/-- A combinator as it is written: one blank or more, or the mark of a parent between any
number of blanks. -/
inductive WrittenCombinator where
  | gap (further : Nat)
  | mark (before after : Nat)
deriving DecidableEq, Repr

namespace WrittenCombinator

/-- The pieces of a combinator. -/
def pieces : WrittenCombinator → List Piece
  | gap further => .space :: blanks further
  | mark before after => blanks before ++ .child :: blanks after

/-- What is written. -/
def combinator : WrittenCombinator → Combinator
  | gap _ => .ancestor
  | mark _ _ => .parent

end WrittenCombinator

/-- What stands behind the last compound: blanks alone, or a priority between blanks, with
blanks between its mark and its integer too. The integer is a byte. -/
inductive Ending where
  | plain (trailing : Nat)
  | priority (before between after : Nat) (value : UInt8)
deriving DecidableEq, Repr

namespace Ending

/-- The pieces of an ending. -/
def pieces : Ending → List Piece
  | plain trailing => blanks trailing
  | priority before between after value =>
    blanks before ++ .bang :: (blanks between ++
      .integer (Int32.ofNat value.toNat) :: blanks after)

/-- The priority of a selector with the ending. -/
def value : Ending → UInt8
  | plain _ => 0
  | priority _ _ _ value => value

end Ending

/-- Compounds with the combinators to their right, in the order of writing. -/
abbrev WrittenRow := List (WrittenCompound × WrittenCombinator)

/-- The pieces of a row. -/
def WrittenRow.pieces (row : WrittenRow) : List Piece :=
  row.flatMap fun (compound, combinator) => compound.pieces ++ combinator.pieces

/-- A selector as it is written. -/
structure WrittenSelector where
  leading : Nat
  earlier : WrittenRow
  last : WrittenCompound
  ending : Ending

namespace WrittenSelector

/-- The pieces of a selector. -/
def pieces (written : WrittenSelector) : List Piece :=
  blanks written.leading ++ written.earlier.pieces ++ written.last.pieces ++
    written.ending.pieces

/-- The compounds from left to right. -/
def compounds (written : WrittenSelector) : List Compound :=
  written.earlier.map (·.1.compound) ++ [written.last.compound]

/-- The combinators from left to right. -/
def combinators (written : WrittenSelector) : List Combinator :=
  written.earlier.map (·.2.combinator)

/-- A selector is the one that is written and was declared at a position. Its links, from
the subject on, are the compounds from right to left, and lead to one another as the
combinators between them say. The priority is the subject's, and all links have the
position. -/
structure Describes (written : WrittenSelector) (source : SourcePosition) (selector : Selector) :
    Prop where
  compounds : selector.chain.compound :: selector.chain.path.map (·.2.compound) =
    written.compounds.reverse
  combinators : selector.chain.path.map Prod.fst = written.combinators.reverse
  depth : selector.depth = written.compounds.length
  priority : selector.chain.priority = written.ending.value
  plain : ∀ step ∈ selector.chain.path, step.2.priority = 0
  placed : selector.chain.source = source ∧ ∀ step ∈ selector.chain.path, step.2.source = source

end WrittenSelector

end ThemeMotion
