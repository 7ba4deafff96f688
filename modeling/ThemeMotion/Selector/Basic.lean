import ThemeMotion.Decimal.Whole

/-!
# Selectors

A selector describes a node by itself and by the nodes above it. Its subject is the
rightmost compound; each further compound, read to the left, holds at the parent of
the node before it or at some ancestor. A priority belongs to the selector as a
whole, and so does the place where it was declared.
-/

namespace ThemeMotion

/-- Where a selector was declared. Lines and columns start at one; zero is unknown. -/
structure SourcePosition where
  file : Option String
  line : UInt32
  column : UInt32
deriving DecidableEq, Repr

namespace SourcePosition

/-- The position of a selector that no document declares. -/
def unknown : SourcePosition := ⟨none, 0, 0⟩

/-- File, line and column; a selector without a file stands in line. -/
def display (position : SourcePosition) : String :=
  position.file.getD "<inline>" ++ ":" ++ Decimal.natural position.line.toNat ++ ":" ++
    Decimal.natural position.column.toNat

end SourcePosition

/-- What a selector asks of one node. Classes and pseudo-classes may repeat. -/
structure Compound where
  typeName : Option String
  id : Option String
  classes : List String
  pseudoClasses : List String
deriving DecidableEq, Repr

namespace Compound

/-- The compound that every node satisfies. -/
def universal : Compound := ⟨none, none, [], []⟩

/-- The compound of one type. -/
def ofType (name : String) : Compound := { universal with typeName := some name }

end Compound

/-- How a compound's node lies above the node of the compound to its right. -/
inductive Combinator where
  | ancestor
  | parent
deriving DecidableEq, Repr

/-- A selector, from its subject outwards. -/
structure Selector where
  subject : Compound
  outer : List (Combinator × Compound)
  priority : UInt8
  source : SourcePosition
deriving DecidableEq, Repr

namespace Selector

/-- The number of compounds. -/
def depth (selector : Selector) : Nat := 1 + selector.outer.length

/-- The compounds from the subject outwards. -/
def compounds (selector : Selector) : List Compound :=
  selector.subject :: selector.outer.map Prod.snd

end Selector

end ThemeMotion
