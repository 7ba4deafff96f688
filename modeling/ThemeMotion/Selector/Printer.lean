import ThemeMotion.Selector.Basic

/-!
# Writing selectors

A selector is written from its outermost compound to its subject, with one blank or
a spaced parent mark between compounds. A priority of zero is left out. Names are
written as they are, without escapes.
-/

namespace ThemeMotion

/-- A compound's components in order; the universal one is a star. -/
def Compound.display (compound : Compound) : String :=
  if compound = .universal then "*"
  else
    compound.typeName.getD "" ++
      (match compound.id with
        | some id => "#" ++ id
        | none => "") ++
      String.join (compound.classes.map ("." ++ ·)) ++
      String.join (compound.pseudoClasses.map (":" ++ ·))

/-- What stands between two compounds. -/
def Combinator.display : Combinator → String
  | .ancestor => " "
  | .parent => " > "

namespace Selector

/-- The compounds around the subject, each with the combinator to its right. -/
def displayOuter : List (Combinator × Compound) → String
  | [] => ""
  | (combinator, compound) :: outer =>
    displayOuter outer ++ compound.display ++ combinator.display

/-- The text of a selector. -/
def display (selector : Selector) : String :=
  displayOuter selector.outer ++ selector.subject.display ++
    (if 0 < selector.priority then " !" ++ Decimal.natural selector.priority.toNat else "")

end Selector

end ThemeMotion
