import ThemeMotion.Selector.Basic
import ThemeMotion.Selector.Tree
import ThemeMotion.Word

/-!
# Scores of selectors

A selector that matches a node scores at least one there, and competing selectors
rank by score: by priority first, then by ids, by classes and pseudo-classes, and by
types, where a nearer type counts more. A compound above the subject is sought from
the nearest ancestor outwards, and the first ancestor at which the whole rest of the
selector holds counts.
-/

namespace ThemeMotion

/-- The score of a selector that does not match. -/
def noMatch : Int32 := -1

namespace Score

/-- The weight of one step of priority. -/
def priorityWeight : Nat := 1000000

/-- The weight of an id. -/
def idWeight : Nat := 10000

/-- The weight of a class or a pseudo-class. -/
def classWeight : Nat := 100

/-- The weight of a node's own type. -/
def typeWeight : Nat := 10

/-- The weight of a type at a depth; one for every distant supertype. -/
def typeSpecificity (depth : Nat) : Nat := max (typeWeight - depth) 1

end Score

variable {Node : Type}

/-- The specificity of a compound at a node, when all its components hold there. -/
def Compound.specificity? (compound : Compound) (tree : StyleTree Node) (node : Node) :
    Option Nat := do
  let type ← match compound.typeName with
    | none => some 0
    | some name => (tree.typeDepth? node name).map Score.typeSpecificity
  let id ← match compound.id with
    | none => some 0
    | some id => if tree.elementId? node = some id then some Score.idWeight else none
  if compound.classes.all (tree.hasClass node) ∧
      compound.pseudoClasses.all (tree.hasPseudoClass node) then
    some (type + id +
      Score.classWeight * (compound.classes.length + compound.pseudoClasses.length))
  else none

namespace Selector

/-- The specificity of the compounds above a node, which hold from its parent or from
the nearest ancestor that fits. -/
def outerSpecificity? (tree : StyleTree Node) :
    List (Combinator × Compound) → Node → Option Nat
  | [], _ => some 0
  | (combinator, compound) :: outer, node =>
    let above (candidate : Node) : Option Nat := do
      let own ← compound.specificity? tree candidate
      let rest ← outerSpecificity? tree outer candidate
      return own + rest
    match combinator with
    | .parent => tree.parent? node >>= above
    | .ancestor => (tree.ancestors node).findSome? above

/-- The specificity of a selector at a node, when the selector matches it. -/
def specificity? (selector : Selector) (tree : StyleTree Node) (node : Node) : Option Nat := do
  let own ← selector.subject.specificity? tree node
  let rest ← outerSpecificity? tree selector.outer node
  return own + rest

/-- The score of a selector at a node. The specificity is a 32-bit word, and adding
the priority stops at the largest one. -/
def score (selector : Selector) (tree : StyleTree Node) (node : Node) : Int32 :=
  match selector.specificity? tree node with
  | none => noMatch
  | some specificity =>
    Word.saturatingSumSigned
      (Int32.ofNat (1 + selector.priority.toNat * Score.priorityWeight))
      (Int32.ofNat specificity)

/-- A selector matches where it scores above zero. -/
def isMatch (selector : Selector) (tree : StyleTree Node) (node : Node) : Bool :=
  0 < selector.score tree node

end Selector

end ThemeMotion
