/-!
# Trees that selectors match

A host shows its nodes to selectors through a few questions about each and through
the line of its ancestors. The line is finite, and the ancestors of a node's parent
are the rest of the node's own line, so it has a start and no cycle.
-/

namespace ThemeMotion

/-- A tree as selectors see it. -/
structure StyleTree (Node : Type) where
  /-- The nodes above a node, the nearest first. -/
  ancestors : Node → List Node
  /-- The distance from a node's own type to a type of the given name: zero for its
  own, one for the first supertype, and so on. -/
  typeDepth? : Node → String → Option Nat
  /-- The name that an id selects. -/
  elementId? : Node → Option String
  hasClass : Node → String → Bool
  hasPseudoClass : Node → String → Bool
  /-- The line above the nearest ancestor is the rest of the line. -/
  ancestors_tail : ∀ node parent rest,
    ancestors node = parent :: rest → ancestors parent = rest

/-- The nearest ancestor. -/
def StyleTree.parent? {Node : Type} (tree : StyleTree Node) (node : Node) : Option Node :=
  (tree.ancestors node).head?

end ThemeMotion
