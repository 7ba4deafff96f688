import ThemeMotion.Selector.Tree
import ThemeMotion.Value.Basic

/-!
# Trees of actors

Animations need more of a host's tree than selectors do: its root, the children of a
node, and the typed properties of an actor. Every node has a rank above the ranks of
its children, so walks downwards end. The walk of a part of the tree visits a node
before its children, and the children in their order.
-/

namespace ThemeMotion

/-- A tree of actors as animations see it. -/
structure ActorTree (Node : Type) extends StyleTree Node where
  /-- The root of the scene. -/
  stage : Node
  /-- The children of a node in the order of painting. -/
  children : Node → List Node
  /-- The declared type of a property that the actor has. -/
  propertyType? : Node → String → Option ValueType
  /-- The value of a property that has one. -/
  property? : Node → String → Option Value
  /-- The text that stands for a node in traces. -/
  label : Node → String
  rank : Node → Nat
  /-- Ranks fall from a node to its children. -/
  rank_lt : ∀ node child, child ∈ children node → rank child < rank node

namespace ActorTree

variable {Node : Type}

/-- A node and all nodes below it, each before its children. -/
def preorder (tree : ActorTree Node) (node : Node) : List Node :=
  node :: (tree.children node).attach.flatMap fun ⟨child, _⟩ => tree.preorder child
termination_by tree.rank node
decreasing_by exact tree.rank_lt node child ‹_›

/-- The number of nodes at and below a node. -/
def weight (tree : ActorTree Node) (node : Node) : Nat :=
  1 + (tree.children node).attach.foldr (fun ⟨child, _⟩ load => tree.weight child + load) 0
termination_by tree.rank node
decreasing_by exact tree.rank_lt node child ‹_›

/-- The number of nodes at and below some nodes, one after the other. -/
def load (tree : ActorTree Node) (nodes : List Node) : Nat :=
  nodes.foldr (fun node load => tree.weight node + load) 0

/-- A node weighs one more than its children together. -/
theorem weight_eq (tree : ActorTree Node) (node : Node) :
    tree.weight node = 1 + tree.load (tree.children node) := by
  rw [weight, load]
  exact congrArg (1 + ·)
    (List.foldr_attach (f := fun child load => tree.weight child + load))

/-- The loads of two lists add up. -/
theorem load_append (tree : ActorTree Node) (first second : List Node) :
    tree.load (first ++ second) = tree.load first + tree.load second := by
  induction first with
  | nil => exact (Nat.zero_add _).symm
  | cons node rest inductionHypothesis =>
    show tree.weight node + tree.load (rest ++ second) =
      tree.weight node + tree.load rest + tree.load second
    rw [inductionHypothesis, Nat.add_assoc]

/-- The kept nodes of a walk from nodes that are still to be visited, the next one
first. A visited node gives way to its children. -/
def walk (tree : ActorTree Node) (keep : Node → Bool) : List Node → List Node
  | [] => []
  | node :: pending =>
    let others := tree.walk keep (tree.children node ++ pending)
    if keep node then node :: others else others
termination_by pending => tree.load pending
decreasing_by
  have weighed := tree.weight_eq node
  have joined := tree.load_append (tree.children node) pending
  show tree.load (tree.children node ++ pending) < tree.weight node + tree.load pending
  omega

end ActorTree

end ThemeMotion
