import ThemeMotion.Stage.Actor
import ThemeMotion.Stage.Tree

/-!
# Stages

A stage is a tree of actors kept in the order of adding: the root first, and each
further actor with the number of its parent, which is smaller than its own. A number
past the end belongs to no actor of the stage. The stage answers selectors and
animations as an actor tree.
-/

namespace ThemeMotion

/-- A root actor and the actors below it. The actor at index `i` of `added` is node
`i + 1`, and its parent is one of the nodes before it. -/
structure Stage where
  root : Actor
  added : List (Nat × Actor)
  parent_le : ∀ (i parent : Nat), added[i]?.map Prod.fst = some parent → parent ≤ i

namespace Stage

/-- A stage with a root alone. -/
def ofRoot (root : Actor) : Stage := ⟨root, [], by simp⟩

/-- A stage whose root has no properties. -/
def standard : Stage := ofRoot (Actor.ofTypes ["Stage", "Actor"])

/-- The number of actors. -/
def size (stage : Stage) : Nat := stage.added.length + 1

/-- The actor of a node. -/
def actor? (stage : Stage) : Nat → Option Actor
  | 0 => some stage.root
  | i + 1 => stage.added[i]?.map Prod.snd

/-- The parent of a node. -/
def parent? (stage : Stage) : Nat → Option Nat
  | 0 => none
  | i + 1 => stage.added[i]?.map Prod.fst

/-- A parent comes before its child. -/
theorem parent?_lt (stage : Stage) (node parent : Nat)
    (above : stage.parent? node = some parent) : parent < node := by
  match node, above with
  | i + 1, above => exact Nat.lt_succ_of_le (stage.parent_le i parent above)

/-- The nodes above a node, the nearest first. -/
def ancestors (stage : Stage) (node : Nat) : List Nat :=
  match _above : stage.parent? node with
  | none => []
  | some parent => parent :: stage.ancestors parent
termination_by node
decreasing_by exact stage.parent?_lt node parent _above

/-- The nodes above a node are its parent and those above that. -/
theorem ancestors_eq (stage : Stage) (node : Nat) :
    stage.ancestors node =
      match stage.parent? node with
      | none => []
      | some parent => parent :: stage.ancestors parent := by
  rw [ancestors]
  split <;> simp_all

/-- The line above the nearest ancestor is the rest of the line. -/
theorem ancestors_tail (stage : Stage) (node parent : Nat) (rest : List Nat)
    (line : stage.ancestors node = parent :: rest) : stage.ancestors parent = rest := by
  rw [ancestors_eq] at line
  split at line
  · simp at line
  · obtain ⟨rfl, rfl⟩ := List.cons.inj line
    rfl

/-- The children of a node in the order of adding. -/
def children (stage : Stage) (node : Nat) : List Nat :=
  (List.range stage.size).filter fun child => stage.parent? child == some node

/-- A child comes after its parent, and is a node of the stage. -/
theorem mem_children (stage : Stage) (node child : Nat) :
    child ∈ stage.children node ↔ child < stage.size ∧ stage.parent? child = some node := by
  simp [children]

/-- How many nodes come from a node on. -/
def rank (stage : Stage) (node : Nat) : Nat := stage.size - node

/-- Ranks fall from a node to its children. -/
theorem rank_lt (stage : Stage) (node child : Nat) (below : child ∈ stage.children node) :
    stage.rank child < stage.rank node := by
  obtain ⟨inside, above⟩ := (stage.mem_children node child).1 below
  have := stage.parent?_lt child node above
  simp only [rank]
  omega

/-- The distance from a node's own type to the first type of that name in its line. -/
def typeDepth? (stage : Stage) (node : Nat) (name : String) : Option Nat :=
  stage.actor? node >>= fun actor => actor.typeNames.idxOf? name

/-- The own type of a node; a number past the end has an empty one. -/
def typeName (stage : Stage) (node : Nat) : String :=
  ((stage.actor? node).map Actor.typeName).getD ""

/-- The actor of a node has a class. -/
def hasClass (stage : Stage) (node : Nat) (name : String) : Bool :=
  (stage.actor? node).any (·.classes.contains name)

/-- The actor of a node has a pseudo-class. -/
def hasPseudoClass (stage : Stage) (node : Nat) (name : String) : Bool :=
  (stage.actor? node).any (·.pseudoClasses.contains name)

/-- A property that the actor of a node declares. -/
def declared? (stage : Stage) (node : Nat) (name : String) : Option Property :=
  stage.actor? node >>= (·.property? name)

/-- The tree of a stage. -/
def tree (stage : Stage) : ActorTree Nat where
  ancestors := stage.ancestors
  typeDepth? := stage.typeDepth?
  elementId? node := stage.actor? node >>= (·.name)
  hasClass := stage.hasClass
  hasPseudoClass := stage.hasPseudoClass
  ancestors_tail := stage.ancestors_tail
  stage := 0
  children := stage.children
  propertyType? node name := (stage.declared? node name).map (·.type)
  property? node name := stage.declared? node name >>= (·.value)
  label node := s!"NodeId({Decimal.natural (node + 1)})"
  rank := stage.rank
  rank_lt := stage.rank_lt

/-- The tree of a stage for selectors that know no supertypes. -/
def exactTree (stage : Stage) : StyleTree Nat :=
  { stage.tree.toStyleTree with
    typeDepth? := fun node name => if stage.typeName node = name then some 0 else none }

/-- The first node, each before its children, whose actor has a name. -/
def findByName? (stage : Stage) (name : String) : Option Nat :=
  (stage.tree.preorder 0).find? fun node =>
    (stage.actor? node >>= (·.name)) == some name

/-- A further entry at the end keeps every parent before its child. -/
theorem parent_le_append (stage : Stage) (parent : Nat) (actor : Actor)
    (inside : parent < stage.size) (i other : Nat)
    (found : (stage.added ++ [(parent, actor)])[i]?.map Prod.fst = some other) : other ≤ i := by
  rcases Nat.lt_trichotomy i stage.added.length with earlier | last | later
  · rw [List.getElem?_append_left earlier] at found
    exact stage.parent_le i other found
  · subst last
    rw [List.getElem?_concat_length] at found
    obtain rfl : parent = other := Option.some.inj found
    exact Nat.le_of_lt_succ inside
  · have past : (stage.added ++ [(parent, actor)]).length ≤ i := by
      rw [List.length_append]
      exact later
    rw [List.getElem?_eq_none past] at found
    exact nomatch found

/-- Adds an actor as the last child of a node, and gives its own number. -/
def addChild? (stage : Stage) (parent : Nat) (actor : Actor) : Option (Stage × Nat) :=
  if inside : parent < stage.size then
    some (⟨stage.root, stage.added ++ [(parent, actor)],
      stage.parent_le_append parent actor inside⟩, stage.size)
  else none

/-- A change of one actor keeps every parent. -/
theorem parent_le_modify (stage : Stage) (index : Nat) (change : Actor → Actor) (i parent : Nat)
    (found : (stage.added.modify index (Prod.map id change))[i]?.map Prod.fst = some parent) :
    parent ≤ i := by
  refine stage.parent_le i parent (Eq.trans ?_ found)
  rw [List.getElem?_modify]
  cases stage.added[i]? with
  | none => rfl
  | some entry =>
    show some entry.1 = some (if index = i then Prod.map id change entry else entry).1
    by_cases here : index = i
    · rw [if_pos here]
      rfl
    · rw [if_neg here]

/-- Changes the actor of a node. -/
def update (stage : Stage) (node : Nat) (change : Actor → Actor) : Stage :=
  match node with
  | 0 => { stage with root := change stage.root }
  | i + 1 =>
    ⟨stage.root, stage.added.modify i (Prod.map id change),
      stage.parent_le_modify i change⟩

/-- Switches a pseudo-class of an actor on or off. -/
def setPseudoClass (stage : Stage) (node : Nat) (pseudoClass : String) (on : Bool) : Stage :=
  stage.update node (·.setPseudoClass pseudoClass on)

/-- Stores a value in a property of an actor. -/
def setProperty (stage : Stage) (node : Nat) (name : String) (value : Value) :
    Except ValueError Stage :=
  match stage.actor? node with
  | none => .error (.unknownProperty name)
  | some actor =>
    (actor.setProperty name value).map fun changed => stage.update node fun _ => changed

end Stage

end ThemeMotion
