import Mathlib.Logic.ExistsUnique
import Mathlib.Logic.Relation
import ThemeMotion.Selector.Score

/-!
# Where selectors match

A selector matches a node when its compounds can be placed: the subject at the node, and
every further compound at the parent of the node before it or at some ancestor, as its
combinator says. The score is that of one placement, in which every ancestor is the
nearest one from which all further compounds can still be placed.

Placements are described by the parents of nodes alone. The search of the matcher, which
runs along lines of ancestors and turns back where the rest of the selector fails, is
compared with them. Sums that do not fit a 32-bit word are not described.
-/

namespace ThemeMotion

variable {Node : Type}

namespace StyleTree

variable (tree : StyleTree Node)

/-- A node is a strict ancestor of another: one parent or more lead to it. -/
def IsAbove (upper lower : Node) : Prop :=
  Relation.TransGen (fun node parent => tree.parent? node = some parent) lower upper

/-- The line of a node is its parent followed by the parent's own line. -/
theorem parent_iff (node parent : Node) :
    tree.parent? node = some parent ↔ tree.ancestors node = parent :: tree.ancestors parent := by
  unfold parent?
  cases line : tree.ancestors node with
  | nil => simp
  | cons first rest =>
    have others : tree.ancestors first = rest := tree.ancestors_tail node first rest line
    rw [List.head?_cons, Option.some.injEq, List.cons.injEq]
    constructor
    · rintro rfl
      exact ⟨rfl, others.symm⟩
    · exact And.left

/-- The line of an ancestor is what stands behind it. -/
theorem ancestors_behind {node upper : Node} {nearer farther : List Node}
    (line : tree.ancestors node = nearer ++ upper :: farther) :
    tree.ancestors upper = farther := by
  induction nearer generalizing node with
  | nil => exact tree.ancestors_tail node upper farther line
  | cons parent rest inductionHypothesis =>
    exact inductionHypothesis (tree.ancestors_tail node parent _ line)

/-- The line of a node holds its strict ancestors and nothing else. -/
theorem mem_ancestors_iff (upper lower : Node) :
    upper ∈ tree.ancestors lower ↔ tree.IsAbove upper lower := by
  constructor
  · intro member
    induction line : tree.ancestors lower generalizing lower with
    | nil =>
      rw [line] at member
      cases member
    | cons parent rest inductionHypothesis =>
      have others : tree.ancestors parent = rest := tree.ancestors_tail lower parent rest line
      have next : tree.parent? lower = some parent :=
        (tree.parent_iff lower parent).mpr (others.symm ▸ line)
      rw [line] at member
      rcases List.mem_cons.mp member with rfl | later
      · exact .single next
      · exact .head next (inductionHypothesis parent (others.symm ▸ later) others)
  · intro above
    induction above using Relation.TransGen.head_induction_on with
    | single next =>
      rw [(tree.parent_iff _ _).mp next]
      exact List.mem_cons_self
    | head next _ inductionHypothesis =>
      rw [(tree.parent_iff _ _).mp next]
      exact List.mem_cons_of_mem _ inductionHypothesis

/-- No node is its own strict ancestor, for its line would stand behind itself. -/
theorem not_above_self (node : Node) : ¬ tree.IsAbove node node := by
  intro above
  obtain ⟨nearer, farther, line⟩ :=
    List.append_of_mem ((tree.mem_ancestors_iff node node).mpr above)
  have lengths := congrArg List.length line
  rw [List.length_append, List.length_cons, tree.ancestors_behind line] at lengths
  omega

/-- The ancestors before another one are those between it and the node. -/
theorem mem_nearer_iff {node upper : Node} {nearer farther : List Node}
    (line : tree.ancestors node = nearer ++ upper :: farther) (between : Node) :
    between ∈ nearer ↔ tree.IsAbove between node ∧ tree.IsAbove upper between := by
  constructor
  · intro member
    obtain ⟨first, second, rfl⟩ := List.append_of_mem member
    have split : tree.ancestors node = first ++ between :: (second ++ upper :: farther) := by
      rw [line, List.append_assoc, List.cons_append]
    rw [← tree.mem_ancestors_iff, ← tree.mem_ancestors_iff, tree.ancestors_behind split, split]
    exact ⟨by simp, by simp⟩
  · rintro ⟨aboveNode, belowUpper⟩
    rw [← tree.mem_ancestors_iff, line, List.mem_append, List.mem_cons] at aboveNode
    rcases aboveNode with member | rfl | later
    · exact member
    · exact absurd belowUpper (tree.not_above_self between)
    · have aboveUpper : tree.IsAbove between upper := by
        rwa [← tree.mem_ancestors_iff, tree.ancestors_behind line]
      exact absurd (Relation.TransGen.trans belowUpper aboveUpper) (tree.not_above_self between)

/-- Of two different strict ancestors of a node, one lies between the node and the other. -/
theorem above_cases {node first second : Node} (above : tree.IsAbove first node)
    (other : tree.IsAbove second node) :
    first = second ∨ tree.IsAbove first second ∨ tree.IsAbove second first := by
  obtain ⟨nearer, farther, line⟩ :=
    List.append_of_mem ((tree.mem_ancestors_iff first node).mpr above)
  have member := (tree.mem_ancestors_iff second node).mpr other
  rw [line, List.mem_append, List.mem_cons] at member
  rcases member with before | same | behind
  · exact .inr (.inl ((tree.mem_nearer_iff line second).mp before).2)
  · exact .inl same.symm
  · refine .inr (.inr ?_)
    rwa [← tree.mem_ancestors_iff, tree.ancestors_behind line]

/-- What is found on the line of a node stems from the nearest ancestor that has it. -/
theorem found_nearest {β : Type} (search : Node → Option β) (node : Node) {found : β}
    (success : (tree.ancestors node).findSome? search = some found) :
    ∃ upper, tree.IsAbove upper node ∧ search upper = some found ∧
      ∀ between, tree.IsAbove between node → tree.IsAbove upper between →
        search between = none := by
  obtain ⟨nearer, upper, farther, line, hit, missed⟩ := List.findSome?_eq_some_iff.mp success
  refine ⟨upper, ?_, hit, ?_⟩
  · rw [← tree.mem_ancestors_iff, line]
    simp
  · intro between aboveNode belowUpper
    exact missed between ((tree.mem_nearer_iff line between).mpr ⟨aboveNode, belowUpper⟩)

end StyleTree

namespace Compound

variable (compound : Compound) (tree : StyleTree Node) (node : Node)

/-- A node has all that a compound asks for. A type may be the node's own or one of its
supertypes. -/
structure Holds : Prop where
  typed : ∀ name, compound.typeName = some name →
    ∃ depth, tree.typeDepth? node name = some depth
  identified : ∀ id, compound.id = some id → tree.elementId? node = some id
  classed : ∀ name ∈ compound.classes, tree.hasClass node name = true
  marked : ∀ name ∈ compound.pseudoClasses, tree.hasPseudoClass node name = true

/-- What the type of a compound counts for at a node: ten for the node's own type, less
for a more distant one, but at least one. -/
def typeWeight : Nat :=
  match compound.typeName.bind (tree.typeDepth? node) with
  | some depth => max 1 (10 - depth)
  | none => 0

/-- What a compound counts for at a node: its type, ten thousand for an id, and a hundred
for each class and pseudo-class. -/
def weight : Nat :=
  compound.typeWeight tree node + (if compound.id.isSome then 10000 else 0) +
    100 * (compound.classes.length + compound.pseudoClasses.length)

/-- The part of the specificity that stems from the type, when the node has it. -/
def typeShare? : Option Nat :=
  match compound.typeName with
  | none => some 0
  | some name => (tree.typeDepth? node name).map Score.typeSpecificity

/-- The part of the specificity that stems from the id, when the node has it. -/
def idShare? : Option Nat :=
  match compound.id with
  | none => some 0
  | some id => if tree.elementId? node = some id then some Score.idWeight else none

/-- The specificity is put together from the parts of type and id, one after the other. -/
theorem specificity_eq : compound.specificity? tree node =
    (compound.typeShare? tree node).bind fun type => (compound.idShare? tree node).bind fun id =>
      if compound.classes.all (tree.hasClass node) ∧
          compound.pseudoClasses.all (tree.hasPseudoClass node) then
        some (type + id +
          Score.classWeight * (compound.classes.length + compound.pseudoClasses.length))
      else none := by
  obtain ⟨typeName, id, classes, pseudoClasses⟩ := compound
  cases id with
  | none => cases typeName <;> rfl
  | some id =>
    unfold specificity? typeShare? idShare?
    by_cases found : tree.elementId? node = some id
    · simp only [found]
      cases typeName <;> rfl
    · simp only [found]
      cases typeName <;> rfl

/-- The part of the type is its weight, at the nodes that have the type. -/
theorem typeShare_iff (share : Nat) : compound.typeShare? tree node = some share ↔
    (∀ name, compound.typeName = some name → ∃ depth, tree.typeDepth? node name = some depth) ∧
      share = compound.typeWeight tree node := by
  unfold typeShare? typeWeight
  cases compound.typeName with
  | none => simp [eq_comm]
  | some name =>
    cases found : tree.typeDepth? node name with
    | none => simp [found]
    | some depth => simp [found, Score.typeSpecificity, Score.typeWeight, Nat.max_comm, eq_comm]

/-- The part of the id is its weight, at the nodes that have the id. -/
theorem idShare_iff (share : Nat) : compound.idShare? tree node = some share ↔
    (∀ id, compound.id = some id → tree.elementId? node = some id) ∧
      share = if compound.id.isSome then 10000 else 0 := by
  unfold idShare?
  cases compound.id with
  | none => simp [eq_comm]
  | some id =>
    by_cases found : tree.elementId? node = some id
    · simp [found, Score.idWeight, eq_comm]
    · simp [found]

/-- A compound has a specificity where it holds, and this is its weight. -/
theorem specificity_iff (specificity : Nat) :
    compound.specificity? tree node = some specificity ↔
      compound.Holds tree node ∧ specificity = compound.weight tree node := by
  rw [specificity_eq]
  simp only [Option.bind_eq_some_iff, typeShare_iff, idShare_iff]
  constructor
  · rintro ⟨_, ⟨typed, rfl⟩, _, ⟨identified, rfl⟩, rest⟩
    split at rest
    · next held =>
      obtain ⟨classed, marked⟩ := held
      rw [List.all_eq_true] at classed marked
      exact ⟨⟨typed, identified, classed, marked⟩, (Option.some.inj rest).symm⟩
    · cases rest
  · rintro ⟨holds, rfl⟩
    refine ⟨_, ⟨holds.typed, rfl⟩, _, ⟨holds.identified, rfl⟩, ?_⟩
    rw [if_pos ⟨List.all_eq_true.mpr holds.classed, List.all_eq_true.mpr holds.marked⟩]
    rfl

end Compound

/-- How the node of a compound has to lie above the node of the compound before it. -/
def Combinator.Joins (tree : StyleTree Node) (lower upper : Node) : Combinator → Prop
  | .parent => tree.parent? lower = some upper
  | .ancestor => tree.IsAbove upper lower

/-- Nodes for a compound and the compounds above it, in this order. Every compound holds
at its node, and every combinator joins the nodes beside it. -/
inductive Placed (tree : StyleTree Node) :
    Compound → List (Combinator × Compound) → List Node → Prop where
  | last {compound : Compound} {node : Node} (holds : compound.Holds tree node) :
      Placed tree compound [] [node]
  | step {compound next : Compound} {combinator : Combinator}
      {outer : List (Combinator × Compound)} {node upper : Node} {nodes : List Node}
      (holds : compound.Holds tree node) (joined : combinator.Joins tree node upper)
      (others : Placed tree next outer (upper :: nodes)) :
      Placed tree compound ((combinator, next) :: outer) (node :: upper :: nodes)

/-- A placement in which every ancestor is the nearest one from which the compounds that
are left can be placed at all. -/
inductive PlacedNearest (tree : StyleTree Node) :
    Compound → List (Combinator × Compound) → List Node → Prop where
  | last {compound : Compound} {node : Node} (holds : compound.Holds tree node) :
      PlacedNearest tree compound [] [node]
  | step {compound next : Compound} {combinator : Combinator}
      {outer : List (Combinator × Compound)} {node upper : Node} {nodes : List Node}
      (holds : compound.Holds tree node) (joined : combinator.Joins tree node upper)
      (nearest : combinator = .ancestor → ∀ between, tree.IsAbove between node →
        tree.IsAbove upper between → ¬ ∃ others, Placed tree next outer (between :: others))
      (others : PlacedNearest tree next outer (upper :: nodes)) :
      PlacedNearest tree compound ((combinator, next) :: outer) (node :: upper :: nodes)

/-- What compounds count for together, each at its own node. -/
def totalWeight (tree : StyleTree Node) (compounds : List Compound) (nodes : List Node) : Nat :=
  (List.zipWith (fun compound node => compound.weight tree node) compounds nodes).foldr (· + ·) 0

/-- A nearest placement is a placement. -/
theorem PlacedNearest.placed {tree : StyleTree Node} {compound : Compound}
    {outer : List (Combinator × Compound)} {nodes : List Node}
    (nearest : PlacedNearest tree compound outer nodes) : Placed tree compound outer nodes := by
  induction nearest with
  | last holds => exact .last holds
  | step holds joined _ _ others => exact .step holds joined others

/-- No two placements from a node are nearest.

Induction on the compounds above the first one. Two ancestors for the same compound are
the same, since else one of them lies below the other and the rest is placed there. -/
theorem PlacedNearest.unique {tree : StyleTree Node} {compound : Compound}
    {outer : List (Combinator × Compound)} {node : Node} {first second : List Node}
    (nearest : PlacedNearest tree compound outer (node :: first))
    (other : PlacedNearest tree compound outer (node :: second)) : first = second := by
  induction outer generalizing compound node first second with
  | nil =>
    cases nearest
    cases other
    rfl
  | cons head outer inductionHypothesis =>
    cases nearest with
    | @step _ next combinator _ _ upper nodes _ joined nearest others =>
      cases other with
      | @step _ _ _ _ _ upper' nodes' _ joined' nearest' others' =>
        have same : upper = upper' := by
          cases combinator with
          | parent => exact Option.some.inj (joined.symm.trans joined')
          | ancestor =>
            rcases tree.above_cases joined joined' with same | between | between
            · exact same
            · exact absurd ⟨nodes', others'.placed⟩ (nearest rfl upper' joined' between)
            · exact absurd ⟨nodes, others.placed⟩ (nearest' rfl upper joined between)
        subst same
        rw [inductionHypothesis others others']

namespace Selector

/-- The specificity of a compound at a node and of the compounds above it. -/
def partSpecificity? (tree : StyleTree Node) (compound : Compound)
    (outer : List (Combinator × Compound)) (node : Node) : Option Nat := do
  let own ← compound.specificity? tree node
  let rest ← outerSpecificity? tree outer node
  return own + rest

variable (tree : StyleTree Node) (compound : Compound) (outer : List (Combinator × Compound))
  (node : Node)

/-- A part of a selector has a specificity when its compound holds and the others have
one; it is the sum. -/
theorem part_iff (total : Nat) : partSpecificity? tree compound outer node = some total ↔
    compound.Holds tree node ∧ ∃ rest, outerSpecificity? tree outer node = some rest ∧
      total = compound.weight tree node + rest := by
  unfold partSpecificity?
  simp only [Option.bind_eq_bind, Option.bind_eq_some_iff, Option.pure_def, Option.some.injEq,
    Compound.specificity_iff]
  constructor
  · rintro ⟨_, ⟨holds, rfl⟩, rest, found, rfl⟩
    exact ⟨holds, rest, found, rfl⟩
  · rintro ⟨holds, rest, found, rfl⟩
    exact ⟨_, ⟨holds, rfl⟩, rest, found, rfl⟩

/-- Compounds that can be placed from a node are found there.

Induction on the compounds above the first one. The ancestor of the placement lies on the
line that is searched, so the search ends there at the latest. -/
theorem part_complete {nodes : List Node} (placed : Placed tree compound outer (node :: nodes)) :
    (partSpecificity? tree compound outer node).isSome := by
  rw [Option.isSome_iff_exists]
  simp only [part_iff]
  induction outer generalizing compound node nodes with
  | nil =>
    cases placed with
    | last holds => exact ⟨_, holds, 0, rfl, rfl⟩
  | cons head outer inductionHypothesis =>
    cases placed with
    | @step _ next combinator _ _ upper nodes holds joined others =>
      obtain ⟨total, found⟩ := inductionHypothesis next upper others
      rw [← part_iff] at found
      cases combinator with
      | parent =>
        have above : outerSpecificity? tree ((.parent, next) :: outer) node =
            (tree.parent? node).bind (partSpecificity? tree next outer) := rfl
        rw [above, joined]
        exact ⟨_, holds, total, found, rfl⟩
      | ancestor =>
        have searched : ((tree.ancestors node).findSome?
            (partSpecificity? tree next outer)).isSome :=
          List.findSome?_isSome_iff.mpr ⟨upper, (tree.mem_ancestors_iff upper node).mpr joined,
            Option.isSome_iff_exists.mpr ⟨total, found⟩⟩
        obtain ⟨rest, success⟩ := Option.isSome_iff_exists.mp searched
        exact ⟨_, holds, rest, success, rfl⟩

/-- What is found at a node is what the compounds count for in a nearest placement.

Induction on the compounds above the first one. A nearer ancestor has been passed over
because nothing was found there, and by `part_complete` nothing can be placed there. -/
theorem part_sound {total : Nat} (success : partSpecificity? tree compound outer node = some total) :
    ∃ nodes, PlacedNearest tree compound outer (node :: nodes) ∧
      total = totalWeight tree (compound :: outer.map Prod.snd) (node :: nodes) := by
  induction outer generalizing compound node total with
  | nil =>
    obtain ⟨holds, rest, found, rfl⟩ := (part_iff tree compound [] node total).mp success
    obtain rfl : 0 = rest := Option.some.inj found
    exact ⟨[], .last holds, rfl⟩
  | cons head outer inductionHypothesis =>
    obtain ⟨combinator, next⟩ := head
    obtain ⟨holds, rest, found, rfl⟩ := (part_iff tree compound _ node total).mp success
    cases combinator with
    | parent =>
      obtain ⟨upper, joined, found⟩ := Option.bind_eq_some_iff.mp found
      obtain ⟨nodes, others, rfl⟩ := inductionHypothesis next upper found
      exact ⟨upper :: nodes, .step holds joined nofun others, rfl⟩
    | ancestor =>
      obtain ⟨upper, joined, found, passed⟩ :=
        tree.found_nearest (partSpecificity? tree next outer) node found
      obtain ⟨nodes, others, rfl⟩ := inductionHypothesis next upper found
      refine ⟨upper :: nodes, .step holds joined ?_ others, rfl⟩
      rintro - between aboveNode belowUpper ⟨_, placed⟩
      have missed := passed between aboveNode belowUpper
      have hit := part_complete tree next outer between placed
      rw [missed] at hit
      cases hit

/-- The specificity of a matching selector is what its compounds count for in a nearest
placement. -/
theorem specificity_nearest (selector : Selector) {nodes : List Node}
    (nearest : PlacedNearest tree selector.subject selector.outer (node :: nodes)) :
    selector.specificity? tree node = some (totalWeight tree selector.compounds (node :: nodes)) := by
  have complete := part_complete tree selector.subject selector.outer node nearest.placed
  obtain ⟨total, found⟩ := Option.isSome_iff_exists.mp complete
  obtain ⟨others, other, rfl⟩ := part_sound tree selector.subject selector.outer node found
  obtain rfl : nodes = others := nearest.unique other
  exact found

/-- A selector without a specificity scores as one that does not match. -/
theorem score_missing (selector : Selector) (missing : selector.specificity? tree node = none) :
    selector.score tree node = noMatch := by
  unfold score
  rw [missing]

/-- The score of a selector whose specificity fits a word. The sum with the priority is held at
the largest word. -/
theorem score_held (selector : Selector) {specificity : Nat}
    (found : selector.specificity? tree node = some specificity)
    (bounded : specificity ≤ 2147483647) : (selector.score tree node).toInt =
      min (1 + 1000000 * selector.priority.toNat + specificity) 2147483647 := by
  have byte : selector.priority.toNat < 256 := selector.priority.toNat_lt
  have preferred : (Int32.ofNat (1 + selector.priority.toNat * Score.priorityWeight)).toInt =
      1 + 1000000 * selector.priority.toNat := by
    unfold Score.priorityWeight
    rw [Int32.toInt_ofNat_of_lt (by omega)]
    omega
  have specific : (Int32.ofNat specificity).toInt = specificity :=
    Int32.toInt_ofNat_of_lt (by omega)
  unfold score
  rw [found]
  show (Word.saturatingSumSigned _ _).toInt = _
  rw [Word.saturatingSumSigned_toInt, preferred, specific]
  omega

/-- The score of a selector that has a specificity, when their sum fits a word. -/
theorem score_fits (selector : Selector) {specificity : Nat}
    (found : selector.specificity? tree node = some specificity)
    (fits : 1 + 1000000 * selector.priority.toNat + specificity ≤ 2147483647) :
    (selector.score tree node).toInt = 1 + 1000000 * selector.priority.toNat + specificity := by
  rw [selector.score_held tree node found (by omega)]
  omega

/-- A selector matches a node exactly when its compounds can be placed, the subject at the
node. Then there is one placement that takes every ancestor as near as the rest of the
selector allows. The score is one more than a million for each step of priority and what
the compounds count for in this placement, provided that this fits a 32-bit word. -/
theorem matching_exact (selector : Selector) :
    ((selector.specificity? tree node).isSome ↔
      ∃ nodes, Placed tree selector.subject selector.outer (node :: nodes)) ∧
    ((selector.specificity? tree node).isSome →
      ∃! nodes, PlacedNearest tree selector.subject selector.outer (node :: nodes)) ∧
    ∀ nodes, PlacedNearest tree selector.subject selector.outer (node :: nodes) →
      let total :=
        1 + 1000000 * selector.priority.toNat + totalWeight tree selector.compounds (node :: nodes)
      total ≤ 2147483647 → (selector.score tree node).toInt = total := by
  have nearest (matched : (selector.specificity? tree node).isSome) :
      ∃ nodes, PlacedNearest tree selector.subject selector.outer (node :: nodes) := by
    obtain ⟨total, found⟩ := Option.isSome_iff_exists.mp matched
    obtain ⟨nodes, nearest, _⟩ := part_sound tree selector.subject selector.outer node found
    exact ⟨nodes, nearest⟩
  refine ⟨⟨?_, ?_⟩, ?_, ?_⟩
  · intro matched
    obtain ⟨nodes, nearest⟩ := nearest matched
    exact ⟨nodes, nearest.placed⟩
  · rintro ⟨nodes, placed⟩
    exact part_complete tree selector.subject selector.outer node placed
  · intro matched
    obtain ⟨nodes, nearest⟩ := nearest matched
    exact ⟨nodes, nearest, fun others other => other.unique nearest⟩
  · intro nodes nearest total fits
    have score := selector.score_fits tree node (specificity_nearest tree node selector nearest) fits
    rw [score]
    rfl

/-- A menu with an item, in which another item holds a button, but not directly. Each node
is below the one with the number before its own. -/
def menuTree : StyleTree Nat where
  ancestors node := (List.range node).reverse
  typeDepth? node name := if node = 4 ∧ name = "Widget" then some 1 else none
  elementId? _ := none
  hasClass node name :=
    node == 0 && name == "menu" || (node == 1 || node == 3) && name == "item"
  hasPseudoClass _ _ := false
  ancestors_tail := by
    intro node parent rest line
    cases node with
    | zero => cases line
    | succ node =>
      rw [List.range_succ, List.reverse_concat] at line
      obtain ⟨rfl, rfl⟩ := List.cons.inj line
      rfl

/-- The selector of a widget in an item directly below a menu, with a priority. -/
def menuSelector : Selector where
  subject := .ofType "Widget"
  outer := [(.ancestor, { Compound.universal with classes := ["item"] }),
    (.parent, { Compound.universal with classes := ["menu"] })]
  priority := 2
  source := .unknown

/-- The nearer item is passed over, since it is not directly below the menu. -/
theorem matching_passes_nearer_item :
    (menuSelector.specificity? menuTree 4).isSome ∧
      (∃! nodes, PlacedNearest menuTree menuSelector.subject menuSelector.outer (4 :: nodes)) ∧
      PlacedNearest menuTree menuSelector.subject menuSelector.outer [4, 1, 0] ∧
      (menuSelector.score menuTree 4).toInt = 2000210 := by
  have matched : (menuSelector.specificity? menuTree 4).isSome := by decide
  have missed : ∀ between ∈ menuTree.ancestors 4, 1 ∈ menuTree.ancestors between →
      partSpecificity? menuTree { Compound.universal with classes := ["item"] }
        [(.parent, { Compound.universal with classes := ["menu"] })] between = none := by decide
  have nearest : PlacedNearest menuTree menuSelector.subject menuSelector.outer [4, 1, 0] := by
    refine .step ?_ ((menuTree.mem_ancestors_iff 1 4).mp (by decide)) ?_
      (.step ?_ rfl nofun (.last ?_))
    · exact ((Compound.specificity_iff _ menuTree 4 9).mp (by decide)).1
    · rintro - between aboveNode belowUpper ⟨others, placed⟩
      have found := part_complete menuTree _ _ between placed
      rw [← menuTree.mem_ancestors_iff] at aboveNode belowUpper
      rw [missed between aboveNode belowUpper] at found
      cases found
    · exact ((Compound.specificity_iff _ menuTree 1 100).mp (by decide)).1
    · exact ((Compound.specificity_iff _ menuTree 0 100).mp (by decide)).1
  obtain ⟨_, unique, scored⟩ := matching_exact menuTree 4 menuSelector
  exact ⟨matched, unique matched, nearest, scored [1, 0] nearest (by decide)⟩

end Selector

end ThemeMotion
