import Mathlib.Data.List.Nodup
import Mathlib.Logic.Function.Iterate
import ThemeMotion.Animation.Target
import ThemeMotion.Proofs.Selector.Matching
import ThemeMotion.Proofs.Stage.Growing

/-!
# Walks through a tree

The actors of a target are found by a walk that keeps the nodes still to be visited in a
row: the first of them is visited and gives way to its children. Such a walk visits a part
of the tree in the order of the recursive definition, a node before all that is below it
and the part below one child before the part below the next. It ends after as many visits
as there are nodes in the part.

That no node is visited twice, and that none is left out, holds of trees in which parents
and children are two directions of one relation. The stages are trees of this kind, however
they were grown. What makes a selector match is taken as it is.
-/

namespace ThemeMotion

variable {Node : Type}

namespace ActorTree

variable (tree : ActorTree Node) (keep : Node → Bool)

/-- A node comes before all that is below it, and what is below one child before what is
below the next. -/
theorem preorder_eq (node : Node) :
    tree.preorder node = node :: (tree.children node).flatMap tree.preorder := by
  rw [preorder, List.flatMap_subtype]
  · rw [List.unattach_attach]
  · exact fun _ _ => rfl

/-- The walk keeps what the recursive order holds, part by part.

Induction along the walk: a visited node gives way to its children, which is what the
recursive order does with it. -/
theorem walk_eq (pending : List Node) :
    tree.walk keep pending = (pending.flatMap tree.preorder).filter keep := by
  fun_induction tree.walk keep pending with
  | case1 => rfl
  | case2 node pending others kept inductionHypothesis =>
    rw [List.flatMap_cons, preorder_eq, List.cons_append, List.filter_cons_of_pos kept,
      ← List.flatMap_append, ← inductionHypothesis]
  | case3 node pending others passed inductionHypothesis =>
    rw [List.flatMap_cons, preorder_eq, List.cons_append, List.filter_cons_of_neg passed,
      ← List.flatMap_append, ← inductionHypothesis]

/-- A walk under way: the nodes to be visited, the next one first, and those kept so far. -/
@[ext]
structure Walk (Node : Type) where
  pending : List Node
  kept : List Node

/-- One visit of a walk. -/
def Walk.visit (children : Node → List Node) (keep : Node → Bool) : Walk Node → Walk Node
  | ⟨[], kept⟩ => ⟨[], kept⟩
  | ⟨node :: pending, kept⟩ =>
    ⟨children node ++ pending, kept ++ if keep node then [node] else []⟩

/-- The nodes that lie ahead of a walk, in the recursive order. -/
def ahead (walk : Walk Node) : List Node := walk.pending.flatMap tree.preorder

/-- Nothing lies ahead of a walk only at its end. -/
theorem ahead_eq_nil_iff (walk : Walk Node) : tree.ahead walk = [] ↔ walk.pending = [] := by
  obtain ⟨pending, kept⟩ := walk
  cases pending with
  | nil => simp [ahead]
  | cons node pending => simp [ahead, preorder_eq]

/-- A visit takes the first of the nodes ahead, and keeps it or not. -/
theorem visit_ahead (walk : Walk Node) :
    tree.ahead (walk.visit tree.children keep) = (tree.ahead walk).drop 1 ∧
      (walk.visit tree.children keep).kept =
        walk.kept ++ ((tree.ahead walk).take 1).filter keep := by
  obtain ⟨pending, kept⟩ := walk
  cases pending with
  | nil => simp [Walk.visit, ahead]
  | cons node pending =>
    refine ⟨by simp [Walk.visit, ahead, preorder_eq tree node], ?_⟩
    by_cases chosen : keep node <;> simp [Walk.visit, ahead, preorder_eq tree node, chosen]

/-- Visits take as many of the nodes ahead as there are visits, in their order.

Induction on the number of visits: the last one takes the next node. -/
theorem visits_ahead (walk : Walk Node) (count : Nat) :
    tree.ahead ((Walk.visit tree.children keep)^[count] walk) = (tree.ahead walk).drop count ∧
      ((Walk.visit tree.children keep)^[count] walk).kept =
        walk.kept ++ ((tree.ahead walk).take count).filter keep := by
  induction count with
  | zero => simp
  | succ count inductionHypothesis =>
    obtain ⟨left, kept⟩ := inductionHypothesis
    rw [Function.iterate_succ_apply']
    obtain ⟨left', kept'⟩ :=
      tree.visit_ahead keep ((Walk.visit tree.children keep)^[count] walk)
    rw [left', kept', left, kept]
    refine ⟨by rw [List.drop_drop], ?_⟩
    rw [List.append_assoc, ← List.filter_append, ← List.take_add]

/-- A walk from a node ends after as many visits as there are nodes at and below it, and
not before; what it has kept then is what the walk gives. -/
theorem visits_end (node : Node) (count : Nat) :
    ((Walk.visit tree.children keep)^[count] ⟨[node], []⟩).pending = [] ↔
      (tree.preorder node).length ≤ count := by
  rw [← ahead_eq_nil_iff, (tree.visits_ahead keep _ count).1, List.drop_eq_nil_iff]
  simp [ahead]

/-- What a walk from a node has kept at its end is what the recursive order holds. -/
theorem visits_kept (node : Node) :
    (Walk.visit tree.children keep)^[(tree.preorder node).length] ⟨[node], []⟩ =
      ⟨[], tree.walk keep [node]⟩ := by
  have ended := (tree.visits_end keep node _).mpr (Nat.le_refl _)
  have kept := (tree.visits_ahead keep ⟨[node], []⟩ (tree.preorder node).length).2
  have all : tree.ahead ⟨[node], []⟩ = tree.preorder node := by simp [ahead]
  rw [all, List.take_length, List.nil_append] at kept
  have walked : tree.walk keep [node] = (tree.preorder node).filter keep := by simp [walk_eq]
  exact Walk.ext ended (kept.trans walked.symm)

/-- Parents and children are two directions of one relation, and a node has no child
twice. -/
structure Agrees : Prop where
  children_iff : ∀ node child, child ∈ tree.children node ↔ tree.parent? child = some node
  apart : ∀ node, (tree.children node).Nodup

variable {tree}

namespace Agrees

variable (agrees : tree.Agrees)
include agrees

/-- The recursive order of a part of the tree holds its uppermost node and all nodes that
this one is above, and no others. -/
theorem mem_preorder_iff (node other : Node) :
    other ∈ tree.preorder node ↔ other = node ∨ tree.IsAbove node other := by
  constructor
  · intro member
    induction size : tree.rank node using Nat.strongRecOn generalizing node with
    | ind rank inductionHypothesis =>
      rw [preorder_eq, List.mem_cons, List.mem_flatMap] at member
      rcases member with same | ⟨child, below, member⟩
      · exact .inl same
      · have next : tree.IsAbove node child := .single ((agrees.children_iff node child).mp below)
        have lower := tree.rank_lt node child below
        rcases inductionHypothesis _ (size ▸ lower) child member rfl with rfl | above
        · exact .inr next
        · exact .inr (.trans above next)
  · rintro (rfl | above)
    · rw [preorder_eq]
      exact List.mem_cons_self
    · induction above with
      | single next =>
        rw [preorder_eq]
        refine List.mem_cons_of_mem _ (List.mem_flatMap.mpr
          ⟨other, (agrees.children_iff _ other).mpr next, ?_⟩)
        rw [preorder_eq]
        exact List.mem_cons_self
      | tail _ next inductionHypothesis =>
        rw [preorder_eq]
        exact List.mem_cons_of_mem _ (List.mem_flatMap.mpr
          ⟨_, (agrees.children_iff _ _).mpr next, inductionHypothesis⟩)

omit agrees in
/-- Of two nodes with the same parent, none is above the other. -/
theorem siblings_apart {parent first second : Node} (own : tree.parent? first = some parent)
    (same : tree.parent? second = some parent) : ¬ tree.IsAbove first second := by
  intro above
  rw [← tree.mem_ancestors_iff, (tree.parent_iff second parent).mp same, List.mem_cons,
    tree.mem_ancestors_iff] at above
  have next : tree.IsAbove parent first := .single own
  rcases above with rfl | above
  · exact tree.not_above_self _ next
  · exact tree.not_above_self _ (.trans above next)

/-- The parts below two children of a node have no node in common. Such a node would have both
children on its line, so that one would be above the other. -/
theorem children_disjoint {node first second : Node} (below : first ∈ tree.children node)
    (other : second ∈ tree.children node) (different : first ≠ second) :
    (tree.preorder first).Disjoint (tree.preorder second) := by
  have own := (agrees.children_iff node first).mp below
  have same := (agrees.children_iff node second).mp other
  intro common inFirst inSecond
  rcases (agrees.mem_preorder_iff first common).mp inFirst with rfl | aboveFirst
  · rcases (agrees.mem_preorder_iff second common).mp inSecond with equal | aboveSecond
    · exact different equal
    · exact siblings_apart same own aboveSecond
  · rcases (agrees.mem_preorder_iff second common).mp inSecond with rfl | aboveSecond
    · exact siblings_apart own same aboveFirst
    · rcases tree.above_cases aboveFirst aboveSecond with equal | between | between
      · exact different equal
      · exact siblings_apart own same between
      · exact siblings_apart same own between

/-- The recursive order has no node twice.

Induction on the rank of the uppermost node: the parts below its children are apart, and
it is in none of them. -/
theorem preorder_nodup (node : Node) : (tree.preorder node).Nodup := by
  induction size : tree.rank node using Nat.strongRecOn generalizing node with
  | ind rank inductionHypothesis =>
    rw [preorder_eq, List.nodup_cons, List.nodup_flatMap]
    refine ⟨?_, ?_, ?_⟩
    · intro again
      obtain ⟨child, below, member⟩ := List.mem_flatMap.mp again
      have next : tree.IsAbove node child := .single ((agrees.children_iff node child).mp below)
      rcases (agrees.mem_preorder_iff child node).mp member with rfl | above
      · exact tree.not_above_self _ next
      · exact tree.not_above_self _ (.trans next above)
    · intro child below
      exact inductionHypothesis _ (size ▸ tree.rank_lt node child below) child rfl
    · refine (agrees.apart node).imp_of_mem ?_
      intro first second below other different
      exact agrees.children_disjoint below other different

end Agrees

end ActorTree

namespace Stage

/-- The nearest ancestor on a stage is the parent. -/
theorem tree_parent? (stage : Stage) (node : Nat) : stage.tree.parent? node = stage.parent? node := by
  show (stage.ancestors node).head? = stage.parent? node
  rw [ancestors_eq]
  cases stage.parent? node <;> rfl

/-- Only nodes of the stage have a parent. -/
theorem parent?_inside (stage : Stage) {node parent : Nat}
    (above : stage.parent? node = some parent) : node < stage.size := by
  cases node with
  | zero => cases above
  | succ index =>
    obtain ⟨entry, found, -⟩ := Option.map_eq_some_iff.mp above
    exact Nat.succ_lt_succ (List.getElem?_eq_some_iff.mp found).1

/-- Parents and children agree on every stage. -/
theorem tree_agrees (stage : Stage) : stage.tree.Agrees := by
  constructor
  · intro node child
    rw [tree_parent?]
    refine (stage.mem_children node child).trans ⟨And.right, ?_⟩
    intro above
    exact ⟨stage.parent?_inside above, above⟩
  · intro node
    exact List.nodup_range.filter _

end Stage

/-- The actors of a target with a selector are what the walk from its start keeps. -/
theorem Target.resolve_selector (target : Target) (tree : ActorTree Node) (sender : Node)
    {selector : Selector} (selecting : target.selector = some selector) :
    (target.resolve tree sender).value =
      tree.walk (selector.isMatch tree.toStyleTree) [target.origin.start tree sender] := by
  unfold resolve
  rw [selecting]
  rfl

/-- On every stage that comes of a root by changes, the actors of a target with a selector
are those that the selector matches among the sender, or the root of the stage, and all
actors below, in the recursive order: an actor comes before the parts below its children,
and its children come in the order in which they were added. The walk that finds them ends
after as many visits as there are actors in the part that it searches, and not before. No
actor is found twice, and every actor of that part which the selector matches is found. -/
theorem Target.resolve_exact (root : Actor) (changes : List Stage.Change) (target : Target)
    (selector : Selector) (selecting : target.selector = some selector) (sender : Nat) :
    let stage := (Stage.ofRoot root).run changes
    let start := target.origin.start stage.tree sender
    let keep := selector.isMatch stage.tree.toStyleTree
    let actors := (target.resolve stage.tree sender).value
    (∀ node, stage.tree.preorder node =
      node :: (stage.tree.children node).flatMap stage.tree.preorder) ∧
    (∀ node, stage.tree.children node =
      Stage.addedTo node ((Stage.ofRoot root).addedBy changes)) ∧
    actors = (stage.tree.preorder start).filter keep ∧
    (∀ count, ((ActorTree.Walk.visit stage.tree.children keep)^[count] ⟨[start], []⟩).pending = [] ↔
      (stage.tree.preorder start).length ≤ count) ∧
    (ActorTree.Walk.visit stage.tree.children keep)^[(stage.tree.preorder start).length]
      ⟨[start], []⟩ = ⟨[], actors⟩ ∧
    actors.Nodup ∧
    ∀ node, node ∈ actors ↔
      (node = start ∨ stage.tree.IsAbove start node) ∧ keep node := by
  intro stage start keep actors
  have found : actors = stage.tree.walk keep [start] :=
    target.resolve_selector stage.tree sender selecting
  have ordered : actors = (stage.tree.preorder start).filter keep := by
    simp [found, ActorTree.walk_eq]
  refine ⟨stage.tree.preorder_eq, ?_, ordered, stage.tree.visits_end keep start, ?_, ?_, ?_⟩
  · intro node
    have grown := (Stage.ofRoot root).children_run changes node
    rwa [Stage.children_ofRoot, List.nil_append] at grown
  · rw [found]
    exact stage.tree.visits_kept keep start
  · rw [ordered]
    exact (stage.tree_agrees.preorder_nodup start).filter _
  · intro node
    rw [ordered, List.mem_filter, stage.tree_agrees.mem_preorder_iff]

/-- Rows with items: an item is added to the root before the second item of the row, but
behind the row. -/
def rowChanges : List Stage.Change :=
  [.addChild 0 (.ofTypes ["Row"]), .addChild 1 (.ofTypes ["Item"]),
    .addChild 0 (.ofTypes ["Item"]), .addChild 1 (.ofTypes ["Item"])]

/-- A target of all items of a stage. -/
def itemTarget : Target := ⟨some ⟨.ofType "Item", [], 0, .unknown⟩, .stage, ⟨0, 100, .standard, 0⟩, []⟩

/-- The items of the row are found before the item that was added to the root, also the one
that was added after it. -/
theorem resolve_row_first :
    let stage := (Stage.ofRoot (.ofTypes ["Box"])).run rowChanges
    (itemTarget.resolve stage.tree 3).value = [2, 4, 3] ∧
      (stage.tree.preorder 0).filter (Selector.isMatch ⟨.ofType "Item", [], 0, .unknown⟩
        stage.tree.toStyleTree) = [2, 4, 3] := by
  intro stage
  have walked : (itemTarget.resolve stage.tree 3).value = [2, 4, 3] := by decide +kernel
  have exactly := Target.resolve_exact (.ofTypes ["Box"]) rowChanges itemTarget
    ⟨.ofType "Item", [], 0, .unknown⟩ rfl 3
  exact ⟨walked, exactly.2.2.1.symm.trans walked⟩

end ThemeMotion
