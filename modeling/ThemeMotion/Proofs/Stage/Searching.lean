import ThemeMotion.Proofs.Selector.Ranks
import ThemeMotion.Proofs.Stage.Walking

/-!
# Searching a stage and its parts

A search for actors runs over the whole stage or over the part at and below one actor. The
part lies in the order of the whole as one block, so a search that begins lower finds what
the search of the whole stage finds there, and in the same order. Where a search begins has
no part in matching: a selector sees the same ancestors of a node from everywhere, also
those above the beginning.

A search by name goes over the whole stage on its own and stops at the first actor. It is
compared with the search for an id. How a stage was grown is not described, nor which
actors a selector matches.
-/

namespace ThemeMotion

variable {Node : Type}

/-- On a line of ancestors it can be looked up whether one node is above another. -/
instance StyleTree.decidableIsAbove [DecidableEq Node] (tree : StyleTree Node)
    (upper lower : Node) : Decidable (tree.IsAbove upper lower) :=
  decidable_of_iff _ (tree.mem_ancestors_iff upper lower)

namespace ActorTree.Agrees

variable {tree : ActorTree Node} (agrees : tree.Agrees)
include agrees

/-- What is below a child lies in one block of what is below its parent. -/
theorem preorder_child {parent child : Node} (joined : tree.parent? child = some parent) :
    ∃ before behind, tree.preorder parent = before ++ tree.preorder child ++ behind := by
  obtain ⟨elder, younger, children⟩ :=
    List.append_of_mem ((agrees.children_iff parent child).mpr joined)
  refine ⟨parent :: elder.flatMap tree.preorder, younger.flatMap tree.preorder, ?_⟩
  rw [preorder_eq, children, List.flatMap_append, List.flatMap_cons, List.cons_append,
    List.cons_append, List.append_assoc]

/-- What is below a node lies in one block of what is below any node above it.

Induction along the line from the lower node to the upper one. -/
theorem preorder_block {upper lower : Node} (above : tree.IsAbove upper lower) :
    ∃ before behind, tree.preorder upper = before ++ tree.preorder lower ++ behind := by
  induction above with
  | single joined => exact agrees.preorder_child joined
  | tail _ joined inductionHypothesis =>
    obtain ⟨before, behind, inner⟩ := inductionHypothesis
    obtain ⟨before', behind', outer⟩ := agrees.preorder_child joined
    refine ⟨before' ++ before, behind ++ behind', ?_⟩
    rw [outer, inner]
    simp only [List.append_assoc]

/-- The block of a node holds all of the nodes at and below it, so the nodes before and
behind the block are others. -/
theorem preorder_apart {upper lower : Node} {before behind : List Node}
    (block : tree.preorder upper = before ++ tree.preorder lower ++ behind) :
    ∀ other ∈ before ++ behind, ¬ (other = lower ∨ tree.IsAbove lower other) := by
  intro other outside within
  have inside : other ∈ tree.preorder lower := (agrees.mem_preorder_iff lower other).mpr within
  have once : (before ++ tree.preorder lower ++ behind).Nodup :=
    block ▸ agrees.preorder_nodup upper
  obtain ⟨front, -, apartBehind⟩ := List.nodup_append.mp once
  obtain ⟨-, -, apartBefore⟩ := List.nodup_append.mp front
  rcases List.mem_append.mp outside with earlier | later
  · exact apartBefore other earlier other inside rfl
  · exact apartBehind other (List.mem_append_right _ inside) other later rfl

/-- The block of a node is what the whole holds of the nodes at and below it. -/
theorem filter_block [DecidableEq Node] {upper lower : Node} {before behind : List Node}
    (block : tree.preorder upper = before ++ tree.preorder lower ++ behind) :
    (tree.preorder upper).filter (fun node => node = lower ∨ tree.IsAbove lower node) =
      tree.preorder lower := by
  have apart := agrees.preorder_apart block
  have outside (part : List Node) (others : ∀ node ∈ part, node ∈ before ++ behind) :
      part.filter (fun node => node = lower ∨ tree.IsAbove lower node) = [] := by
    rw [List.filter_eq_nil_iff]
    intro node member
    simpa using apart node (others node member)
  have inside : (tree.preorder lower).filter
      (fun node => node = lower ∨ tree.IsAbove lower node) = tree.preorder lower := by
    rw [List.filter_eq_self]
    intro node member
    simpa using (agrees.mem_preorder_iff lower node).mp member
  rw [block, List.filter_append, List.filter_append, inside,
    outside before fun _ => List.mem_append_left _,
    outside behind fun _ => List.mem_append_right _, List.nil_append, List.append_nil]

end ActorTree.Agrees

namespace Stage

variable (stage : Stage)

/-- Every actor but the root is below the root.

Induction on the number of the actor: that of its parent is smaller. -/
theorem isAbove_root {node : Nat} (inside : node < stage.size) :
    node = 0 ∨ stage.tree.IsAbove 0 node := by
  induction node using Nat.strongRecOn with
  | ind node inductionHypothesis =>
    cases node with
    | zero => exact .inl rfl
    | succ index =>
      have found : index < stage.added.length := Nat.lt_of_succ_lt_succ inside
      have joined : stage.parent? (index + 1) = some stage.added[index].1 :=
        congrArg (Option.map Prod.fst) (List.getElem?_eq_getElem found)
      have lower := stage.parent?_lt _ _ joined
      have next : stage.tree.parent? (index + 1) = some stage.added[index].1 :=
        (stage.tree_parent? _).trans joined
      rcases inductionHypothesis _ lower (Nat.lt_trans lower inside) with root | above
      · exact .inr (.single (root ▸ next))
      · exact .inr (.head next above)

/-- The order of the whole stage holds its actors and nothing else. -/
theorem mem_preorder_root (node : Nat) : node ∈ stage.tree.preorder 0 ↔ node < stage.size := by
  rw [stage.tree_agrees.mem_preorder_iff]
  refine ⟨?_, stage.isAbove_root⟩
  rintro (rfl | above)
  · exact Nat.succ_pos _
  · obtain ⟨parent, joined, -⟩ := Relation.TransGen.head'_iff.mp above
    exact stage.parent?_inside ((stage.tree_parent? node).symm.trans joined)

end Stage

/-- The actors of a target with a selector are those that the selector matches, in the
recursive order of the part that is searched. -/
theorem Target.resolve_preorder (target : Target) (tree : ActorTree Node) (sender : Node)
    {selector : Selector} (selecting : target.selector = some selector) :
    (target.resolve tree sender).value =
      (tree.preorder (target.origin.start tree sender)).filter
        (selector.isMatch tree.toStyleTree) := by
  rw [target.resolve_selector tree sender selecting, ActorTree.walk_eq, List.flatMap_singleton]

/-- A selector whose score fits matches a node where its compounds can be placed, the subject
at the node. -/
theorem Selector.isMatch_placed_iff (tree : StyleTree Node) (node : Node) {selector : Selector}
    (fits : selector.Fits tree node) : selector.isMatch tree node = true ↔
      ∃ above, Placed tree selector.subject selector.outer (node :: above) := by
  constructor
  · intro matched
    obtain ⟨above, nearest⟩ := isMatch_placed tree node fits matched
    exact ⟨above, nearest.placed⟩
  · rintro ⟨above, placed⟩
    exact (isMatch_iff tree node fits).mpr
      (part_complete tree selector.subject selector.outer node placed)

/-- On every stage, however it was grown, the actors that a selector finds when the search
begins at the sender are those that it finds when the search begins at the root, as far as
they are the sender or below it. They come in the same order and stand in one block among the
others. At the sender and below it a node is found exactly when the selector matches it on
the whole stage. Where the score fits a word, this is so when the compounds can be placed at
the node and anywhere above it, also above the sender. -/
theorem Target.origin_restricts (stage : Stage) (selector : Selector) (timeline : Timeline)
    (properties : List PropertyTarget) (sender : Nat) (inside : sender < stage.size) :
    let actors := fun origin : Origin =>
      (Target.resolve ⟨some selector, origin, timeline, properties⟩ stage.tree sender).value
    actors .sender =
      (actors .stage).filter (fun node => node = sender ∨ stage.tree.IsAbove sender node) ∧
    (∃ before behind, actors .stage = before ++ actors .sender ++ behind) ∧
    ∀ node, node = sender ∨ stage.tree.IsAbove sender node →
      (node ∈ actors .sender ↔ selector.isMatch stage.tree.toStyleTree node) ∧
      (selector.Fits stage.tree.toStyleTree node → (node ∈ actors .sender ↔
        ∃ above, Placed stage.tree.toStyleTree selector.subject selector.outer
          (node :: above))) := by
  intro actors
  let keep := selector.isMatch stage.tree.toStyleTree
  have whole : actors .stage = (stage.tree.preorder 0).filter keep :=
    Target.resolve_preorder _ stage.tree sender rfl
  have part : actors .sender = (stage.tree.preorder sender).filter keep :=
    Target.resolve_preorder _ stage.tree sender rfl
  obtain ⟨before, behind, block⟩ : ∃ before behind,
      stage.tree.preorder 0 = before ++ stage.tree.preorder sender ++ behind := by
    rcases stage.isAbove_root inside with rfl | above
    · exact ⟨[], [], by simp⟩
    · exact stage.tree_agrees.preorder_block above
  refine ⟨?_, ⟨before.filter keep, behind.filter keep, ?_⟩, ?_⟩
  · rw [whole, part, List.filter_comm, stage.tree_agrees.filter_block block]
  · rw [whole, part, block, List.filter_append, List.filter_append]
  · intro node within
    have matched : node ∈ actors .sender ↔ selector.isMatch stage.tree.toStyleTree node := by
      rw [part, List.mem_filter, stage.tree_agrees.mem_preorder_iff]
      exact and_iff_right within
    exact ⟨matched, fun fits => matched.trans (Selector.isMatch_placed_iff _ node fits)⟩

/-- A panel with a row of one button, and a button beside the row. -/
def panelChanges : List Stage.Change :=
  [.addChild 0 (.ofTypes ["Panel"]), .addChild 1 (.ofTypes ["Row"]),
    .addChild 2 (.ofTypes ["Button"]), .addChild 1 (.ofTypes ["Button"])]

/-- The selector of all buttons directly or indirectly in a panel. -/
def panelButton : Selector := ⟨.ofType "Button", [(.ancestor, .ofType "Panel")], 0, .unknown⟩

/-- A search from the row finds the button of the row alone. The panel that the selector asks
for lies above the row. -/
theorem origin_restricts_row :
    let stage := (Stage.ofRoot (.ofTypes ["Desktop"])).run panelChanges
    let actors := fun origin : Origin =>
      (Target.resolve ⟨some panelButton, origin, ⟨0, 100, .standard, 0⟩, []⟩ stage.tree 2).value
    2 < stage.size ∧ actors .stage = [3, 4] ∧ actors .sender = [3] ∧
      actors .sender =
        (actors .stage).filter (fun node => node = 2 ∨ stage.tree.IsAbove 2 node) ∧
      ∃ above, Placed stage.tree.toStyleTree panelButton.subject panelButton.outer
        (3 :: above) := by
  intro stage actors
  have inside : 2 < stage.size := by decide
  have whole : actors .stage = [3, 4] := by decide +kernel
  have part : actors .sender = [3] := by decide +kernel
  obtain ⟨restricted, -, matching⟩ :=
    Target.origin_restricts stage panelButton ⟨0, 100, .standard, 0⟩ [] 2 inside
  have below : stage.tree.IsAbove 2 3 := (stage.tree.mem_ancestors_iff 2 3).mp (by decide +kernel)
  have found : panelButton.specificity? stage.tree.toStyleTree 3 = some 20 := by decide +kernel
  have fits := Selector.fits_of stage.tree.toStyleTree 3 found (by decide)
  have member : 3 ∈ actors .sender := part ▸ List.mem_singleton.mpr rfl
  exact ⟨inside, whole, part, restricted, ((matching 3 (.inr below)).2 fits).mp member⟩

/-- The selector of an id alone. -/
def Selector.named (name : String) (priority : UInt8) (source : SourcePosition) : Selector :=
  ⟨{ Compound.universal with id := some name }, [], priority, source⟩

/-- A selector of an id alone matches the nodes that have this id, whatever its priority. -/
theorem Selector.named_isMatch_iff (tree : StyleTree Node) (node : Node) (name : String)
    (priority : UInt8) (source : SourcePosition) :
    (named name priority source).isMatch tree node = true ↔ tree.elementId? node = some name := by
  have whole : (named name priority source).specificity? tree node =
      if tree.elementId? node = some name then some 10000 else none := by
    by_cases identified : tree.elementId? node = some name
    · simp [identified, named, specificity?, outerSpecificity?, Compound.specificity?,
        Compound.universal, Score.idWeight]
    · simp [identified, named, specificity?, Compound.specificity?, Compound.universal]
  have bounded : priority.toNat < 256 := priority.toNat_lt
  have fits : (named name priority source).Fits tree node := by
    intro specificity found
    rw [whole] at found
    have limit : specificity = 10000 := by
      split at found
      · exact (Option.some.inj found).symm
      · cases found
    have declared : (named name priority source).priority.toNat = priority.toNat := rfl
    omega
  rw [isMatch_iff tree node fits, whole]
  by_cases identified : tree.elementId? node = some name <;> simp [identified]

/-- An actor is found by its name exactly as the first of the actors that the selector of the
id finds on the stage, from any sender, and none is found exactly when there are none of
these. They are the actors of the stage that have the name, in the recursive order. So of
several actors of one name the first in this order is found. -/
theorem Stage.findByName_exact (stage : Stage) (name : String) (priority : UInt8)
    (source : SourcePosition) (timeline : Timeline) (properties : List PropertyTarget)
    (sender : Nat) :
    let selector := Selector.named name priority source
    let actors :=
      (Target.resolve ⟨some selector, .stage, timeline, properties⟩ stage.tree sender).value
    stage.findByName? name = actors.head? ∧
    (stage.findByName? name = none ↔ actors = []) ∧
    (∀ node, node ∈ actors ↔
      node < stage.size ∧ ∃ actor, stage.actor? node = some actor ∧ actor.name = some name) ∧
    ∀ node, stage.findByName? name = some node ↔
      ∃ earlier later, stage.tree.preorder 0 = earlier ++ node :: later ∧
        stage.tree.elementId? node = some name ∧
        ∀ other ∈ earlier, stage.tree.elementId? other ≠ some name := by
  intro selector actors
  let isNamed (node : Nat) : Bool := stage.tree.elementId? node == some name
  have kept : selector.isMatch stage.tree.toStyleTree = isNamed := by
    funext node
    rw [Bool.eq_iff_iff, Selector.named_isMatch_iff, beq_iff_eq]
  have found : actors = (stage.tree.preorder 0).filter isNamed := by
    rw [← kept]
    exact Target.resolve_preorder _ stage.tree sender rfl
  have searched : stage.findByName? name = (stage.tree.preorder 0).find? isNamed := rfl
  have first : stage.findByName? name = actors.head? := by
    rw [searched, found, List.head?_filter]
  refine ⟨first, ?_, ?_, ?_⟩
  · rw [first, List.head?_eq_none_iff]
  · intro node
    rw [found, List.mem_filter, stage.mem_preorder_root, beq_iff_eq]
    exact and_congr_right fun _ => Option.bind_eq_some_iff
  · intro node
    rw [searched, List.find?_eq_some_iff_append]
    simp [isNamed, and_left_comm]

end ThemeMotion
