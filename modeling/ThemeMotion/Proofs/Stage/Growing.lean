import ThemeMotion.Stage.Basic

/-!
# How stages grow

A stage starts with its root. Actors are added to nodes that are there already, and the
pseudo-classes and properties of actors change; no actor is moved and none is removed. So
the children of a node are the actors that were added to it, in the order of adding, and
other changes leave parents and children as they are.

Changes that are refused are changes too: they leave the stage alone. What changes do to
the actors themselves is not described.
-/

namespace ThemeMotion.Stage

/-- A change of a stage. -/
inductive Change where
  | addChild (parent : Nat) (actor : Actor)
  | setPseudoClass (node : Nat) (pseudoClass : String) (on : Bool)
  | setProperty (node : Nat) (name : String) (value : Value)

/-- The stage after a change, whatever was answered. -/
def after (stage : Stage) : Change → Stage
  | .addChild parent actor => ((stage.addChild? parent actor).map Prod.fst).getD stage
  | .setPseudoClass node pseudoClass on => stage.setPseudoClass node pseudoClass on
  | .setProperty node name value => (stage.setProperty node name value).toOption.getD stage

/-- The stage after changes, one after the other. -/
def run (stage : Stage) (changes : List Change) : Stage := changes.foldl after stage

/-- The actor that a change adds, as its number behind the number of its parent. -/
def added? (stage : Stage) : Change → Option (Nat × Nat)
  | .addChild parent actor => (stage.addChild? parent actor).map fun grown => (parent, grown.2)
  | _ => none

/-- The actors that changes add, in the order of adding. -/
def addedBy (stage : Stage) : List Change → List (Nat × Nat)
  | [] => []
  | change :: rest => (stage.added? change).toList ++ (stage.after change).addedBy rest

/-- Those of added actors that were added to a node. -/
def addedTo (node : Nat) (added : List (Nat × Nat)) : List Nat :=
  (added.filter (·.1 = node)).map Prod.snd

section Update

variable (stage : Stage) (node : Nat) (change : Actor → Actor)

/-- A change of one actor adds none. -/
theorem size_update : (stage.update node change).size = stage.size := by
  cases node with
  | zero => rfl
  | succ index => simp [update, size]

/-- A change of one actor moves none. -/
theorem parent?_update (other : Nat) :
    (stage.update node change).parent? other = stage.parent? other := by
  cases node with
  | zero => rfl
  | succ index =>
    cases other with
    | zero => rfl
    | succ other =>
      show ((stage.added.modify index (Prod.map id change))[other]?).map Prod.fst =
        stage.added[other]?.map Prod.fst
      rw [List.getElem?_modify]
      cases stage.added[other]? with
      | none => rfl
      | some entry =>
        by_cases here : index = other <;> simp [here]

/-- A change of one actor leaves the children of all nodes as they are. -/
theorem children_update (parent : Nat) :
    (stage.update node change).children parent = stage.children parent := by
  simp only [children, size_update, parent?_update]

/-- A value that is stored in a property changes one actor. -/
theorem setProperty_update {changed : Stage} {name : String} {value : Value}
    (stored : stage.setProperty node name value = .ok changed) :
    ∃ change, changed = stage.update node change := by
  unfold setProperty at stored
  split at stored
  · cases stored
  · next actor present =>
    cases given : actor.setProperty name value with
    | error refusal =>
      rw [given] at stored
      cases stored
    | ok next =>
      rw [given] at stored
      exact ⟨fun _ => next, (Except.ok.inj stored).symm⟩

end Update

section Adding

variable {stage grown : Stage} {parent child : Nat} {actor : Actor}
  (adding : stage.addChild? parent actor = some (grown, child))
include adding

/-- An added actor is the next node. -/
theorem addChild?_number : child = stage.size ∧ grown.size = stage.size + 1 := by
  unfold addChild? at adding
  split at adding
  · cases adding
    exact ⟨rfl, by simp [size]⟩
  · cases adding

/-- An added actor has the node it was added to as its parent, and all others keep theirs. -/
theorem parent?_addChild (node : Nat) : grown.parent? node =
    if node = child then some parent else stage.parent? node := by
  obtain ⟨rfl, -⟩ := addChild?_number adding
  unfold addChild? at adding
  split at adding
  · cases adding
    cases node with
    | zero => simp [parent?, size]
    | succ index =>
      rcases Nat.lt_trichotomy index stage.added.length with earlier | rfl | later
      · have other : index ≠ stage.added.length := Nat.ne_of_lt earlier
        simp [parent?, size, other, List.getElem?_append_left earlier]
      · simp [parent?, size]
      · have other : index ≠ stage.added.length := Nat.ne_of_gt later
        have past : (stage.added ++ [(parent, actor)]).length ≤ index := by
          rw [List.length_append]
          exact later
        simp [parent?, size, other, List.getElem?_eq_none past,
          List.getElem?_eq_none (Nat.le_of_lt later)]
  · cases adding

/-- An added actor comes behind the other children of its parent. Other nodes keep their
children. -/
theorem children_addChild (node : Nat) : grown.children node =
    stage.children node ++ if parent = node then [child] else [] := by
  obtain ⟨rfl, larger⟩ := addChild?_number adding
  unfold children
  rw [larger, List.range_succ, List.filter_append]
  congr 1
  · apply List.filter_congr
    intro other inside
    have before : other ≠ stage.size := Nat.ne_of_lt (List.mem_range.mp inside)
    rw [parent?_addChild adding, if_neg before]
  · by_cases own : parent = node <;> simp [parent?_addChild adding, own]

end Adding

/-- A root alone has no children, and no other node has any. -/
theorem children_ofRoot (root : Actor) (node : Nat) : (ofRoot root).children node = [] := by
  simp [children, ofRoot, size, parent?, List.range_succ]

/-- A change puts the actor that it adds behind the children of its parent, and does
nothing else to children. -/
theorem children_after (stage : Stage) (change : Change) (node : Nat) :
    (stage.after change).children node =
      stage.children node ++ addedTo node (stage.added? change).toList := by
  cases change with
  | addChild parent actor =>
    cases adding : stage.addChild? parent actor with
    | none => simp [after, added?, addedTo, adding]
    | some entry =>
      obtain ⟨grown, child⟩ := entry
      simp only [after, added?, adding, Option.map_some, Option.getD_some, Option.toList_some]
      rw [children_addChild adding]
      by_cases own : parent = node <;> simp [addedTo, own]
  | setPseudoClass other pseudoClass on =>
    simp [after, added?, addedTo, setPseudoClass, children_update]
  | setProperty other name value =>
    cases stored : stage.setProperty other name value with
    | error refusal => simp [after, added?, addedTo, stored, Except.toOption]
    | ok changed =>
      obtain ⟨change, rfl⟩ := stage.setProperty_update other stored
      simp [after, added?, addedTo, stored, Except.toOption, children_update]

/-- After changes, the children of a node are those it had and behind them those that were
added to it, in the order of adding. -/
theorem children_run (stage : Stage) (changes : List Change) (node : Nat) :
    (stage.run changes).children node =
      stage.children node ++ addedTo node (stage.addedBy changes) := by
  induction changes generalizing stage with
  | nil => simp [run, addedBy, addedTo]
  | cons change rest inductionHypothesis =>
    have others := inductionHypothesis (stage.after change)
    rw [children_after, List.append_assoc] at others
    have joined : addedTo node (stage.addedBy (change :: rest)) =
        addedTo node (stage.added? change).toList ++
          addedTo node ((stage.after change).addedBy rest) := by
      simp [addedTo, addedBy]
    rw [joined]
    exact others

end ThemeMotion.Stage
