import Mathlib.Data.List.Forall2
import ThemeMotion.Proofs.Animation.Typing
import ThemeMotion.Theme.Document

/-!
# Properties that are moved more than once

Nothing is merged when an animation is built: each property element that reaches an actor
gives a transition of its own, in the order of targets, visits and elements, provided that
the actor has the property and that a start value is found. A group therefore moves a
property as often as elements of its name reach the actor and can start there, and moves
every property once exactly when these elements have different names.

Which values the transitions have is not described here.
-/

namespace ThemeMotion

variable {Node : Type} [DecidableEq Node]

/-- The property elements that reach an actor, each with its target and once for each visit
of the target to the actor. -/
def Trigger.reaching (trigger : Trigger) (tree : ActorTree Node) (sender actor : Node) :
    List (Target × PropertyTarget) :=
  trigger.targets.flatMap fun target =>
    ((target.resolve tree sender).value.filter (· = actor)).flatMap fun _ =>
      target.properties.map fun property => (target, property)

/-- The value from which an element starts at an actor: there is one when the actor has the
property and a text, a default or the actor itself gives a value for it. -/
def PropertyTarget.startAt? (property : PropertyTarget) (tree : ActorTree Node)
    (sender actor : Node) (defaults : Defaults) : Option Value :=
  (tree.propertyType? actor property.name).bind fun type =>
    let slot : Slot Node := ⟨actor, property.name, type⟩
    (slot.start? tree sender property.fromText defaults.initial).value

/-- The elements that reach an actor and can start there. -/
def Trigger.starting (trigger : Trigger) (tree : ActorTree Node) (sender actor : Node)
    (defaults : Defaults) : List (Target × PropertyTarget) :=
  (trigger.reaching tree sender actor).filter fun element =>
    (element.2.startAt? tree sender actor defaults).isSome

section Elements

variable (tree : ActorTree Node) (sender actor : Node) (defaults : Defaults)

/-- An element gives a transition of its own name where it can start, and none elsewhere. -/
theorem PropertyTarget.transition?_named (property : PropertyTarget) (timeline : Timeline) :
    (property.transition? tree sender actor timeline defaults).value.map (·.property) =
      (property.startAt? tree sender actor defaults).map fun _ => property.name := by
  unfold transition? startAt?
  cases tree.propertyType? actor property.name with
  | none => rfl
  | some type =>
    let slot : Slot Node := ⟨actor, property.name, type⟩
    obtain ⟨found, started⟩ : ∃ found,
        (slot.start? tree sender property.fromText defaults.initial).value = found := ⟨_, rfl⟩
    simp only [Trace.Noted.value_bind, Option.bind_some]
    rw [started]
    cases found <;> rfl

/-- What the targets contribute for an actor are the transitions of the elements that reach
it. -/
theorem Trigger.contributions_reaching (trigger : Trigger) :
    (trigger.targets.flatMap fun target => target.contribution tree sender defaults actor) =
      (trigger.reaching tree sender actor).filterMap fun element =>
        (element.2.transition? tree sender actor element.1.timeline defaults).value := by
  simp only [reaching, List.filterMap_flatMap, List.filterMap_map, Target.contribution]
  refine List.flatMap_congr fun target _ => List.flatMap_congr fun visited member => ?_
  have same : visited = actor := of_decide_eq_true (List.mem_filter.mp member).2
  rw [same]
  rfl

/-- Elements that can start at an actor give one transition each, and others none. -/
theorem transitions_starting (elements : List (Target × PropertyTarget)) :
    List.Forall₂ (fun element transition => transition.property = element.2.name ∧
        (element.2.transition? tree sender actor element.1.timeline defaults).value =
          some transition)
      (elements.filter fun element => (element.2.startAt? tree sender actor defaults).isSome)
      (elements.filterMap fun element =>
        (element.2.transition? tree sender actor element.1.timeline defaults).value) := by
  induction elements with
  | nil => exact .nil
  | cons element rest inductionHypothesis =>
    have named := element.2.transition?_named tree sender actor defaults element.1.timeline
    cases started : element.2.startAt? tree sender actor defaults with
    | none =>
      rw [started] at named
      have missing := Option.map_eq_none_iff.mp named
      rw [List.filter_cons_of_neg (by simp [started]), List.filterMap_cons, missing]
      exact inductionHypothesis
    | some start =>
      rw [started] at named
      obtain ⟨transition, made, same⟩ := Option.map_eq_some_iff.mp named
      rw [List.filter_cons_of_pos (by simp [started]), List.filterMap_cons, made]
      exact .cons ⟨same, made⟩ inductionHypothesis

end Elements

/-- A group has one transition for each element that reaches its actor and can start there,
in the order of the elements. Each is the transition that its element gives and has the
name of the element, so a property is moved as often as elements of its name can start, and
no property is moved twice exactly when no two of these elements have the same name. -/
theorem Trigger.animation_repeats (trigger : Trigger) (tree : ActorTree Node) (sender : Node)
    (defaults : Defaults) (actor : Node) (group : TransitionGroup)
    (grouped : (actor, group) ∈ (trigger.animation tree sender defaults).value.groups) :
    let elements := trigger.starting tree sender actor defaults
    List.Forall₂ (fun element transition => transition.property = element.2.name ∧
        (element.2.transition? tree sender actor element.1.timeline defaults).value =
          some transition) elements group.transitions ∧
    (∀ name, (group.transitions.filter (·.property = name)).length =
      (elements.filter (·.2.name = name)).length) ∧
    ((group.transitions.map (·.property)).Nodup ↔ (elements.map (·.2.name)).Nodup) := by
  intro elements
  rw [Trigger.animation_value] at grouped
  obtain ⟨owner, _, same⟩ := List.mem_map.mp grouped
  cases same
  have given := transitions_starting tree sender actor defaults (trigger.reaching tree sender actor)
  rw [← trigger.contributions_reaching, ← trigger.movesOf_eq_contributions] at given
  have names : (movesOf actor (trigger.moves tree sender defaults)).map (·.property) =
      elements.map (·.2.name) := by
    rw [← List.forall₂_eq_eq_eq, List.forall₂_map_left_iff, List.forall₂_map_right_iff]
    exact given.flip.imp fun _ _ matched => matched.1
  refine ⟨given, ?_, ?_⟩
  · intro name
    have counted := congrArg (List.countP (· = name)) names
    rw [List.countP_map, List.countP_map] at counted
    rwa [← List.countP_eq_length_filter, ← List.countP_eq_length_filter]
  · rw [TransitionGroup.ofTransitions_transitions, names]

/-- A stage that is a button with an opacity and no value for it. -/
def opacityStage : Stage :=
  .ofRoot ((Actor.ofTypes ["Button"]).declare "opacity" (.unset .int))

/-- A document with two elements of one name in an application, and one that cannot start. -/
def blinkDocument : String :=
  "<animations><trigger id=\"blink\" sender=\"Button\" signal=\"clicked\">" ++
    "<timeline duration=\"100\"><apply><property name=\"opacity\" from=\"0\" to=\"1\"/>" ++
      "<property name=\"opacity\"/><property name=\"opacity\" from=\"1\" to=\"0\"/>" ++
        "</apply></timeline></trigger></animations>"

/-- The trigger of the document. -/
def blinkTrigger : Trigger where
  id := "blink"
  sender := ⟨.ofType "Button", [], 0, ⟨some "theme.xml", 1, 13⟩⟩
  signal := "clicked"
  targets := [⟨none, .sender, ⟨0, 100, .standard, 0⟩,
    [⟨"opacity", some "0", some "1"⟩, ⟨"opacity", none, none⟩, ⟨"opacity", some "1", some "0"⟩]⟩]
  file := "theme.xml"

/-- The transitions that come of the trigger on the stage: the element without a start gives
none. -/
def blinkGroup : TransitionGroup :=
  .ofTransitions [⟨"opacity", .int, .int 0, some (.int 1), ⟨0, 100, .standard, 0⟩⟩,
    ⟨"opacity", .int, .int 1, some (.int 0), ⟨0, 100, .standard, 0⟩⟩]

/-- Two of three elements of a name can start, and each of the two gives a transition. -/
theorem blink_starts_twice :
    (0, blinkGroup) ∈ (blinkTrigger.animation opacityStage.tree 0 ⟨[], []⟩).value.groups ∧
      (blinkGroup.transitions.filter (·.property = "opacity")).length =
        ((blinkTrigger.starting opacityStage.tree 0 0 ⟨[], []⟩).filter
          (·.2.name = "opacity")).length := by
  have grouped :
      (0, blinkGroup) ∈ (blinkTrigger.animation opacityStage.tree 0 ⟨[], []⟩).value.groups := by
    decide
  have repeated := Trigger.animation_repeats blinkTrigger opacityStage.tree 0 ⟨[], []⟩ 0
    blinkGroup grouped
  exact ⟨grouped, repeated.2.1 "opacity"⟩

/-- The document is accepted, and a group of its animation moves the opacity twice. -/
theorem blink_moves_opacity_twice :
    Document.read ⟨"theme.xml", []⟩ blinkDocument = .ok [blinkTrigger] ∧
      (0, blinkGroup) ∈ (blinkTrigger.animation opacityStage.tree 0 ⟨[], []⟩).value.groups ∧
      ¬ (blinkGroup.transitions.map (·.property)).Nodup := by
  decide +kernel

end ThemeMotion
