import ThemeMotion.Proofs.Animation.Gathering
import ThemeMotion.Proofs.Value.Typing
import ThemeMotion.Stage.Basic

/-!
# Typed animations

A transition moves a property between values of the type that the actor declares for it.
Its start and its end may come from a text of the theme, from the host's defaults or from
the actor itself; on each of these ways the value is brought to the type of the slot or
dropped, so nothing has to be assumed of texts, of defaults, or of the values that a tree
reports. Only the declared types are taken from the tree.

The transitions of a group are the contributions of the targets, one after the other, and
each of them keeps the timeline of its target. The results hold for every tree of actors,
that of a stage among them.
-/

namespace ThemeMotion

variable {Node : Type}

namespace Slot

open Value (Inhabits)

variable (slot : Slot Node) {value : Value}

/-- A text gives a value of the slot's type or none. -/
theorem explicit?_inhabits {text : Option String}
    (given : (slot.explicit? text).value = some value) : Inhabits slot.type value := by
  cases text with
  | none => exact nomatch given
  | some text =>
    unfold explicit? at given
    cases reading : coerce text slot.type with
    | error refusal =>
      simp only [reading] at given
      exact nomatch given
    | ok read =>
      simp only [reading] at given
      obtain rfl := Option.some.inj given
      exact coerce_inhabits reading

/-- The actor gives a value of the slot's type or none, whatever value it has. -/
theorem live?_inhabits (tree : ActorTree Node) (given : slot.live? tree = some value) :
    Inhabits slot.type value := by
  obtain ⟨_, _, transformed⟩ := Option.bind_eq_some_iff.mp given
  exact Value.transform?_inhabits transformed

variable [DecidableEq Node] (tree : ActorTree Node) (sender : Node)

/-- The defaults give a value of the slot's type or none. -/
theorem default?_inhabits {defaults : List DefaultValue}
    (given : (slot.default? tree sender defaults).value = some value) :
    Inhabits slot.type value := by
  unfold default? at given
  cases best : slot.bestDefault? tree sender defaults with
  | none =>
    simp only [best] at given
    exact nomatch given
  | some entry =>
    cases stored : entry.value.transform? slot.type with
    | none =>
      simp only [best, stored] at given
      exact nomatch given
    | some transformed =>
      simp only [best, stored] at given
      obtain rfl := Option.some.inj given
      exact Value.transform?_inhabits stored

/-- A text and the defaults behind it give a value of the slot's type or none. -/
theorem given?_inhabits {text : Option String} {defaults : List DefaultValue}
    (given : (slot.given? tree sender text defaults).value = some value) :
    Inhabits slot.type value := by
  unfold given? at given
  rw [Trace.Noted.value_bind] at given
  cases explicit : (slot.explicit? text).value with
  | none =>
    rw [explicit] at given
    exact slot.default?_inhabits tree sender given
  | some written =>
    rw [explicit] at given
    obtain rfl := Option.some.inj given
    exact slot.explicit?_inhabits explicit

/-- A text, the defaults behind it and the actor behind these give a value of the slot's
type or none. -/
theorem start?_inhabits {text : Option String} {defaults : List DefaultValue}
    (given : (slot.start? tree sender text defaults).value = some value) :
    Inhabits slot.type value := by
  unfold start? at given
  rw [Trace.Noted.value_bind] at given
  cases found : (slot.given? tree sender text defaults).value with
  | none =>
    rw [found] at given
    exact slot.live?_inhabits tree given
  | some written =>
    rw [found] at given
    obtain rfl := Option.some.inj given
    exact slot.given?_inhabits tree sender found

end Slot

/-- A transition of an actor has the type that the actor declares for its property, and
its values have that type. -/
structure Transition.WellTyped (tree : ActorTree Node) (actor : Node) (transition : Transition) :
    Prop where
  declared : tree.propertyType? actor transition.property = some transition.type
  starts : transition.start.hasType transition.type = true
  finishes : ∀ value, transition.finish = some value → value.hasType transition.type = true

variable [DecidableEq Node]

section Transitions

variable (tree : ActorTree Node) (sender actor : Node) (defaults : Defaults)

/-- A property gives a well-typed transition, under the timeline that it is given. -/
theorem PropertyTarget.transition?_wellTyped (property : PropertyTarget) (timeline : Timeline)
    {transition : Transition}
    (made : (property.transition? tree sender actor timeline defaults).value = some transition) :
    transition.WellTyped tree actor ∧ transition.timeline = timeline := by
  unfold transition? at made
  cases declared : tree.propertyType? actor property.name with
  | none =>
    simp only [declared] at made
    exact nomatch made
  | some type =>
    simp only [declared, Trace.Noted.value_bind] at made
    let slot : Slot Node := ⟨actor, property.name, type⟩
    cases started : (slot.start? tree sender property.fromText defaults.initial).value with
    | none =>
      rw [started] at made
      exact nomatch made
    | some start =>
      rw [started] at made
      obtain rfl := Option.some.inj made
      refine ⟨⟨declared, ?_, ?_⟩, rfl⟩
      · exact (start.hasType_iff type).mpr (slot.start?_inhabits tree sender started)
      · intro value finished
        exact (value.hasType_iff type).mpr (slot.given?_inhabits tree sender finished)

/-- The transitions that a target gives for an actor are well typed, and each has the
timeline of the target. -/
theorem Target.transitions_wellTyped (target : Target) :
    ∀ transition ∈ target.transitions tree sender defaults actor,
      transition.WellTyped tree actor ∧ transition.timeline = target.timeline := by
  intro transition member
  obtain ⟨property, _, made⟩ := List.mem_filterMap.mp member
  exact property.transition?_wellTyped tree sender actor defaults target.timeline made

end Transitions

section Contributions

variable (tree : ActorTree Node) (sender : Node) (defaults : Defaults) (actor : Node)

/-- The transitions of one actor that come from a target, once for each time that the
target has the actor. -/
def Target.contribution (target : Target) : List Transition :=
  ((target.resolve tree sender).value.filter (· = actor)).flatMap
    (target.transitions tree sender defaults)

/-- The contribution of a target is well typed and keeps the target's timeline. -/
theorem Target.contribution_wellTyped (target : Target) :
    ∀ transition ∈ target.contribution tree sender defaults actor,
      transition.WellTyped tree actor ∧ transition.timeline = target.timeline := by
  intro transition member
  obtain ⟨visited, among, given⟩ := List.mem_flatMap.mp member
  have same : visited = actor := of_decide_eq_true (List.mem_filter.mp among).2
  rw [same] at given
  exact target.transitions_wellTyped tree sender actor defaults transition given

/-- The moves of an actor that several items spread are those that each of them spreads. -/
theorem movesOf_flatMap {Item : Type} (items : List Item) (spread : Item → List (Move Node)) :
    movesOf actor (items.flatMap spread) = items.flatMap fun item => movesOf actor (spread item) := by
  simp [movesOf, List.filter_flatMap, List.map_flatMap]

/-- The moves of an actor come from the visits to it. -/
theorem movesOf_visits (visited : List Node) (yield : Node → List Transition) :
    movesOf actor (visited.flatMap fun other =>
        (yield other).map fun transition => (other, transition)) =
      (visited.filter (· = actor)).flatMap yield := by
  rw [movesOf_flatMap]
  induction visited with
  | nil => rfl
  | cons other rest inductionHypothesis =>
    rw [List.flatMap_cons, inductionHypothesis, Share.movesOf_single (other, yield other)]
    by_cases same : other = actor <;> simp [same]

/-- The moves of an actor are the contributions of the targets, one after the other. -/
theorem Trigger.movesOf_eq_contributions (trigger : Trigger) :
    movesOf actor (trigger.moves tree sender defaults) =
      trigger.targets.flatMap fun target => target.contribution tree sender defaults actor := by
  unfold Trigger.moves
  rw [movesOf_flatMap]
  simp only [movesOf_visits, Target.contribution]

end Contributions

/-- Every animation is well typed. A group is not empty, and its timeline is the one under
which the timelines of its transitions fit. Its transitions are what the targets
contribute, in order, each under the timeline of its target. A transition has the type
that its actor declares for the property, and so have its start and its end, where it has
an end: for an enumeration both are members that the enumeration declares. -/
theorem Trigger.animation_typed (trigger : Trigger) (tree : ActorTree Node) (sender : Node)
    (defaults : Defaults) (actor : Node) (group : TransitionGroup)
    (grouped : (actor, group) ∈ (trigger.animation tree sender defaults).value.groups) :
    group.transitions ≠ [] ∧
    group.timeline = Timeline.synchronized (group.transitions.map (·.timeline)) ∧
    group.transitions = (trigger.targets.flatMap fun target =>
      target.contribution tree sender defaults actor) ∧
    (∀ target ∈ trigger.targets,
      ∀ transition ∈ target.contribution tree sender defaults actor,
        transition.timeline = target.timeline) ∧
    ∀ transition ∈ group.transitions, transition.WellTyped tree actor ∧
      ∀ enum, transition.type = .enumeration enum →
        (∃ member ∈ enum.members, transition.start = .enumeration enum.name member.value) ∧
        ∀ value, transition.finish = some value →
          ∃ member ∈ enum.members, value = .enumeration enum.name member.value := by
  rw [Trigger.animation_value] at grouped
  obtain ⟨owner, kept, same⟩ := List.mem_map.mp grouped
  cases same
  have moved : movesOf actor (trigger.moves tree sender defaults) ≠ [] := by
    simpa using (List.mem_filter.mp kept).2
  have contributed := trigger.movesOf_eq_contributions tree sender defaults actor
  refine ⟨moved, TransitionGroup.unified _, contributed, ?_, ?_⟩
  · intro target _ transition member
    exact (target.contribution_wellTyped tree sender defaults actor transition member).2
  · intro transition member
    have member : transition ∈ movesOf actor (trigger.moves tree sender defaults) := member
    rw [contributed] at member
    obtain ⟨target, _, member⟩ := List.mem_flatMap.mp member
    have wellTyped :=
      (target.contribution_wellTyped tree sender defaults actor transition member).1
    refine ⟨wellTyped, ?_⟩
    intro enum enumerated
    obtain ⟨_, starts, finishes⟩ := wellTyped
    rw [enumerated] at starts finishes
    refine ⟨(transition.start.hasType_enumeration_iff enum).mp starts, ?_⟩
    intro value finished
    exact (value.hasType_enumeration_iff enum).mp (finishes value finished)

/-- Where the content of an actor is drawn. -/
def gravity : EnumType :=
  ⟨"Gravity", [⟨0, "GRAVITY_NONE", "none"⟩, ⟨5, "GRAVITY_CENTER", "center"⟩]⟩

/-- A stage whose root declares a gravity, without a value. -/
def gravityStage : Stage :=
  .ofRoot ((Actor.ofTypes ["Stage", "Actor"]).declare "gravity" (.unset (.enumeration gravity)))

/-- A trigger that moves the gravity of its sender from the centre and leaves the end open. -/
def gravityTrigger : Trigger where
  id := "settle"
  sender := ⟨.universal, [], 0, .unknown⟩
  signal := "show"
  targets := [⟨none, .sender, ⟨0, 250, .standard, 0⟩, [⟨"gravity", some "center", none⟩]⟩]
  file := "settle.xml"

/-- Defaults that give the end of a gravity as an integer. -/
def gravityDefaults : Defaults := ⟨[], [⟨none, "gravity", .int 0⟩]⟩

/-- The only transition that comes of the trigger on the stage. -/
def gravityGroup : TransitionGroup :=
  .ofTransitions [⟨"gravity", .enumeration gravity, .enumeration "Gravity" 5,
    some (.enumeration "Gravity" 0), ⟨0, 250, .standard, 0⟩⟩]

/-- A start that is written as a nick and an end that is given as an integer both become
members of the enumeration. -/
theorem gravity_settles_typed :
    (0, gravityGroup) ∈
      (gravityTrigger.animation gravityStage.tree 0 gravityDefaults).value.groups ∧
    ∀ transition ∈ gravityGroup.transitions, transition.WellTyped gravityStage.tree 0 ∧
      ∀ enum, transition.type = .enumeration enum →
        (∃ member ∈ enum.members, transition.start = .enumeration enum.name member.value) ∧
        ∀ value, transition.finish = some value →
          ∃ member ∈ enum.members, value = .enumeration enum.name member.value := by
  have grouped : (0, gravityGroup) ∈
      (gravityTrigger.animation gravityStage.tree 0 gravityDefaults).value.groups := by
    decide
  have typed := Trigger.animation_typed gravityTrigger gravityStage.tree 0 gravityDefaults 0
    gravityGroup grouped
  exact ⟨grouped, typed.2.2.2.2⟩

end ThemeMotion
