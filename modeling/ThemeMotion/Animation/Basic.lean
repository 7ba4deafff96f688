import ThemeMotion.Keyed
import ThemeMotion.Timeline
import ThemeMotion.Value.Basic

/-!
# Animations

An animation moves properties of actors. The transitions of one actor form a group
and play together; the groups stand in the order in which their actors were first
attached, and each actor has one.
-/

namespace ThemeMotion

/-- The move of one property of an actor. Without an end value the player decides
where the move ends. -/
structure Transition where
  property : String
  type : ValueType
  start : Value
  finish : Option Value
  timeline : Timeline
deriving DecidableEq, Repr

/-- The transitions of one actor, and the timeline under which all of them fit. -/
structure TransitionGroup where
  transitions : List Transition
  timeline : Timeline
  /-- The timeline is that of the transitions. -/
  unified : timeline = Timeline.synchronized (transitions.map (·.timeline))
deriving DecidableEq, Repr

namespace TransitionGroup

/-- The group of transitions. -/
def ofTransitions (transitions : List Transition) : TransitionGroup :=
  ⟨transitions, Timeline.synchronized (transitions.map (·.timeline)), rfl⟩

@[simp]
theorem ofTransitions_transitions (transitions : List Transition) :
    (ofTransitions transitions).transitions = transitions := rfl

@[simp]
theorem ofTransitions_timeline (transitions : List Transition) :
    (ofTransitions transitions).timeline =
      Timeline.synchronized (transitions.map (·.timeline)) := rfl

/-- The number of transitions. -/
def size (group : TransitionGroup) : Nat := group.transitions.length

/-- The first transition of a property. -/
def transition? (group : TransitionGroup) (property : String) : Option Transition :=
  group.transitions.find? (·.property == property)

end TransitionGroup

/-- The groups of the actors that a trigger animates. -/
structure Animation (Node : Type) where
  id : String
  groups : List (Node × TransitionGroup)
deriving DecidableEq, Repr

namespace Animation

variable {Node : Type} [DecidableEq Node]

/-- An animation of no actor. -/
def empty (id : String) : Animation Node := ⟨id, []⟩

/-- Gives an actor its group, in the place of the one that it has, or behind all others. -/
def attach (animation : Animation Node) (actor : Node) (group : TransitionGroup) :
    Animation Node :=
  { animation with groups := Keyed.put actor group animation.groups }

/-- The group of an actor. -/
def group? (animation : Animation Node) (actor : Node) : Option TransitionGroup :=
  animation.groups.lookup actor

/-- The number of groups. -/
def size (animation : Animation Node) : Nat := animation.groups.length

/-- The duration of the longest group. -/
def totalDuration (animation : Animation Node) : UInt32 :=
  animation.groups.foldl (fun longest entry => max longest entry.2.timeline.duration) 0

end Animation

end ThemeMotion
