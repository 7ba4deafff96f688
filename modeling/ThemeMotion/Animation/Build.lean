import ThemeMotion.Animation.Basic
import ThemeMotion.Animation.Endpoint
import ThemeMotion.Animation.Target

/-!
# Building animations

A trigger becomes an animation for the actor that sent its signal. The targets are
visited in order, the actors of each in the order of the walk, and the properties in
order; a property that the actor has and that has a start value gives a transition.
The transitions of an actor are gathered from all visits to it, and an actor that got
none is left out.
-/

namespace ThemeMotion

open Trace (Noted)

variable {Node : Type} [DecidableEq Node]

/-- The host's fallback values. -/
structure Defaults where
  initial : List DefaultValue
  final : List DefaultValue
deriving DecidableEq, Repr

/-- The transition of a property of an actor. -/
def PropertyTarget.transition? (property : PropertyTarget) (tree : ActorTree Node)
    (sender actor : Node) (timeline : Timeline) (defaults : Defaults) :
    Noted (Option Transition) := do
  let named := [("property", property.name), ("actor", tree.label actor)]
  match tree.propertyType? actor property.name with
  | none =>
    Noted.report .warn "actor has no such property" named
    return none
  | some type =>
    let slot : Slot Node := ⟨actor, property.name, type⟩
    match ← slot.start? tree sender property.fromText defaults.initial with
    | none =>
      Noted.report .debug "no start value, skipping property" named
      return none
    | some start =>
      let finish ← slot.given? tree sender property.toText defaults.final
      return some ⟨property.name, type, start, finish, timeline⟩

/-- Transitions of an actor. -/
abbrev Share (Node : Type) := Node × List Transition

/-- The share of one visit to an actor. -/
def Target.visit (target : Target) (tree : ActorTree Node) (sender : Node) (defaults : Defaults)
    (actor : Node) : Noted (Share Node) := do
  let made ← target.properties.mapM fun property =>
    property.transition? tree sender actor target.timeline defaults
  return (actor, made.filterMap id)

/-- The shares of all visits of a target. -/
def Target.visits (target : Target) (tree : ActorTree Node) (sender : Node)
    (defaults : Defaults) : Noted (List (Share Node)) := do
  let actors ← target.resolve tree sender
  actors.mapM (target.visit tree sender defaults)

/-- The shares of all visits of a trigger. -/
def Trigger.visits (trigger : Trigger) (tree : ActorTree Node) (sender : Node)
    (defaults : Defaults) : Noted (List (Share Node)) := do
  let visited ← trigger.targets.mapM fun target => target.visits tree sender defaults
  return visited.flatten

namespace Share

/-- Adds a share to the one that its actor has, or behind all others. -/
def add (shares : List (Share Node)) (share : Share Node) : List (Share Node) :=
  Keyed.alter share.1 (fun present => present.getD [] ++ share.2) shares

/-- One share for each actor, in the order of first visits. An actor is looked up in the list of
the shares itself; an index from actors to places in it would find the same share, since no actor
has two. -/
def gather (shares : List (Share Node)) : List (Share Node) := shares.foldl add []

end Share

/-- Attaches the group of a share, unless the share is empty. -/
def Animation.attachShare (animation : Animation Node) (tree : ActorTree Node)
    (share : Share Node) : Noted (Animation Node) := do
  let (actor, transitions) := share
  let named := [("id", animation.id), ("actor", tree.label actor)]
  if transitions.isEmpty then
    Noted.report .debug "no usable transitions for actor" named
    return animation
  else
    let group := TransitionGroup.ofTransitions transitions
    Noted.diagnose .animation "diagnostics: transition group" (named ++
      [("transitions", Decimal.natural group.size),
        ("duration_ms", Decimal.natural group.timeline.duration.toNat),
        ("repeat", Decimal.integer group.timeline.repetition.toInt)])
    return animation.attach actor group

/-- The animation of a trigger for a sender. -/
def Trigger.animation (trigger : Trigger) (tree : ActorTree Node) (sender : Node)
    (defaults : Defaults) : Noted (Animation Node) := do
  let shares ← trigger.visits tree sender defaults
  (Share.gather shares).foldlM (fun animation share => animation.attachShare tree share)
    (Animation.empty trigger.id)

end ThemeMotion
