import ThemeMotion.Selector.Printer
import ThemeMotion.Selector.Score
import ThemeMotion.Stage.Tree
import ThemeMotion.Theme.Trigger
import ThemeMotion.Trace.Event

/-!
# Actors of a target

A target without a selector means the sender. With one it means all actors that the
selector matches at or below the sender, or on the whole stage, each before those
below it.
-/

namespace ThemeMotion

open Trace (Noted)

variable {Node : Type}

/-- Where the search for a target's actors begins. -/
def Origin.start (origin : Origin) (tree : ActorTree Node) (sender : Node) : Node :=
  match origin with
  | .sender => sender
  | .stage => tree.stage

/-- The actors of a target, in the order of the walk. -/
def Target.resolve (target : Target) (tree : ActorTree Node) (sender : Node) :
    Noted (List Node) := do
  match target.selector with
  | none => return [sender]
  | some selector =>
    let actors :=
      tree.walk (selector.isMatch tree.toStyleTree) [target.origin.start tree sender]
    Noted.report .trace "resolved targets"
      [("selector", selector.display), ("origin", target.origin.display),
        ("count", Decimal.natural actors.length)]
    return actors

end ThemeMotion
