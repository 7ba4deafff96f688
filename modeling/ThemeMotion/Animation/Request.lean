import ThemeMotion.Animation.Build
import ThemeMotion.Theme.Registry

/-!
# Requests for animations

A host asks for the animation of a trigger by its id, or for that of the trigger
which answers a signal.
-/

namespace ThemeMotion.Registry

open Trace (Noted)

variable {Node : Type} [DecidableEq Node]

/-- The animation of the trigger with an id. -/
def animation? (registry : Registry) (tree : ActorTree Node) (sender : Node) (id : String)
    (defaults : Defaults) : Noted (Option (Animation Node)) := do
  match registry.find? id with
  | none =>
    Noted.report .debug "no theme animation with this id" [("id", id)]
    return none
  | some trigger => return some (← trigger.animation tree sender defaults)

/-- The animation of the trigger that answers a signal. -/
def animationFor? (registry : Registry) (tree : ActorTree Node) (sender : Node)
    (signal : String) (defaults : Defaults) : Noted (Option (Animation Node)) := do
  match ← registry.best? tree.toStyleTree sender signal with
  | none => return none
  | some trigger => return some (← trigger.animation tree sender defaults)

end ThemeMotion.Registry
