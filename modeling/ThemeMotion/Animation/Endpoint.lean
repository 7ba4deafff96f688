import ThemeMotion.Ranking
import ThemeMotion.Selector.Score
import ThemeMotion.Stage.Tree
import ThemeMotion.Theme.Trigger
import ThemeMotion.Trace.Event
import ThemeMotion.Value.Coerce
import ThemeMotion.Value.Transform

/-!
# Start and end values

A property target may give the start or the end of a move as a text. Where it gives
none, or one that the property's type does not admit, the host's defaults decide: the
entry of the highest rank for that property, and the earlier of equal ones. An entry
with a selector ranks by its score at the actor; one without applies to the sender
alone and ranks below. An end value may stay open; a start value may still come from
the actor itself.
-/

namespace ThemeMotion

open Trace (Noted)

variable {Node : Type}

/-- A value that the host gives for properties whose trigger leaves them open. -/
structure DefaultValue where
  selector : Option Selector
  property : String
  value : Value
deriving DecidableEq, Repr

namespace DefaultValue

/-- The rank of an entry without a selector. -/
def plainRank : Int32 := 0

/-- The rank of an entry at an actor, when it applies there. -/
def rank? [DecidableEq Node] (entry : DefaultValue) (tree : StyleTree Node)
    (sender actor : Node) : Option Int32 :=
  match entry.selector with
  | none => if actor = sender then some plainRank else none
  | some selector =>
    if selector.score tree actor < 0 then none else some (selector.score tree actor)

end DefaultValue

/-- What is being given a value: a property of an actor and its type. -/
structure Slot (Node : Type) where
  actor : Node
  property : String
  type : ValueType

namespace Slot

/-- The value of an explicit text. -/
def explicit? (slot : Slot Node) (text : Option String) : Noted (Option Value) := do
  match text with
  | none => return none
  | some text =>
    match coerce text slot.type with
    | .ok value => return some value
    | .error error =>
      Noted.report .warn "ignoring invalid value"
        [("property", slot.property), ("error", error.message)]
      return none

/-- The entry of the highest rank for the property. -/
def bestDefault? [DecidableEq Node] (slot : Slot Node) (tree : ActorTree Node) (sender : Node)
    (defaults : List DefaultValue) : Option DefaultValue :=
  (bestBy? (·.rank? tree.toStyleTree sender slot.actor)
    (defaults.filter (·.property == slot.property))).map Prod.fst

/-- The value of the best entry. One of the wrong type gives way to no other entry. -/
def default? [DecidableEq Node] (slot : Slot Node) (tree : ActorTree Node) (sender : Node)
    (defaults : List DefaultValue) : Noted (Option Value) := do
  match slot.bestDefault? tree sender defaults with
  | none => return none
  | some entry =>
    match entry.value.transform? slot.type with
    | some value => return some value
    | none =>
      Noted.report .warn "default value has the wrong type"
        [("property", slot.property), ("expected", slot.type.display),
          ("value", entry.value.display)]
      return none

/-- The value that the actor has. -/
def live? (slot : Slot Node) (tree : ActorTree Node) : Option Value :=
  tree.property? slot.actor slot.property >>= (·.transform? slot.type)

/-- The value of a text, or else of the defaults. -/
def given? [DecidableEq Node] (slot : Slot Node) (tree : ActorTree Node) (sender : Node)
    (text : Option String) (defaults : List DefaultValue) : Noted (Option Value) := do
  match ← slot.explicit? text with
  | some value => return some value
  | none => slot.default? tree sender defaults

/-- The value of a text, or else of the defaults, or else of the actor. -/
def start? [DecidableEq Node] (slot : Slot Node) (tree : ActorTree Node) (sender : Node)
    (text : Option String) (defaults : List DefaultValue) : Noted (Option Value) := do
  match ← slot.given? tree sender text defaults with
  | some value => return some value
  | none => return slot.live? tree

end Slot

end ThemeMotion
