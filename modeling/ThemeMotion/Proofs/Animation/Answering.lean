import Mathlib.Data.List.Nodup
import ThemeMotion.Animation.Request
import ThemeMotion.Proofs.Ranking
import ThemeMotion.Proofs.Theme.Invariant

/-!
# Answering signals

A host that wants the animation for a signal may ask for it at once, or ask first which
trigger answers the signal and then for the animation of that trigger's id. The second
way looks the trigger up again and takes the first of that id, so it comes to the same
trigger because ids tell registered triggers apart.

Both ways are compared with all that they leave in the log. Which trigger answers is
taken as it is.
-/

namespace ThemeMotion.Registry

variable {Node : Type}

/-- Where ids tell triggers apart, a registered trigger is found by its id. -/
theorem find?_of_mem (registry : Registry) (apart : (registry.triggers.map (·.id)).Nodup)
    {trigger : Trigger} (registered : trigger ∈ registry.triggers) :
    registry.find? trigger.id = some trigger := by
  unfold find?
  cases found : registry.triggers.find? (·.id == trigger.id) with
  | none =>
    have absent := List.find?_eq_none.mp found trigger registered
    exact absurd (beq_self_eq_true trigger.id) absent
  | some other =>
    have member : other ∈ registry.triggers := List.mem_of_find?_eq_some found
    have same : other.id = trigger.id := by simpa using List.find?_some found
    rw [List.inj_on_of_nodup_map apart member registered same]

/-- The trigger that answers a signal is the best of those that are registered. -/
theorem best?_value (registry : Registry) (tree : StyleTree Node) (sender : Node)
    (signal : String) : (registry.best? tree sender signal).value =
      (bestBy? (answerScore? tree sender signal) registry.triggers).map Prod.fst := by
  unfold best?
  cases bestBy? (answerScore? tree sender signal) registry.triggers <;> rfl

/-- Only a registered trigger answers a signal. -/
theorem best?_mem (registry : Registry) (tree : StyleTree Node) (sender : Node)
    (signal : String) {trigger : Trigger}
    (answers : (registry.best? tree sender signal).value = some trigger) :
    trigger ∈ registry.triggers := by
  rw [best?_value] at answers
  obtain ⟨⟨winner, score⟩, best, rfl⟩ := Option.map_eq_some_iff.mp answers
  have isBest := bestBy?_isBest (answerScore? tree sender signal) registry.triggers
  rw [best] at isBest
  exact Leads.mem isBest

variable [DecidableEq Node]

/-- The animation for a signal in two requests: for the id of the trigger that answers,
and then for the animation of that id. -/
def animationByLookup? (registry : Registry) (tree : ActorTree Node) (sender : Node)
    (signal : String) (defaults : Defaults) : Trace.Noted (Option (Animation Node)) := do
  match ← registry.bestId? tree.toStyleTree sender signal with
  | none => return none
  | some id => registry.animation? tree sender id defaults

/-- Where ids tell triggers apart, both ways have the same answer and leave the same
notes. -/
theorem animationFor?_eq (registry : Registry) (apart : (registry.triggers.map (·.id)).Nodup)
    (tree : ActorTree Node) (sender : Node) (signal : String) (defaults : Defaults) :
    registry.animationFor? tree sender signal defaults =
      registry.animationByLookup? tree sender signal defaults := by
  unfold animationFor? animationByLookup? bestId?
  rw [bind_assoc]
  apply Trace.Noted.bind_congr
  rw [pure_bind]
  cases answers : (registry.best? tree.toStyleTree sender signal).value with
  | none => rfl
  | some trigger =>
    have found : registry.find? trigger.id = some trigger :=
      registry.find?_of_mem apart (registry.best?_mem tree.toStyleTree sender signal answers)
    simp only [Option.map_some, animation?, found]

/-- There is no animation for a signal exactly when no trigger answers it. -/
theorem animationFor?_eq_none_iff (registry : Registry) (tree : ActorTree Node) (sender : Node)
    (signal : String) (defaults : Defaults) :
    (registry.animationFor? tree sender signal defaults).value = none ↔
      (registry.bestId? tree.toStyleTree sender signal).value = none := by
  unfold animationFor? bestId?
  rw [Trace.Noted.value_bind, Trace.Noted.value_bind]
  cases (registry.best? tree.toStyleTree sender signal).value <;> simp

/-- In every registry that requests lead to, asking for the animation of a signal is
asking for the id of the trigger that answers and then for the animation of that id: the
animations are the same, and so is what is noted. Either way there is none exactly when
no trigger answers. -/
theorem answered_either_way (requests : List Request) (tree : ActorTree Node) (sender : Node)
    (signal : String) (defaults : Defaults) :
    let registry := empty.run requests
    registry.animationFor? tree sender signal defaults =
      registry.animationByLookup? tree sender signal defaults ∧
    ((registry.animationFor? tree sender signal defaults).value = none ↔
      (registry.bestId? tree.toStyleTree sender signal).value = none) ∧
    ((registry.animationByLookup? tree sender signal defaults).value = none ↔
      (registry.bestId? tree.toStyleTree sender signal).value = none) := by
  intro registry
  have wellFormed : registry.WellFormed := requests_keep_well_formed empty requests empty_well_formed
  have same := registry.animationFor?_eq wellFormed.apart tree sender signal defaults
  have nothing := registry.animationFor?_eq_none_iff tree sender signal defaults
  exact ⟨same, nothing, same ▸ nothing⟩

end ThemeMotion.Registry
