import ThemeMotion.Proofs.Animation.Answering
import ThemeMotion.Stage.Basic

/-!
# Choosing a trigger

The trigger that answers a signal of a sender is the foremost of the registered ones: no
trigger of the signal scores higher on the sender, and none that was registered before it
scores as high. There is none exactly when no trigger of the signal scores above zero.

This fixes the answer for every registry, also for one in which triggers repeat. The order
of registration decides between equal scores and nothing else. What a score is made of is
not described here.
-/

namespace ThemeMotion.Registry

variable {Node : Type}

/-- A trigger is foremost for a signal of a sender: it has the signal and scores above zero,
the triggers of the signal before it score less, and those behind it no more. -/
def Foremost (registry : Registry) (tree : StyleTree Node) (sender : Node) (signal : String)
    (winner : Trigger) : Prop :=
  winner.signal = signal ∧ 0 < winner.sender.score tree sender ∧
    ∃ earlier later, registry.triggers = earlier ++ winner :: later ∧
      (∀ other ∈ earlier, other.signal = signal →
        other.sender.score tree sender < winner.sender.score tree sender) ∧
      ∀ other ∈ later, other.signal = signal →
        other.sender.score tree sender ≤ winner.sender.score tree sender

/-- The score of the trigger that answers a signal of a sender. -/
def winningScore? (registry : Registry) (tree : StyleTree Node) (sender : Node)
    (signal : String) : Option Int32 :=
  (registry.best? tree sender signal).value.map fun trigger => trigger.sender.score tree sender

section Competing

variable {tree : StyleTree Node} {sender : Node} {signal : String} {trigger : Trigger}

/-- A trigger competes when it has the signal and scores above zero, and it competes by its
score. -/
theorem answerScore?_eq_some_iff {score : Int32} :
    answerScore? tree sender signal trigger = some score ↔
      trigger.signal = signal ∧ 0 < score ∧ trigger.sender.score tree sender = score := by
  unfold answerScore? Selector.isMatch
  rw [Option.ite_none_right_eq_some, Option.some.injEq, decide_eq_true_iff]
  constructor
  · rintro ⟨⟨signalled, positive⟩, rfl⟩
    exact ⟨signalled, positive, rfl⟩
  · rintro ⟨signalled, positive, rfl⟩
    exact ⟨⟨signalled, positive⟩, rfl⟩

/-- A trigger does not compete when it scores at most zero, if it has the signal at all. -/
theorem answerScore?_eq_none_iff :
    answerScore? tree sender signal trigger = none ↔
      (trigger.signal = signal → trigger.sender.score tree sender ≤ 0) := by
  unfold answerScore? Selector.isMatch
  rw [ite_eq_right_iff, decide_eq_true_iff]
  constructor
  · intro unranked signalled
    exact Std.not_lt.mp fun positive => nomatch unranked ⟨signalled, positive⟩
  · rintro least ⟨signalled, positive⟩
    exact absurd positive (Std.not_lt.mpr (least signalled))

/-- The foremost trigger leads those that compete. A trigger that does not compete scores at
most zero, so comparing with it as well asks for nothing more. -/
theorem foremost_iff_leads (registry : Registry) (winner : Trigger) :
    registry.Foremost tree sender signal winner ↔
      Leads (answerScore? tree sender signal) registry.triggers winner
        (winner.sender.score tree sender) := by
  constructor
  · rintro ⟨signalled, positive, earlier, later, split, below, notAbove⟩
    refine ⟨earlier, later, split, answerScore?_eq_some_iff.mpr ⟨signalled, positive, rfl⟩, ?_, ?_⟩
    · intro other member rank ranked
      obtain ⟨signalled', _, rfl⟩ := answerScore?_eq_some_iff.mp ranked
      exact below other member signalled'
    · intro other member rank ranked
      obtain ⟨signalled', _, rfl⟩ := answerScore?_eq_some_iff.mp ranked
      exact notAbove other member signalled'
  · rintro ⟨earlier, later, split, ranked, below, notAbove⟩
    obtain ⟨signalled, positive, _⟩ := answerScore?_eq_some_iff.mp ranked
    refine ⟨signalled, positive, earlier, later, split, ?_, ?_⟩
    · intro other member signalled'
      by_cases competes : 0 < other.sender.score tree sender
      · exact below other member _ (answerScore?_eq_some_iff.mpr ⟨signalled', competes, rfl⟩)
      · exact Std.lt_of_le_of_lt (Std.not_lt.mp competes) positive
    · intro other member signalled'
      by_cases competes : 0 < other.sender.score tree sender
      · exact notAbove other member _ (answerScore?_eq_some_iff.mpr ⟨signalled', competes, rfl⟩)
      · exact Std.le_of_lt (Std.lt_of_le_of_lt (Std.not_lt.mp competes) positive)

end Competing

section Answer

variable (registry : Registry) (tree : StyleTree Node) (sender : Node) (signal : String)

/-- No trigger answers exactly when none of the signal scores above zero. -/
theorem best?_eq_none_iff :
    (registry.best? tree sender signal).value = none ↔
      ∀ trigger ∈ registry.triggers, trigger.signal = signal →
        trigger.sender.score tree sender ≤ 0 := by
  rw [best?_value, Option.map_eq_none_iff, bestBy?_eq_none_iff]
  exact forall₂_congr fun _ _ => answerScore?_eq_none_iff

/-- The rank by which the best trigger won is its score. -/
theorem best?_ranked (winner : Trigger) :
    (registry.best? tree sender signal).value = some winner ↔
      bestBy? (answerScore? tree sender signal) registry.triggers =
        some (winner, winner.sender.score tree sender) := by
  rw [best?_value, Option.map_eq_some_iff]
  constructor
  · rintro ⟨⟨other, rank⟩, best, rfl⟩
    obtain ⟨_, _, rfl⟩ := answerScore?_eq_some_iff.mp (bestBy?_eq_some_iff.mp best).ranked
    exact best
  · intro best
    exact ⟨_, best, rfl⟩

/-- The trigger that answers is the foremost one. -/
theorem best?_eq_some_iff (winner : Trigger) :
    (registry.best? tree sender signal).value = some winner ↔
      registry.Foremost tree sender signal winner := by
  rw [best?_ranked, bestBy?_eq_some_iff, foremost_iff_leads]

/-- The winning score is the highest rank. -/
theorem winningScore?_eq :
    registry.winningScore? tree sender signal =
      (bestBy? (answerScore? tree sender signal) registry.triggers).map Prod.snd := by
  unfold winningScore?
  rw [best?_value, Option.map_map]
  apply Option.map_congr
  rintro ⟨winner, rank⟩ best
  obtain ⟨_, _, same⟩ := answerScore?_eq_some_iff.mp (bestBy?_eq_some_iff.mp best).ranked
  exact same

variable {registry} {other : Registry} (perm : other.triggers.Perm registry.triggers)
include perm

/-- The winning score does not depend on the order of registration. -/
theorem winningScore?_perm :
    other.winningScore? tree sender signal = registry.winningScore? tree sender signal := by
  rw [winningScore?_eq, winningScore?_eq, bestBy?_rank_perm perm]

/-- Neither does the trigger that answers, unless another one ties with it. -/
theorem best?_perm {winner : Trigger}
    (answers : (registry.best? tree sender signal).value = some winner)
    (alone : ∀ rival ∈ registry.triggers, rival.signal = signal →
      rival.sender.score tree sender = winner.sender.score tree sender → rival = winner) :
    (other.best? tree sender signal).value = some winner := by
  rw [best?_ranked] at answers ⊢
  refine bestBy?_perm perm answers ?_
  intro rival member ranked
  obtain ⟨signalled, _, tied⟩ := answerScore?_eq_some_iff.mp ranked
  exact alone rival member signalled tied

end Answer

/-- The choice of a trigger is exact. None answers when no trigger of the signal scores above
zero on the sender, and otherwise the first of those that score highest. When the same
triggers were registered in another order, the winning score is the same, and so is the
winner if no other trigger ties with it. -/
theorem choice_exact (registry : Registry) (tree : StyleTree Node) (sender : Node)
    (signal : String) :
    ((registry.best? tree sender signal).value = none ↔
      ∀ trigger ∈ registry.triggers, trigger.signal = signal →
        trigger.sender.score tree sender ≤ 0) ∧
    (∀ winner, (registry.best? tree sender signal).value = some winner ↔
      registry.Foremost tree sender signal winner) ∧
    ∀ other : Registry, other.triggers.Perm registry.triggers →
      other.winningScore? tree sender signal = registry.winningScore? tree sender signal ∧
      ∀ winner, (registry.best? tree sender signal).value = some winner →
        (∀ rival ∈ registry.triggers, rival.signal = signal →
          rival.sender.score tree sender = winner.sender.score tree sender → rival = winner) →
        (other.best? tree sender signal).value = some winner := by
  refine ⟨registry.best?_eq_none_iff tree sender signal,
    registry.best?_eq_some_iff tree sender signal, ?_⟩
  intro other perm
  exact ⟨winningScore?_perm tree sender signal perm,
    fun winner answers alone => best?_perm tree sender signal perm answers alone⟩

/-- A trigger without targets. -/
def plainTrigger (id : String) (sender : Compound) (signal : String) : Trigger :=
  ⟨id, ⟨sender, [], 0, .unknown⟩, signal, [], "theme.xml"⟩

/-- Two triggers for buttons that tie with one another, one for primary buttons, and one for
another signal. -/
def buttonTriggers : Registry :=
  ⟨[plainTrigger "first" (.ofType "Button") "clicked",
    plainTrigger "second" (.ofType "Button") "clicked",
    plainTrigger "primary" ⟨some "Button", none, ["primary"], []⟩ "clicked",
    plainTrigger "hovered" ⟨some "Button", none, ["primary"], []⟩ "hovered"]⟩

/-- The tree of a primary button. -/
def primaryButton : StyleTree Nat :=
  (Stage.ofRoot ⟨["Button"], none, ["primary"], [], []⟩).tree.toStyleTree

/-- A primary button is answered by its own trigger in either order of registration, since no
other trigger of the signal scores as high. -/
theorem choice_primary_either_way :
    let reversed : Registry := ⟨buttonTriggers.triggers.reverse⟩
    let winner := plainTrigger "primary" ⟨some "Button", none, ["primary"], []⟩ "clicked"
    reversed.triggers.Perm buttonTriggers.triggers ∧
      (buttonTriggers.best? primaryButton 0 "clicked").value = some winner ∧
      (∀ rival ∈ buttonTriggers.triggers, rival.signal = "clicked" →
        rival.sender.score primaryButton 0 = winner.sender.score primaryButton 0 →
        rival = winner) ∧
      (reversed.best? primaryButton 0 "clicked").value = some winner := by
  intro reversed winner
  have perm : reversed.triggers.Perm buttonTriggers.triggers := List.reverse_perm _
  have answers : (buttonTriggers.best? primaryButton 0 "clicked").value = some winner := by
    decide
  have alone : ∀ rival ∈ buttonTriggers.triggers, rival.signal = "clicked" →
      rival.sender.score primaryButton 0 = winner.sender.score primaryButton 0 →
      rival = winner := by decide
  have orders := (choice_exact buttonTriggers primaryButton 0 "clicked").2.2 reversed perm
  exact ⟨perm, answers, alone, orders.2 winner answers alone⟩

end ThemeMotion.Registry
