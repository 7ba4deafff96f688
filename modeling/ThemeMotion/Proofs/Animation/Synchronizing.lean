import Mathlib.Algebra.Order.Ring.Nat
import Mathlib.Data.Int.ConditionallyCompleteOrder
import Mathlib.Tactic.Tauto
import ThemeMotion.Proofs.Animation.Typing

/-!
# Timelines of groups

The timeline of a group is a join: it is known by its upper bounds, and these are the bounds of
all members at once. A number bounds its duration exactly when it bounds the end of every
member, and a number that is not negative bounds its repetition exactly when it bounds that of
every member. So it does not matter in how many stages members are brought together, in which
order, or how often one of them is named.

A member without an end has a negative repetition and is bounded by every such number. It does
not make its group endless.
-/

namespace ThemeMotion

/-- The greatest of the words that members give, and of a first one, is known by its bounds. Words
are compared through the numbers that they denote. -/
theorem foldl_max_le_iff {Member Word Number : Type} [Max Word] [LinearOrder Number]
    {denoted : Word → Number}
    (greater : ∀ first second, denoted (max first second) = max (denoted first) (denoted second))
    (given : Member → Word) (members : List Member) (first : Word) (bound : Number) :
    denoted (members.foldl (fun greatest member => max greatest (given member)) first) ≤ bound ↔
      denoted first ≤ bound ∧ ∀ member ∈ members, denoted (given member) ≤ bound := by
  induction members generalizing first with
  | nil => simp
  | cons member rest inductionHypothesis =>
    rw [List.foldl_cons, inductionHypothesis, greater, max_le_iff, List.forall_mem_cons, and_assoc]

namespace Timeline

/-- The end of a timeline is its delay and its duration, within the numbers of a word. -/
theorem total_toNat (timeline : Timeline) :
    timeline.total.toNat = min (timeline.delay.toNat + timeline.duration.toNat) (2 ^ 32 - 1) :=
  Word.saturatingSum_toNat timeline.delay timeline.duration

/-- What bounds the ends of all members bounds the duration of their group. -/
theorem synchronized_duration_le_iff (members : List Timeline) (bound : ℕ) :
    (synchronized members).duration.toNat ≤ bound ↔
      ∀ member ∈ members, member.total.toNat ≤ bound := by
  rw [synchronized, foldl_max_le_iff UInt32.toNat_max]
  simp

/-- The members without an end may be compared as well, since the greatest repetition is never
below zero. -/
theorem synchronized_repetition (members : List Timeline) :
    (synchronized members).repetition =
      members.foldl (fun most member => max most member.repetition) 0 := by
  suffices general : ∀ first : Int32, 0 ≤ first.toInt →
      members.foldl (fun most member =>
          if 0 ≤ member.repetition then max most member.repetition else most) first =
        members.foldl (fun most member => max most member.repetition) first from
    general 0 (by decide)
  induction members with
  | nil => exact fun _ _ => rfl
  | cons member rest inductionHypothesis =>
    intro first positive
    have same : (if 0 ≤ member.repetition then max first member.repetition else first) =
        max first member.repetition := by
      split
      · rfl
      · next endless =>
        rw [Int32.le_iff_toInt_le, not_le] at endless
        apply Int32.toInt_inj.mp
        rw [Word.toInt_max, max_eq_left (endless.le.trans positive)]
    rw [List.foldl_cons, List.foldl_cons, same]
    exact inductionHypothesis _ (by rw [Word.toInt_max]; exact le_max_of_le_left positive)

/-- What bounds the repetitions of all members, and is not negative, bounds the repetition of
their group. -/
theorem synchronized_repetition_le_iff (members : List Timeline) (bound : ℤ) :
    (synchronized members).repetition.toInt ≤ bound ↔
      0 ≤ bound ∧ ∀ member ∈ members, member.repetition.toInt ≤ bound := by
  rw [synchronized_repetition, foldl_max_le_iff Word.toInt_max]
  rfl

/-- A group ends when its duration is over, since it has no delay. -/
theorem synchronized_total (members : List Timeline) :
    (synchronized members).total.toNat = (synchronized members).duration.toNat := by
  have upper := (synchronized members).duration.toNat_lt
  have still : (synchronized members).delay.toNat = 0 := rfl
  rw [total_toNat, still]
  omega

/-- Members with the same bounds have the same timeline. -/
theorem synchronized_congr {first second : List Timeline}
    (ends : ∀ bound : ℕ, (∀ member ∈ first, member.total.toNat ≤ bound) ↔
      ∀ member ∈ second, member.total.toNat ≤ bound)
    (repetitions : ∀ bound : ℤ, 0 ≤ bound →
      ((∀ member ∈ first, member.repetition.toInt ≤ bound) ↔
        ∀ member ∈ second, member.repetition.toInt ≤ bound)) :
    synchronized first = synchronized second := by
  have duration : (synchronized first).duration = (synchronized second).duration := by
    apply UInt32.toNat_inj.mp
    apply eq_of_forall_ge_iff
    intro bound
    rw [synchronized_duration_le_iff, synchronized_duration_le_iff, ends]
  have repetition : (synchronized first).repetition = (synchronized second).repetition := by
    apply Int32.toInt_inj.mp
    apply eq_of_forall_ge_iff
    intro bound
    rw [synchronized_repetition_le_iff, synchronized_repetition_le_iff]
    exact and_congr_right (repetitions bound)
  calc synchronized first
      = ⟨0, (synchronized first).duration, .standard, (synchronized first).repetition⟩ := rfl
    _ = ⟨0, (synchronized second).duration, .standard, (synchronized second).repetition⟩ := by
      rw [duration, repetition]
    _ = synchronized second := rfl

/-- Members may be brought together in stages. -/
theorem synchronized_append (first second : List Timeline) :
    synchronized (first ++ second) = synchronized [synchronized first, synchronized second] := by
  apply synchronized_congr
  · intro bound
    simp only [List.forall_mem_append, List.forall_mem_cons, List.not_mem_nil, false_implies,
      implies_true, and_true, synchronized_total, synchronized_duration_le_iff]
  · intro bound positive
    simp only [List.forall_mem_append, List.forall_mem_cons, List.not_mem_nil, false_implies,
      implies_true, and_true, synchronized_repetition_le_iff, positive, true_and]

/-- The duration is the least number that no end of a member exceeds. -/
theorem synchronized_duration_isLeast (members : List Timeline) :
    IsLeast {n : ℕ | ∀ member ∈ members, member.total.toNat ≤ n}
      (synchronized members).duration.toNat :=
  ⟨(synchronized_duration_le_iff members _).mp le_rfl,
    fun bound bounds => (synchronized_duration_le_iff members bound).mpr bounds⟩

/-- The repetition is the least number from zero on that no repetition of a member exceeds, those
without an end left out. -/
theorem synchronized_repetition_isLeast (members : List Timeline) :
    IsLeast {n : ℤ | 0 ≤ n ∧ ∀ member ∈ members,
        0 ≤ member.repetition.toInt → member.repetition.toInt ≤ n}
      (synchronized members).repetition.toInt := by
  obtain ⟨positive, bounded⟩ := (synchronized_repetition_le_iff members _).mp le_rfl
  refine ⟨⟨positive, fun member among _ => bounded member among⟩, ?_⟩
  rintro bound ⟨positive, bounds⟩
  refine (synchronized_repetition_le_iff members bound).mpr ⟨positive, ?_⟩
  intro member among
  by_cases ending : 0 ≤ member.repetition.toInt
  · exact bounds member among ending
  · omega

end Timeline

namespace Animation

variable {Node : Type}

/-- The transitions of all groups. -/
def transitions (animation : Animation Node) : List Transition :=
  animation.groups.flatMap fun entry => entry.2.transitions

/-- What bounds the ends of all transitions bounds the duration of the animation. -/
theorem totalDuration_le_iff [DecidableEq Node] (animation : Animation Node) (bound : ℕ) :
    animation.totalDuration.toNat ≤ bound ↔
      ∀ transition ∈ animation.transitions, transition.timeline.total.toNat ≤ bound := by
  rw [totalDuration, foldl_max_le_iff UInt32.toNat_max]
  simp only [TransitionGroup.unified, Timeline.synchronized_duration_le_iff,
    List.forall_mem_map, transitions, List.forall_mem_flatMap]
  simp

/-- The duration of an animation is the end of its last transition. Were it the end of none, then
a smaller number would bound all of them. -/
theorem totalDuration_isGreatest [DecidableEq Node] (animation : Animation Node)
    (filled : animation.transitions ≠ []) :
    IsGreatest {n : ℕ | ∃ transition ∈ animation.transitions,
        transition.timeline.total.toNat = n} animation.totalDuration.toNat := by
  have bounded := (animation.totalDuration_le_iff _).mp le_rfl
  constructor
  · by_contra unattained
    have below : ∀ transition ∈ animation.transitions,
        transition.timeline.total.toNat < animation.totalDuration.toNat := by
      intro transition among
      exact lt_of_le_of_ne (bounded transition among) fun same =>
        unattained ⟨transition, among, same⟩
    obtain ⟨transition, among⟩ := List.exists_mem_of_ne_nil _ filled
    have positive := below transition among
    have smaller : animation.totalDuration.toNat ≤ animation.totalDuration.toNat - 1 :=
      (animation.totalDuration_le_iff _).mpr fun other member =>
        Nat.le_sub_one_of_lt (below other member)
    omega
  · rintro _ ⟨transition, among, rfl⟩
    exact bounded transition among

/-- An animation without transitions has no duration. -/
theorem totalDuration_nothing [DecidableEq Node] (animation : Animation Node)
    (nothing : animation.transitions = []) : animation.totalDuration = 0 := by
  apply UInt32.toNat_inj.mp
  have least := (animation.totalDuration_le_iff 0).mpr (by simp [nothing])
  exact Nat.le_zero.mp least

end Animation

/-- The timeline of a group is a join of its members. Members may be brought together in stages,
in any order, and any number of times. The group starts at once and is linear; its duration is
the least number that no delay and duration of a member exceed together, within the numbers of a
word, and its repetition is the least number from zero on that none of the repetitions from zero
on exceeds. So the duration of an animation, as it is built, is the greatest of the ends of all
transitions of all groups, and zero where there is none. -/
theorem synchronized_joins :
    (∀ first second : List Timeline, Timeline.synchronized (first ++ second) =
      Timeline.synchronized [Timeline.synchronized first, Timeline.synchronized second]) ∧
    (∀ first second : List Timeline, (∀ member, member ∈ first ↔ member ∈ second) →
      Timeline.synchronized first = Timeline.synchronized second) ∧
    (∀ members : List Timeline,
      (Timeline.synchronized members).delay = 0 ∧
      (Timeline.synchronized members).mode = .named .linear ∧
      IsLeast {n : ℕ | ∀ member ∈ members,
          min (member.delay.toNat + member.duration.toNat) (2 ^ 32 - 1) ≤ n}
        (Timeline.synchronized members).duration.toNat ∧
      IsLeast {n : ℤ | 0 ≤ n ∧ ∀ member ∈ members,
          0 ≤ member.repetition.toInt → member.repetition.toInt ≤ n}
        (Timeline.synchronized members).repetition.toInt) ∧
    ∀ {Node : Type} [DecidableEq Node] (trigger : Trigger) (tree : ActorTree Node)
      (sender : Node) (defaults : Defaults),
      let animation := (trigger.animation tree sender defaults).value
      (animation.transitions = [] → animation.totalDuration = 0) ∧
      (animation.transitions ≠ [] →
        IsGreatest {n : ℕ | ∃ transition ∈ animation.transitions,
            min (transition.timeline.delay.toNat + transition.timeline.duration.toNat)
              (2 ^ 32 - 1) = n}
          animation.totalDuration.toNat) := by
  refine ⟨Timeline.synchronized_append, ?_, ?_, ?_⟩
  · intro first second same
    apply Timeline.synchronized_congr
    · intro bound
      simp only [same]
    · intro bound _
      simp only [same]
  · intro members
    simp only [← Timeline.total_toNat]
    exact ⟨rfl, rfl, Timeline.synchronized_duration_isLeast members,
      Timeline.synchronized_repetition_isLeast members⟩
  · intro Node _ trigger tree sender defaults animation
    simp only [← Timeline.total_toNat]
    exact ⟨animation.totalDuration_nothing, animation.totalDuration_isGreatest⟩

/-- Members that are named again and in another order, one of them without an end and past the
numbers of a word, and an animation with one transition. -/
theorem synchronized_joins_endless :
    Timeline.synchronized [⟨10, 100, .standard, 2⟩, ⟨4294967295, 100, .standard, -1⟩] =
      Timeline.synchronized [⟨4294967295, 100, .standard, -1⟩, ⟨10, 100, .standard, 2⟩,
        ⟨4294967295, 100, .standard, -1⟩] ∧
    (gravityTrigger.animation gravityStage.tree 0 gravityDefaults).value.transitions ≠ [] ∧
    IsGreatest {n : ℕ | ∃ transition ∈
        (gravityTrigger.animation gravityStage.tree 0 gravityDefaults).value.transitions,
          min (transition.timeline.delay.toNat + transition.timeline.duration.toNat)
            (2 ^ 32 - 1) = n}
      (gravityTrigger.animation gravityStage.tree 0 gravityDefaults).value.totalDuration.toNat := by
  obtain ⟨_, reordered, _, lasting⟩ := synchronized_joins
  have filled :
      (gravityTrigger.animation gravityStage.tree 0 gravityDefaults).value.transitions ≠ [] := by
    decide
  refine ⟨reordered _ _ fun member => ?_, filled, (lasting _ _ _ _).2 filled⟩
  simp only [List.mem_cons, List.not_mem_nil, or_false]
  tauto

/-- The end of the first member is held at the largest word, and only the second repeats. -/
example : Timeline.synchronized [⟨4294967295, 100, .standard, -1⟩, ⟨10, 100, .standard, 2⟩] =
    ⟨0, 4294967295, .standard, 2⟩ := by
  decide

end ThemeMotion
