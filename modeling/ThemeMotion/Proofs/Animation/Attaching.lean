import Mathlib.Data.Finset.Card
import ThemeMotion.Proofs.Animation.Gathering
import ThemeMotion.Proofs.Keyed

/-!
# Attaching groups

An animation maps actors to groups and keeps the order in which the actors came. Groups may be
attached in any number and for the same actor again and again: an actor has one entry, it stands
where the actor was attached first, and it holds the group that was attached last
(`Holds.attachAll`). What is attached for one actor does not bear on another.

Groups are taken as they are; which of them an animation is built from is the subject of
`Trigger.animation_exact`.
-/

namespace ThemeMotion.Animation

variable {Node : Type} [DecidableEq Node]

/-- The actors that have a group, in the order of the groups. -/
def actors (animation : Animation Node) : List Node := animation.groups.map Prod.fst

section Attach

variable (animation : Animation Node) (actor : Node) (group : TransitionGroup)

/-- The actor of an attached group has this group, and the others have theirs. -/
theorem group?_attach (other : Node) : (animation.attach actor group).group? other =
    if other = actor then some group else animation.group? other := by
  rw [attach, group?, Keyed.lookup_put]
  rfl

/-- An actor that has a group keeps its place, and a new one comes last. -/
theorem actors_attach : (animation.attach actor group).actors =
    if actor ∈ animation.actors then animation.actors else animation.actors ++ [actor] := by
  rw [attach, actors, Keyed.keys_put]
  rfl

/-- No other actor changes its place. -/
theorem place_kept (other : Node) (different : other ≠ actor) (place : ℕ) :
    (animation.attach actor group).actors[place]? = some other ↔
      animation.actors[place]? = some other := by
  rw [actors_attach]
  split
  · exact Iff.rfl
  · rw [List.getElem?_append, List.getElem?_singleton]
    split
    · exact Iff.rfl
    · next behind =>
      have absent : animation.actors[place]? = none :=
        List.getElem?_eq_none (Nat.le_of_not_lt behind)
      rw [absent]
      split <;> simp [different.symm]

end Attach

/-- An animation with further groups, attached one after the other. -/
def attachAll (animation : Animation Node) (given : List (Node × TransitionGroup)) :
    Animation Node :=
  given.foldl (fun state entry => state.attach entry.1 entry.2) animation

/-- The last group that is given for an actor. -/
def lastFor? (actor : Node) (given : List (Node × TransitionGroup)) : Option TransitionGroup :=
  (given.filter (·.1 = actor)).getLast?.map Prod.snd

/-- A further group is the last one for its actor. -/
theorem lastFor?_concat (actor : Node) (given : List (Node × TransitionGroup))
    (entry : Node × TransitionGroup) : lastFor? actor (given ++ [entry]) =
      if actor = entry.1 then some entry.2 else lastFor? actor given := by
  by_cases same : actor = entry.1
  · simp [lastFor?, same]
  · simp [lastFor?, same, Ne.symm same]

/-- An actor has no last group exactly when none is given for it. -/
theorem lastFor?_eq_none_iff (actor : Node) (given : List (Node × TransitionGroup)) :
    lastFor? actor given = none ↔ actor ∉ given.map Prod.fst := by
  rw [lastFor?, Option.map_eq_none_iff, List.getLast?_eq_none_iff, List.filter_eq_nil_iff]
  constructor
  · intro others member
    obtain ⟨entry, among, same⟩ := List.mem_map.mp member
    exact others entry among (decide_eq_true same)
  · intro absent entry among same
    exact absent (List.mem_map.mpr ⟨entry, among, of_decide_eq_true same⟩)

/-- What an animation is after groups were given: each actor has its last one, and the actors
stand as they were given first. -/
structure Holds (animation : Animation Node) (given : List (Node × TransitionGroup)) : Prop where
  order : animation.actors = (given.map Prod.fst).eraseDups
  found : ∀ actor, animation.group? actor = lastFor? actor given

/-- A new animation holds nothing. -/
theorem holds_empty (id : String) : (empty id : Animation Node).Holds [] := ⟨rfl, fun _ => rfl⟩

/-- An attached group is one more that is given. -/
theorem Holds.attach {animation : Animation Node} {given : List (Node × TransitionGroup)}
    (holds : animation.Holds given) (actor : Node) (group : TransitionGroup) :
    (animation.attach actor group).Holds (given ++ [(actor, group)]) := by
  constructor
  · rw [actors_attach, holds.order, List.map_append, List.map_singleton, eraseDups_concat]
    by_cases known : actor ∈ given.map Prod.fst
    · rw [if_pos (List.mem_eraseDups.mpr known), if_pos known, List.append_nil]
    · rw [if_neg (mt List.mem_eraseDups.mp known), if_neg known]
  · intro other
    rw [group?_attach, holds.found, lastFor?_concat]

/-- An animation holds what was given before and what is attached then.

Induction on the groups that are attached; each is the last of those given so far. -/
theorem Holds.attachAll {animation : Animation Node} {before : List (Node × TransitionGroup)}
    (holds : animation.Holds before) (given : List (Node × TransitionGroup)) :
    (animation.attachAll given).Holds (before ++ given) := by
  induction given generalizing animation before with
  | nil => rwa [List.append_nil]
  | cons entry rest inductionHypothesis =>
    have further := inductionHypothesis (holds.attach entry.1 entry.2)
    rwa [List.append_assoc] at further

/-- An animation to which groups were attached, in any number and order, is a map in the order of
first attaching. An actor has one entry if a group was attached for it and none otherwise. The
actors stand in the order in which they were attached first. The group of an actor is the one
that was attached for it last, and there is none exactly when none was attached; the entries are
the actors with these groups. There are as many of them as actors for which groups were attached.
One more group becomes that of its actor; it changes no other actor's group and no other actor's
place, and its own actor keeps the place that it has. -/
theorem attaching_exact (id : String) (given : List (Node × TransitionGroup)) :
    let animation := (empty id : Animation Node).attachAll given
    (∀ actor, animation.actors.count actor = if actor ∈ given.map Prod.fst then 1 else 0) ∧
    (animation.actors.Pairwise fun first second =>
      (given.map Prod.fst).idxOf first < (given.map Prod.fst).idxOf second) ∧
    (∀ actor, animation.group? actor = lastFor? actor given) ∧
    (∀ actor, animation.group? actor = none ↔ actor ∉ given.map Prod.fst) ∧
    (∀ actor group, (actor, group) ∈ animation.groups ↔ animation.group? actor = some group) ∧
    animation.size = (given.map Prod.fst).toFinset.card ∧
    ∀ actor group, (animation.attach actor group).group? actor = some group ∧
      (∀ other, other ≠ actor →
        (animation.attach actor group).group? other = animation.group? other) ∧
      ∀ other, other ≠ actor ∨ other ∈ animation.actors → ∀ place : ℕ,
        (animation.attach actor group).actors[place]? = some other ↔
          animation.actors[place]? = some other := by
  intro animation
  obtain ⟨order, found⟩ : animation.Holds given := (holds_empty id).attachAll given
  have apart : animation.actors.Nodup := by
    rw [order]
    exact eraseDups_nodup _
  have attached (actor : Node) : actor ∈ animation.actors ↔ actor ∈ given.map Prod.fst := by
    rw [order, List.mem_eraseDups]
  refine ⟨?_, ?_, found, ?_, ?_, ?_, ?_⟩
  · intro actor
    split
    · next member => exact List.count_eq_one_of_mem apart ((attached actor).mpr member)
    · next absent => exact List.count_eq_zero.mpr fun member => absent ((attached actor).mp member)
  · rw [order]
    exact eraseDups_ordered _
  · intro actor
    rw [found, lastFor?_eq_none_iff]
  · intro actor group
    exact (Keyed.lookup_eq_some_iff_mem apart actor group).symm
  · have same : (given.map Prod.fst).toFinset = animation.actors.toFinset := by
      ext actor
      rw [List.mem_toFinset, List.mem_toFinset, attached]
    rw [same, List.toFinset_card_of_nodup apart]
    exact (List.length_map Prod.fst).symm
  · intro actor group
    refine ⟨?_, ?_, ?_⟩
    · rw [group?_attach, if_pos rfl]
    · intro other different
      rw [group?_attach, if_neg different]
    · rintro other (different | present) place
      · exact animation.place_kept actor group other different place
      · by_cases different : other = actor
        · rw [actors_attach, if_pos (different ▸ present)]
        · exact animation.place_kept actor group other different place

/-- A group with one transition. -/
def single (property : String) : TransitionGroup :=
  .ofTransitions [⟨property, .bool, .bool false, some (.bool true), .standard⟩]

/-- An actor for which a second group is attached stays the first and gives up its group, while
the one behind it keeps both place and group. -/
theorem attaching_again :
    let animation := (empty "fade" : Animation ℕ).attachAll
      [(7, single "visible"), (3, single "visible"), (7, single "reactive")]
    animation.actors = [7, 3] ∧ animation.size = 2 ∧
      animation.group? 7 = some (single "reactive") ∧
      (animation.attach 7 (.ofTransitions [])).group? 3 = some (single "visible") ∧
      (animation.attach 7 (.ofTransitions [])).actors[0]? = some 7 ∧
      (animation.attach 7 (.ofTransitions [])).actors[1]? = some 3 := by
  intro animation
  have ordered : animation.actors = [7, 3] := by decide
  obtain ⟨_, _, found, _, _, counted, further⟩ := attaching_exact "fade"
    [(7, single "visible"), (3, single "visible"), (7, single "reactive")]
  obtain ⟨_, others, places⟩ := further 7 (.ofTransitions [])
  refine ⟨ordered, counted.trans (by decide), (found 7).trans (by decide),
    (others 3 (by decide)).trans (by decide), ?_, ?_⟩
  · exact (places 7 (.inr (by decide)) 0).mpr (by decide)
  · exact (places 3 (.inl (by decide)) 1).mpr (by decide)

end ThemeMotion.Animation
