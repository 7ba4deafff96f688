import ThemeMotion.Animation.Build
import ThemeMotion.Proofs.FirstOccurrences
import ThemeMotion.Proofs.Keyed

/-!
# What an animation gathers

The moves of a trigger are written down without groups: targets in order, the actors of
each, and the properties in order, wherever a transition comes of it. The animation that
is built holds these moves sorted by actors and nothing else. Groups stand in the order
in which the actors were first visited, also when the first visits gave no move.

Which actors a target has and which transition a property gives are taken as they are.
Notes that are left on the way are not described.
-/

namespace ThemeMotion

variable {Node : Type} [DecidableEq Node]

/-- The transitions that the properties of a target give for one of its actors. -/
def Target.transitions (target : Target) (tree : ActorTree Node) (sender : Node)
    (defaults : Defaults) (actor : Node) : List Transition :=
  target.properties.filterMap fun property =>
    (property.transition? tree sender actor target.timeline defaults).value

/-- The actors of the targets in order, as often as they are visited. -/
def Trigger.resolved (trigger : Trigger) (tree : ActorTree Node) (sender : Node) : List Node :=
  trigger.targets.flatMap fun target => (target.resolve tree sender).value

/-- A transition with the actor that it moves. -/
abbrev Move (Node : Type) := Node × Transition

/-- All moves of a trigger, in the order of targets, actors and properties. -/
def Trigger.moves (trigger : Trigger) (tree : ActorTree Node) (sender : Node)
    (defaults : Defaults) : List (Move Node) :=
  trigger.targets.flatMap fun target =>
    (target.resolve tree sender).value.flatMap fun actor =>
      (target.transitions tree sender defaults actor).map fun transition => (actor, transition)

/-- The transitions of one actor among moves, in their order. -/
def movesOf (actor : Node) (moves : List (Move Node)) : List Transition :=
  (moves.filter (·.1 = actor)).map Prod.snd

/-- An actor has a transition among moves exactly when it has a move there. -/
theorem movesOf_ne_nil_iff (actor : Node) (moves : List (Move Node)) :
    movesOf actor moves ≠ [] ↔ actor ∈ moves.map Prod.fst := by
  simp [movesOf]

namespace Share

/-- The moves of shares. -/
def spread (shares : List (Share Node)) : List (Move Node) :=
  shares.flatMap fun share => share.2.map fun transition => (share.1, transition)

/-- The moves of one share belong to its actor. -/
theorem movesOf_single (share : Share Node) (actor : Node) :
    movesOf actor (share.2.map fun transition => (share.1, transition)) =
      if share.1 = actor then share.2 else [] := by
  obtain ⟨owner, transitions⟩ := share
  by_cases same : owner = actor
  · simp [movesOf, same, List.filter_map, Function.comp_def]
  · simp [movesOf, same, List.filter_map, Function.comp_def]

/-- One more share gives its own actor more moves. -/
theorem movesOf_concat (shares : List (Share Node)) (share : Share Node) (actor : Node) :
    movesOf actor (spread (shares ++ [share])) =
      movesOf actor (spread shares) ++ if share.1 = actor then share.2 else [] := by
  rw [← movesOf_single]
  simp [movesOf, spread]

/-- An actor that has no share has no moves. -/
theorem movesOf_absent (shares : List (Share Node)) (actor : Node)
    (absent : actor ∉ shares.map Prod.fst) : movesOf actor (spread shares) = [] := by
  apply Classical.byContradiction
  intro moved
  obtain ⟨move, member, rfl⟩ := List.mem_map.mp ((movesOf_ne_nil_iff _ _).mp moved)
  obtain ⟨share, among, own⟩ := List.mem_flatMap.mp member
  obtain ⟨transition, _, rfl⟩ := List.mem_map.mp own
  exact absent (List.mem_map_of_mem among)

/-- Shares sorted by actors: each actor of a share once, in the order of first
occurrences, with all its moves. -/
def sorted (shares : List (Share Node)) : List (Share Node) :=
  (shares.map Prod.fst).eraseDups.map fun actor => (actor, movesOf actor (spread shares))

/-- Adding a share to sorted ones sorts it in. -/
theorem add_sorted (shares : List (Share Node)) (share : Share Node) :
    add (sorted shares) share = sorted (shares ++ [share]) := by
  unfold add sorted
  rw [List.map_append, List.map_singleton, eraseDups_concat]
  by_cases present : share.1 ∈ shares.map Prod.fst
  · rw [if_pos present, List.append_nil,
      Keyed.alter_present (eraseDups_nodup _) (List.mem_eraseDups.mpr present)]
    apply List.map_congr_left
    intro actor _
    rw [movesOf_concat]
    by_cases own : actor = share.1
    · simp [own]
    · simp [own, Ne.symm own]
  · have absent : share.1 ∉ (shares.map Prod.fst).eraseDups := by
      rwa [List.mem_eraseDups]
    rw [if_neg present, Keyed.alter_absent (by simpa using present), List.map_append]
    congr 1
    · apply List.map_congr_left
      intro actor member
      have other : share.1 ≠ actor := fun same => absent (same ▸ member)
      rw [movesOf_concat, if_neg other, List.append_nil]
    · rw [List.map_singleton, movesOf_concat, movesOf_absent shares share.1 present]
      simp

/-- Gathering sorts shares by actors. -/
theorem gather_eq (shares : List (Share Node)) : gather shares = sorted shares := by
  have continued (before rest : List (Share Node)) :
      rest.foldl add (sorted before) = sorted (before ++ rest) := by
    induction rest generalizing before with
    | nil => rw [List.append_nil, List.foldl_nil]
    | cons share rest inductionHypothesis =>
      rw [List.foldl_cons, add_sorted, inductionHypothesis, List.append_assoc,
        List.singleton_append]
  exact continued [] shares

end Share

section Visits

variable (trigger : Trigger) (tree : ActorTree Node) (sender : Node) (defaults : Defaults)

/-- Visiting the targets of a trigger gives one share for each actor of each target. -/
theorem Trigger.visits_value : (trigger.visits tree sender defaults).value =
    trigger.targets.flatMap fun target => (target.resolve tree sender).value.map fun actor =>
      (actor, target.transitions tree sender defaults actor) := by
  simp [Trigger.visits, Target.visits, Target.visit, Target.transitions, List.flatMap,
    List.filterMap_map]

/-- The actors of the shares are those that the targets have. -/
theorem Trigger.visits_actors :
    (trigger.visits tree sender defaults).value.map Prod.fst = trigger.resolved tree sender := by
  rw [visits_value]
  simp [Trigger.resolved, List.map_flatMap, Function.comp_def]

/-- The moves of the shares are those of the trigger. -/
theorem Trigger.visits_moves : Share.spread (trigger.visits tree sender defaults).value =
    trigger.moves tree sender defaults := by
  rw [visits_value]
  simp [Trigger.moves, Share.spread, List.flatMap_assoc, List.flatMap_map]

end Visits

namespace Animation

/-- The group of a share is attached unless the share is empty. -/
theorem attachShare_value (animation : Animation Node) (tree : ActorTree Node)
    (share : Share Node) : (animation.attachShare tree share).value =
      if share.2 = [] then animation
      else animation.attach share.1 (.ofTransitions share.2) := by
  obtain ⟨actor, transitions⟩ := share
  cases transitions <;> rfl

/-- Attaching shares of different actors appends the groups of those that are not empty;
no group is put in the place of another.

Induction on the shares. The actor of the first of them is new to the groups, and after
it has joined them, the other actors still are. -/
theorem attachShare_groups (tree : ActorTree Node) (shares : List (Share Node))
    (animation : Animation Node) (apart : (shares.map Prod.fst).Nodup)
    (fresh : ∀ share ∈ shares, share.1 ∉ animation.groups.map Prod.fst) :
    shares.foldl (fun state share => (state.attachShare tree share).value) animation =
      ⟨animation.id, animation.groups ++
        (shares.filter (·.2 ≠ [])).map fun share => (share.1, .ofTransitions share.2)⟩ := by
  induction shares generalizing animation with
  | nil => simp
  | cons share rest inductionHypothesis =>
    rw [List.map_cons, List.nodup_cons] at apart
    obtain ⟨absent, apart⟩ := apart
    rw [List.foldl_cons, attachShare_value]
    by_cases nothing : share.2 = []
    · rw [if_pos nothing, inductionHypothesis animation apart
        fun other member => fresh other (List.mem_cons_of_mem _ member)]
      simp [nothing]
    · have placed : (animation.attach share.1 (.ofTransitions share.2)).groups =
          animation.groups ++ [(share.1, .ofTransitions share.2)] :=
        Keyed.alter_absent (fresh share List.mem_cons_self) _
      have others : ∀ other ∈ rest,
          other.1 ∉ (animation.attach share.1 (.ofTransitions share.2)).groups.map Prod.fst := by
        intro other member
        rw [placed, List.map_append, List.mem_append, not_or]
        refine ⟨fresh other (List.mem_cons_of_mem _ member), ?_⟩
        intro same
        exact absent (List.mem_singleton.mp same ▸ List.mem_map_of_mem member)
      rw [if_neg nothing, inductionHypothesis _ apart others, placed]
      simp [nothing, attach]

end Animation

section Animation

variable (trigger : Trigger) (tree : ActorTree Node) (sender : Node) (defaults : Defaults)

/-- The animation of a trigger, in terms of its moves: its groups are the shares of the
visits, sorted by actors, less those that are empty. -/
theorem Trigger.animation_value : (trigger.animation tree sender defaults).value =
    ⟨trigger.id,
      ((trigger.resolved tree sender).eraseDups.filter fun actor =>
        movesOf actor (trigger.moves tree sender defaults) ≠ []).map fun actor =>
          (actor, .ofTransitions (movesOf actor (trigger.moves tree sender defaults)))⟩ := by
  have actors : (Share.sorted (trigger.visits tree sender defaults).value).map Prod.fst =
      (trigger.resolved tree sender).eraseDups := by
    simp [Share.sorted, Function.comp_def, visits_actors]
  have apart := eraseDups_nodup (trigger.resolved tree sender)
  rw [← actors] at apart
  unfold Trigger.animation
  rw [Trace.Noted.value_bind, Trace.Noted.value_foldlM, Share.gather_eq,
    Animation.attachShare_groups tree _ (Animation.empty trigger.id) apart
      fun _ _ => List.not_mem_nil]
  simp only [Animation.empty, List.nil_append, Share.sorted, visits_actors, visits_moves,
    List.filter_map, List.map_map, Function.comp_def]

/-- Only actors of the targets are moved. -/
theorem Trigger.moved_resolved (actor : Node)
    (moved : actor ∈ (trigger.moves tree sender defaults).map Prod.fst) :
    actor ∈ trigger.resolved tree sender := by
  rw [← visits_moves, ← movesOf_ne_nil_iff] at moved
  rw [← visits_actors trigger tree sender defaults]
  apply Classical.byContradiction
  intro absent
  exact moved (Share.movesOf_absent _ actor absent)

/-- An animation holds the moves of its trigger, without loss and without repetition. It
has the id of the trigger. It has a group for an actor exactly when the actor has a move.
A group holds the transitions of its actor in the order of the moves, and never none. No
actor has two groups, and the actors stand in the order in which the targets first have
them, whether or not the first of these targets moves them. -/
theorem Trigger.animation_exact :
    let animation := (trigger.animation tree sender defaults).value
    let moves := trigger.moves tree sender defaults
    animation.id = trigger.id ∧
    (∀ actor, (∃ group, (actor, group) ∈ animation.groups) ↔ actor ∈ moves.map Prod.fst) ∧
    (∀ actor group, (actor, group) ∈ animation.groups →
      group.transitions = movesOf actor moves ∧ group.transitions ≠ []) ∧
    (animation.groups.map Prod.fst).Nodup ∧
    animation.groups.map Prod.fst =
      (trigger.resolved tree sender).eraseDups.filter (· ∈ moves.map Prod.fst) := by
  intro animation moves
  have groups : animation.groups =
      ((trigger.resolved tree sender).eraseDups.filter (movesOf · moves ≠ [])).map fun actor =>
        (actor, .ofTransitions (movesOf actor moves)) :=
    congrArg Animation.groups (Trigger.animation_value trigger tree sender defaults)
  have order : animation.groups.map Prod.fst =
      (trigger.resolved tree sender).eraseDups.filter (· ∈ moves.map Prod.fst) := by
    rw [groups, List.map_map]
    simp only [movesOf_ne_nil_iff, Function.comp_def, List.map_id']
  refine ⟨congrArg Animation.id (Trigger.animation_value trigger tree sender defaults),
    ?_, ?_, ?_, order⟩
  · intro actor
    have grouped : (∃ group, (actor, group) ∈ animation.groups) ↔
        actor ∈ animation.groups.map Prod.fst := by simp
    rw [grouped, order, List.mem_filter, List.mem_eraseDups, decide_eq_true_iff]
    exact ⟨And.right, fun moved => ⟨trigger.moved_resolved tree sender defaults actor moved, moved⟩⟩
  · intro actor group member
    rw [groups] at member
    obtain ⟨other, kept, same⟩ := List.mem_map.mp member
    cases same
    exact ⟨rfl, by simpa using (List.mem_filter.mp kept).2⟩
  · rw [order]
    exact (eraseDups_nodup _).filter _

end Animation

end ThemeMotion
