import Mathlib.Data.List.Induction
import ThemeMotion.Ranking

/-!
# Who is the best of several

The winner among candidates is the first of the highest rank: every candidate before it
ranks below, and none behind it ranks above. There is no winner exactly when no candidate
has a rank. In another order the highest rank is the same, and so is the winner unless
several candidates have that rank.

Ranks are taken from any linear order. Nothing is asked of candidates, which may repeat.
-/

namespace ThemeMotion

variable {α β : Type}

/-- A candidate and its rank lead all candidates: those before it rank below, and those
behind it no higher. -/
def Leads [LT β] [LE β] (rank? : α → Option β) (candidates : List α) (winner : α) (top : β) :
    Prop :=
  ∃ earlier later, candidates = earlier ++ winner :: later ∧ rank? winner = some top ∧
    (∀ other ∈ earlier, ∀ rank, rank? other = some rank → rank < top) ∧
    ∀ other ∈ later, ∀ rank, rank? other = some rank → rank ≤ top

/-- What is best of candidates: one that leads them, or nothing when none competes. -/
def IsBest [LT β] [LE β] (rank? : α → Option β) (candidates : List α) :
    Option (α × β) → Prop
  | none => ∀ candidate ∈ candidates, rank? candidate = none
  | some (winner, top) => Leads rank? candidates winner top

namespace Leads

variable [LT β] [LE β] {rank? : α → Option β} {candidates : List α} {winner : α} {top : β}

/-- The winner is one of the candidates. -/
theorem mem (leads : Leads rank? candidates winner top) : winner ∈ candidates := by
  obtain ⟨earlier, later, rfl, _, _, _⟩ := leads
  exact List.mem_append_right _ List.mem_cons_self

/-- The winner has the leading rank. -/
theorem ranked (leads : Leads rank? candidates winner top) : rank? winner = some top := by
  obtain ⟨_, _, _, ranked, _, _⟩ := leads
  exact ranked

/-- A further candidate of no higher rank changes nothing. -/
theorem hold {candidate : α} (leads : Leads rank? candidates winner top)
    (weaker : ∀ rank, rank? candidate = some rank → rank ≤ top) :
    Leads rank? (candidates ++ [candidate]) winner top := by
  obtain ⟨earlier, later, rfl, ranked, below, notAbove⟩ := leads
  refine ⟨earlier, later ++ [candidate], by simp, ranked, below, ?_⟩
  intro other member
  rcases List.mem_append.mp member with behind | last
  · exact notAbove other behind
  · obtain rfl := List.mem_singleton.mp last
    exact weaker

/-- A further candidate that ranks above all others leads. -/
theorem last {candidate : α} {rank : β} (ranked : rank? candidate = some rank)
    (above : ∀ other ∈ candidates, ∀ lower, rank? other = some lower → lower < rank) :
    Leads rank? (candidates ++ [candidate]) candidate rank :=
  ⟨candidates, [], rfl, ranked, above, nofun⟩

variable [Std.IsLinearOrder β] [Std.LawfulOrderLT β]

/-- No candidate ranks above the winner. -/
theorem bound (leads : Leads rank? candidates winner top) :
    ∀ other ∈ candidates, ∀ rank, rank? other = some rank → rank ≤ top := by
  obtain ⟨earlier, later, rfl, ranked, below, notAbove⟩ := leads
  intro other member rank has
  rcases List.mem_append.mp member with before | behind
  · exact Std.le_of_lt (below other before rank has)
  · rcases List.mem_cons.mp behind with rfl | behind
    · obtain rfl := Option.some.inj (has.symm.trans ranked)
      exact Std.le_refl _
    · exact notAbove other behind rank has

/-- Leaders of the same candidates have the same rank. -/
theorem rank_unique {other : α} {rank : β} (leads : Leads rank? candidates winner top)
    (rival : Leads rank? candidates other rank) : rank = top :=
  Std.le_antisymm (leads.bound other rival.mem rank rival.ranked)
    (rival.bound winner leads.mem top leads.ranked)

/-- There is one leader only. One that stood before the other would rank below it. -/
theorem unique {other : α} {rank : β} (leads : Leads rank? candidates winner top)
    (rival : Leads rank? candidates other rank) : other = winner ∧ rank = top := by
  obtain rfl := leads.rank_unique rival
  refine ⟨?_, rfl⟩
  obtain ⟨earlier, later, split, ranked, below, _⟩ := leads
  obtain ⟨earlier', later', split', ranked', below', _⟩ := rival
  rcases List.append_eq_append_iff.mp (split.symm.trans split') with
    ⟨between, apart, rest⟩ | ⟨between, apart, rest⟩
  · cases between with
    | nil => exact (List.cons.inj rest).1.symm
    | cons first _ =>
      obtain ⟨rfl, _⟩ := List.cons.inj rest
      have before : winner ∈ earlier' := apart ▸ List.mem_append_right _ List.mem_cons_self
      exact absurd (below' winner before rank ranked) Std.lt_irrefl
  · cases between with
    | nil => exact (List.cons.inj rest).1
    | cons first _ =>
      obtain ⟨rfl, _⟩ := List.cons.inj rest
      have before : other ∈ earlier := apart ▸ List.mem_append_right _ List.mem_cons_self
      exact absurd (below other before rank ranked') Std.lt_irrefl

end Leads

section Best

variable [LT β] [LE β] {rank? : α → Option β} {candidates : List α} {candidate : α}
  {best : Option (α × β)}

/-- A further candidate that does not compete leaves the best as it is. -/
theorem IsBest.skip (isBest : IsBest rank? candidates best) (unranked : rank? candidate = none) :
    IsBest rank? (candidates ++ [candidate]) best := by
  cases best with
  | none =>
    intro other member
    rcases List.mem_append.mp member with before | last
    · exact isBest other before
    · exact List.mem_singleton.mp last ▸ unranked
  | some leader =>
    refine Leads.hold isBest ?_
    intro rank ranked
    exact nomatch ranked.symm.trans unranked

variable [DecidableLT β] [Std.IsLinearOrder β] [Std.LawfulOrderLT β]

/-- The stronger of the best and a further candidate is the best of all. -/
theorem IsBest.stronger {rank : β} (isBest : IsBest rank? candidates best)
    (ranked : rank? candidate = some rank) :
    IsBest rank? (candidates ++ [candidate]) (stronger best candidate rank) := by
  cases best with
  | none =>
    refine Leads.last ranked ?_
    intro other member lower has
    exact nomatch has.symm.trans (isBest other member)
  | some leader =>
    obtain ⟨winner, top⟩ := leader
    have leads : Leads rank? candidates winner top := isBest
    by_cases beaten : top < rank
    · simp only [ThemeMotion.stronger, if_pos beaten]
      refine Leads.last ranked ?_
      intro other member lower has
      exact Std.lt_of_le_of_lt (leads.bound other member lower has) beaten
    · simp only [ThemeMotion.stronger, if_neg beaten]
      refine leads.hold ?_
      intro other has
      obtain rfl := Option.some.inj (ranked.symm.trans has)
      exact Std.not_lt.mp beaten

/-- What `bestBy?` gives is the best of the candidates.

Induction on the candidates from the end: the last of them meets the best of those before
it. -/
theorem bestBy?_isBest (rank? : α → Option β) (candidates : List α) :
    IsBest rank? candidates (bestBy? rank? candidates) := by
  induction candidates using List.reverseRecOn with
  | nil => exact fun _ member => nomatch member
  | append_singleton candidates candidate inductionHypothesis =>
    unfold bestBy? at inductionHypothesis ⊢
    rw [List.foldl_append, List.foldl_cons, List.foldl_nil]
    cases competes : rank? candidate with
    | none => exact inductionHypothesis.skip competes
    | some rank => exact inductionHypothesis.stronger competes

/-- There is no best exactly when no candidate competes. -/
theorem bestBy?_eq_none_iff :
    bestBy? rank? candidates = none ↔ ∀ candidate ∈ candidates, rank? candidate = none := by
  have isBest := bestBy?_isBest rank? candidates
  constructor
  · intro nothing
    rwa [nothing] at isBest
  · intro unranked
    cases best : bestBy? rank? candidates with
    | none => rfl
    | some leader =>
      rw [best] at isBest
      have leads : Leads rank? candidates leader.1 leader.2 := isBest
      exact nomatch leads.ranked.symm.trans (unranked leader.1 leads.mem)

/-- The best of candidates is the one that leads them. -/
theorem bestBy?_eq_some_iff {winner : α} {top : β} :
    bestBy? rank? candidates = some (winner, top) ↔ Leads rank? candidates winner top := by
  have isBest := bestBy?_isBest rank? candidates
  constructor
  · intro best
    rwa [best] at isBest
  · intro leads
    cases best : bestBy? rank? candidates with
    | none => exact nomatch leads.ranked.symm.trans (bestBy?_eq_none_iff.mp best winner leads.mem)
    | some leader =>
      rw [best] at isBest
      obtain ⟨same, equal⟩ := leads.unique isBest
      exact congrArg some (Prod.ext same equal)

variable {shuffled : List α} (perm : shuffled.Perm candidates)
include perm

/-- The leading rank does not depend on the order of the candidates. -/
theorem bestBy?_rank_perm :
    (bestBy? rank? shuffled).map Prod.snd = (bestBy? rank? candidates).map Prod.snd := by
  cases best : bestBy? rank? candidates with
  | none =>
    have unranked := bestBy?_eq_none_iff.mp best
    have nothing : bestBy? rank? shuffled = none :=
      bestBy?_eq_none_iff.mpr fun other member => unranked other (perm.mem_iff.mp member)
    rw [nothing]
  | some leader =>
    obtain ⟨winner, top⟩ := leader
    have leads := bestBy?_eq_some_iff.mp best
    cases rival : bestBy? rank? shuffled with
    | none =>
      have unranked := bestBy?_eq_none_iff.mp rival winner (perm.mem_iff.mpr leads.mem)
      exact nomatch leads.ranked.symm.trans unranked
    | some leader =>
      obtain ⟨other, rank⟩ := leader
      have leads' := bestBy?_eq_some_iff.mp rival
      have notAbove := leads.bound other (perm.mem_iff.mp leads'.mem) rank leads'.ranked
      have notBelow := leads'.bound winner (perm.mem_iff.mpr leads.mem) top leads.ranked
      exact congrArg some (Std.le_antisymm notAbove notBelow)

/-- Nor does the leader, unless another candidate of its rank may come before it. -/
theorem bestBy?_perm {winner : α} {top : β} (best : bestBy? rank? candidates = some (winner, top))
    (alone : ∀ other ∈ candidates, rank? other = some top → other = winner) :
    bestBy? rank? shuffled = some (winner, top) := by
  have ranks : (bestBy? rank? shuffled).map Prod.snd = some top := by
    rw [bestBy?_rank_perm perm, best]
    rfl
  obtain ⟨⟨other, rank⟩, rival, rfl⟩ := Option.map_eq_some_iff.mp ranks
  have leads := bestBy?_eq_some_iff.mp rival
  obtain rfl := alone other (perm.mem_iff.mp leads.mem) leads.ranked
  exact rival

end Best

end ThemeMotion
