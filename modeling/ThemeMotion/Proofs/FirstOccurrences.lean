import Mathlib.Data.List.Induction
import Mathlib.Data.List.Nodup

/-!
# First occurrences in a list

Of the elements of a list the first occurrences are left, in their order. A further element is
one of them unless it is in the list already.
-/

namespace ThemeMotion

variable {Element : Type} [DecidableEq Element]

/-- An element behind others is a first occurrence unless it is one of them. -/
theorem eraseDups_concat (given : List Element) (element : Element) :
    (given ++ [element]).eraseDups =
      given.eraseDups ++ if element ∈ given then [] else [element] := by
  rw [List.eraseDups_append]
  by_cases member : element ∈ given <;> simp [List.removeAll, member, List.eraseDups_cons]

/-- First occurrences are different from one another.

Induction on the list from its last element. -/
theorem eraseDups_nodup (given : List Element) : given.eraseDups.Nodup := by
  induction given using List.reverseRecOn with
  | nil => exact List.nodup_nil
  | append_singleton given element inductionHypothesis =>
    rw [eraseDups_concat]
    split
    · rwa [List.append_nil]
    · next fresh =>
      refine List.nodup_append.mpr ⟨inductionHypothesis, List.nodup_singleton _, ?_⟩
      rintro first member _ last rfl
      obtain rfl := List.mem_singleton.mp last
      exact fresh (List.mem_eraseDups.mp member)

/-- First occurrences stand in the order in which their elements come first. -/
theorem eraseDups_ordered (given : List Element) :
    given.eraseDups.Pairwise fun first second => given.idxOf first < given.idxOf second := by
  induction given using List.reverseRecOn with
  | nil => exact List.Pairwise.nil
  | append_singleton given element inductionHypothesis =>
    rw [eraseDups_concat]
    have earlier : given.eraseDups.Pairwise fun first second =>
        (given ++ [element]).idxOf first < (given ++ [element]).idxOf second := by
      refine inductionHypothesis.imp_of_mem ?_
      intro first second firstMember secondMember ordered
      rw [List.mem_eraseDups] at firstMember secondMember
      rwa [List.idxOf_append_of_mem firstMember, List.idxOf_append_of_mem secondMember]
    split
    · rwa [List.append_nil]
    · next fresh =>
      refine List.pairwise_append.mpr ⟨earlier, List.pairwise_singleton _ _, ?_⟩
      intro first member second last
      obtain rfl := List.mem_singleton.mp last
      rw [List.mem_eraseDups] at member
      rw [List.idxOf_append_of_mem member, List.idxOf_append_of_notMem fresh]
      have before := List.idxOf_lt_length_of_mem member
      omega

end ThemeMotion
