import ThemeMotion.Selector.Link

/-!
# Links of a selector

The links above the subject of a selector are all of one making: each leads to one link
at most, has no priority, and was declared where the selector was. So the chain of a
selector is well formed for the file of its source, whatever its compounds are.
-/

namespace ThemeMotion

/-- A chain as a document of the file declares it: no link leads both to a parent and to
an ancestor, only the subject may have a priority, and all links stem from the file. -/
structure Link.WellFormed (file : String) (chain : Link) : Prop where
  single : ∀ link ∈ chain.links, link.parent = none ∨ link.ancestor = none
  plain : ∀ link ∈ chain.links.tail, link.priority = 0
  placed : ∀ link ∈ chain.links, link.source.file = some file

/-- The links that are reached from a link are the link itself, those from its parent and
those from its ancestor. -/
theorem Link.mem_links_iff (link other : Link) : other ∈ link.links ↔
    other = link ∨ (∃ above, link.parent = some above ∧ other ∈ above.links) ∨
      ∃ above, link.ancestor = some above ∧ other ∈ above.links := by
  obtain ⟨compound, parent, ancestor, priority, source⟩ := link
  cases parent <;> cases ancestor <;> simp [links, Link.parent, Link.ancestor]

/-- All links but the first are reached through the parent or the ancestor. -/
theorem Link.mem_tail_iff (link other : Link) : other ∈ link.links.tail ↔
    (∃ above, link.parent = some above ∧ other ∈ above.links) ∨
      ∃ above, link.ancestor = some above ∧ other ∈ above.links := by
  obtain ⟨compound, parent, ancestor, priority, source⟩ := link
  cases parent <;> cases ancestor <;> simp [links, Link.parent, Link.ancestor]

namespace Selector

variable (source : SourcePosition)

/-- The compounds above a node make one link at most. -/
theorem above_single (outer : List (Combinator × Compound)) :
    (above source outer).1 = none ∨ (above source outer).2 = none := by
  cases outer with
  | nil => exact .inl rfl
  | cons first rest =>
    obtain ⟨combinator, compound⟩ := first
    cases combinator with
    | parent => exact .inr rfl
    | ancestor => exact .inl rfl

/-- A link that the compounds above a node make, or that is reached from there, leads to
one link at most, has no priority and has the source of the selector.

Induction on the compounds: the first of them makes the link itself, and the links it
leads to are made by the others. -/
theorem above_links (outer : List (Combinator × Compound)) (first : Link)
    (made : (above source outer).1 = some first ∨ (above source outer).2 = some first) :
    ∀ link ∈ first.links,
      (link.parent = none ∨ link.ancestor = none) ∧ link.priority = 0 ∧ link.source = source := by
  induction outer generalizing first with
  | nil => rcases made with made | made <;> cases made
  | cons head rest inductionHypothesis =>
    obtain ⟨combinator, compound⟩ := head
    have same : first = .of compound (above source rest).1 (above source rest).2 0 source := by
      cases combinator with
      | parent =>
        rcases made with made | made
        · exact (Option.some.inj made).symm
        · cases made
      | ancestor =>
        rcases made with made | made
        · cases made
        · exact (Option.some.inj made).symm
    subst same
    intro link member
    rcases (Link.mem_links_iff _ _).mp member with
      rfl | ⟨next, leads, reached⟩ | ⟨next, leads, reached⟩
    · exact ⟨above_single source rest, rfl, rfl⟩
    · exact inductionHypothesis next (.inl leads) link reached
    · exact inductionHypothesis next (.inr leads) link reached

/-- The chain of a selector that a file declares is well formed for the file. -/
theorem chain_well_formed (selector : Selector) (file : String)
    (declared : selector.source.file = some file) : selector.chain.WellFormed file := by
  have upper : ∀ link ∈ selector.chain.links.tail,
      (link.parent = none ∨ link.ancestor = none) ∧ link.priority = 0 ∧
        link.source = selector.source := by
    intro link member
    rcases (Link.mem_tail_iff _ _).mp member with ⟨next, leads, reached⟩ | ⟨next, leads, reached⟩
    · exact above_links selector.source selector.outer next (.inl leads) link reached
    · exact above_links selector.source selector.outer next (.inr leads) link reached
  have whole : ∀ link ∈ selector.chain.links, link = selector.chain ∨
      link ∈ selector.chain.links.tail := by
    intro link member
    rcases (Link.mem_links_iff _ _).mp member with rfl | reached
    · exact .inl rfl
    · exact .inr ((Link.mem_tail_iff _ _).mpr reached)
  constructor
  · intro link member
    rcases whole link member with rfl | above
    · exact above_single selector.source selector.outer
    · exact (upper link above).1
  · exact fun link member => (upper link member).2.1
  · intro link member
    rcases whole link member with rfl | above
    · exact declared
    · rw [(upper link above).2.2, declared]

/-- The links that compounds above a node make are the compounds in their order, each
reached in the way of its combinator, without a priority and with the source.

Induction on the compounds. The path from a link whose own content does not matter begins
with the link of the first of them. -/
theorem above_path (outer : List (Combinator × Compound)) (link : Link)
    (parent : link.parent = (above source outer).1)
    (ancestor : link.ancestor = (above source outer).2) :
    link.path.map (fun step => (step.1, step.2.compound)) = outer ∧
      ∀ step ∈ link.path, step.2.priority = 0 ∧ step.2.source = source := by
  induction outer generalizing link with
  | nil =>
    obtain ⟨compound, _, _, priority, declared⟩ := link
    cases parent
    cases ancestor
    exact ⟨rfl, nofun⟩
  | cons head rest inductionHypothesis =>
    obtain ⟨combinator, next⟩ := head
    obtain ⟨compound, _, _, priority, declared⟩ := link
    obtain ⟨others, plain⟩ := inductionHypothesis
      (.of next (above source rest).1 (above source rest).2 0 source) rfl rfl
    cases combinator with
    | parent =>
      cases parent
      cases ancestor
      simp only [Link.path, List.append_nil, List.map_cons, others, List.forall_mem_cons]
      exact ⟨rfl, ⟨rfl, rfl⟩, plain⟩
    | ancestor =>
      cases parent
      cases ancestor
      simp only [Link.path, List.nil_append, List.map_cons, others, List.forall_mem_cons]
      exact ⟨rfl, ⟨rfl, rfl⟩, plain⟩

/-- The links above the subject are the compounds of the selector in their order. -/
theorem chain_path (selector : Selector) :
    selector.chain.path.map (fun step => (step.1, step.2.compound)) = selector.outer ∧
      ∀ step ∈ selector.chain.path, step.2.priority = 0 ∧ step.2.source = selector.source :=
  above_path selector.source selector.outer selector.chain rfl rfl

end Selector

end ThemeMotion
