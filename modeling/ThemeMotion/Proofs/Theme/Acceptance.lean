import Mathlib.Data.List.Basic
import ThemeMotion.Proofs.Theme.Phase

/-!
# Which documents are accepted

The reading of a document meets the elements of one kind one after the other until the
element around them ends. `content_iff` says so once for every kind of element: whatever
describes the reading inside an element and is either at its end or behind one more item
of it describes a repetition of items. `passes_content_iff` is the case of a phase for every
number of items. Properties, applications, timelines and triggers follow from the inside out.

The last section relates the reader to the grammar, for events and declared triggers of
any kind and then for whole texts. Nothing is said about which fault a document has that
is not accepted.
-/

namespace ThemeMotion.Document

/-- The triggers of a document can be told apart by their ids, and none of them has the
id of a trigger that was declared before. -/
structure Distinct (context : Context) (triggers : List Trigger) : Prop where
  apart : (triggers.map (·.id)).Nodup
  fresh : ∀ trigger ∈ triggers, trigger.id ∉ context.committed.map (·.id)

/-- No triggers are distinct. -/
theorem distinct_nil (context : Context) : Distinct context [] := ⟨List.nodup_nil, nofun⟩

/-- One more trigger is distinct exactly when its id is new. -/
theorem distinct_concat_iff (context : Context) (complete : List Trigger) (trigger : Trigger) :
    Distinct context (complete ++ [trigger]) ↔
      Distinct context complete ∧ trigger.id ∉ (complete ++ context.committed).map (·.id) := by
  constructor
  · rintro ⟨apart, fresh⟩
    rw [List.map_append, List.nodup_append] at apart
    obtain ⟨earlier, _, separate⟩ := apart
    refine ⟨⟨earlier, fun other member => fresh other (List.mem_append_left _ member)⟩, ?_⟩
    rw [List.map_append, List.mem_append]
    rintro (declared | declared)
    · exact separate _ declared _ (List.mem_singleton_self _) rfl
    · exact fresh trigger (List.mem_append_right _ (List.mem_singleton_self _)) declared
  · rintro ⟨⟨apart, fresh⟩, undeclared⟩
    rw [List.map_append, List.mem_append, not_or] at undeclared
    obtain ⟨newHere, newElsewhere⟩ := undeclared
    constructor
    · rw [List.map_append, List.nodup_append]
      refine ⟨apart, List.nodup_cons.mpr ⟨List.not_mem_nil, List.nodup_nil⟩, ?_⟩
      rintro id declared other member rfl
      rw [List.map_singleton, List.mem_singleton] at member
      exact newHere (member ▸ declared)
    · intro other member
      rcases List.mem_append.mp member with earlier | last
      · exact fresh other earlier
      · exact List.mem_singleton.mp last ▸ newElsewhere

/-- A description of the rest of a document inside an element, given the items that have
been read there, which is either at the end of the element or behind one more item: it
describes items, the end of the element, and then what follows it.

From left to right the marks get fewer with every item, since no item is without marks.
From right to left the items are read one by one. -/
theorem content_iff {β : Type} (Item : List Mark → β → Prop)
    (inside after : List β → List Mark → Prop)
    (nonempty : ∀ block item, Item block item → block ≠ [])
    (stepwise : ∀ before marks, inside before marks ↔
      (∃ rest, marks = .closing :: rest ∧ after before rest) ∨
        ∃ block item rest, marks = block ++ rest ∧ Item block item ∧
          inside (before ++ [item]) rest)
    (before : List β) (marks : List Mark) :
    inside before marks ↔ ∃ content items rest, marks = content ++ .closing :: rest ∧
      Repeated Item content items ∧ after (before ++ items) rest := by
  constructor
  · intro reading
    induction size : marks.length using Nat.strongRecOn generalizing before marks with
    | ind length inductionHypothesis =>
      rcases (stepwise before marks).mp reading with
        ⟨rest, rfl, behind⟩ | ⟨block, item, rest, rfl, first, others⟩
      · exact ⟨[], [], rest, rfl, .nil, (List.append_nil before).symm ▸ behind⟩
      · have shorter : rest.length < length := by
          have filled := List.length_pos_iff.mpr (nonempty block item first)
          rw [List.length_append] at size
          omega
        obtain ⟨content, items, last, rfl, repeated, behind⟩ :=
          inductionHypothesis rest.length shorter (before ++ [item]) rest others rfl
        refine ⟨block ++ content, item :: items, last, ?_, .cons first repeated, ?_⟩
        · rw [List.append_assoc]
        · rwa [List.append_assoc] at behind
  · rintro ⟨content, items, rest, rfl, repeated, behind⟩
    induction repeated generalizing before with
    | nil =>
      rw [List.append_nil] at behind
      exact (stepwise before _).mpr (.inl ⟨rest, rfl, behind⟩)
    | @cons block item content items first others inductionHypothesis =>
      have following : inside (before ++ [item]) (content ++ .closing :: rest) :=
        inductionHypothesis (before ++ [item]) (by rwa [List.append_assoc])
      exact (stepwise before _).mpr
        (.inr ⟨block, item, _, List.append_assoc .., first, following⟩)

namespace Phase

section Levels

variable (context : Context) (complete triggers : List Trigger)

/-- Before the end of a document marks lead on from a phase by the end of its element or
by a tag. -/
theorem passes_behind_iff (phase : Phase) (marks : List Mark)
    (unfinished : phase ≠ .behind triggers) :
    Passes context phase marks (.behind triggers) ↔
      (∃ rest, marks = .closing :: rest ∧ ∃ outer, phase.close? = some outer ∧
        Passes context outer rest (.behind triggers)) ∨
      ∃ place tag rest, marks = .opening place tag :: rest ∧
        ∃ next, Begins context place tag phase next ∧
          Passes context next rest (.behind triggers) := by
  constructor
  · intro passes
    cases passes with
    | done => exact absurd rfl unfinished
    | opening begins others => exact .inr ⟨_, _, _, rfl, _, begins, others⟩
    | closing closes others => exact .inl ⟨_, rfl, _, closes, others⟩
  · rintro (⟨rest, rfl, outer, closes, others⟩ | ⟨place, tag, rest, rfl, next, begins, others⟩)
    · exact .closing closes others
    · exact .opening begins others

/-- Inside an element whose phases tell the items that have been read stand items, and then
its end. What is left to be said of each kind of element is that a tag begins a whole item. -/
theorem passes_content_iff {β : Type} (Item : List Mark → β → Prop) (inside after : List β → Phase)
    (nonempty : ∀ block item, Item block item → block ≠ [])
    (unfinished : ∀ before, inside before ≠ .behind triggers)
    (closes : ∀ before, (inside before).close? = some (after before))
    (begins : ∀ before marks,
      (∃ place tag rest, marks = .opening place tag :: rest ∧
        ∃ next, Begins context place tag (inside before) next ∧
          Passes context next rest (.behind triggers)) ↔
      ∃ block item rest, marks = block ++ rest ∧ Item block item ∧
        Passes context (inside (before ++ [item])) rest (.behind triggers))
    (before : List β) (marks : List Mark) :
    Passes context (inside before) marks (.behind triggers) ↔
      ∃ content items rest, marks = content ++ .closing :: rest ∧
        Repeated Item content items ∧
          Passes context (after (before ++ items)) rest (.behind triggers) := by
  apply content_iff Item
    (fun before marks => Passes context (inside before) marks (.behind triggers))
    (fun before rest => Passes context (after before) rest (.behind triggers)) nonempty
  intro before marks
  rw [passes_behind_iff context triggers (inside before) marks (unfinished before),
    begins before marks]
  simp only [closes, Option.some.injEq, exists_eq_left']

/-- Inside an application stand properties. -/
theorem passes_apply_iff (trigger : Trigger) (timeline own : Timeline)
    (selector : Option Selector) (origin : Origin) (before : List PropertyTarget)
    (marks : List Mark) :
    Passes context (.inApply complete trigger timeline ⟨selector, origin, own, before⟩) marks
        (.behind triggers) ↔
      ∃ content properties rest, marks = content ++ .closing :: rest ∧
        Repeated IsProperty content properties ∧
          Passes context
            (.inTimeline complete
              { trigger with
                targets := trigger.targets ++ [⟨selector, origin, own, before ++ properties⟩] }
              timeline) rest (.behind triggers) := by
  refine passes_content_iff context triggers IsProperty
    (fun properties => .inApply complete trigger timeline ⟨selector, origin, own, properties⟩)
    (fun properties => .inTimeline complete
      { trigger with targets := trigger.targets ++ [⟨selector, origin, own, properties⟩] } timeline)
    ?_ nofun (fun _ => rfl) ?_ before marks
  · rintro block item ⟨⟩
    exact List.cons_ne_nil _ _
  · intro properties marks
    constructor
    · rintro ⟨place, tag, rest, rfl, next, begins, others⟩
      cases begins with
      | property opens named =>
        cases others with
        | opening begins _ => cases begins
        | closing closes others =>
          cases closes
          exact ⟨_, _, _, rfl, .element opens named, others⟩
    · rintro ⟨block, item, rest, rfl, ⟨opens, named⟩, others⟩
      exact ⟨_, _, _, rfl, _, .property opens named, .closing rfl others⟩

/-- Inside a timeline stand applications. -/
theorem passes_timeline_iff (trigger : Trigger) (timeline : Timeline) (before : List Target)
    (marks : List Mark) :
    Passes context
        (.inTimeline complete { trigger with targets := trigger.targets ++ before } timeline) marks
        (.behind triggers) ↔
      ∃ content targets rest, marks = content ++ .closing :: rest ∧
        Repeated (IsApply context.file timeline) content targets ∧
          Passes context
            (.inTrigger complete { trigger with targets := trigger.targets ++ (before ++ targets) })
            rest (.behind triggers) := by
  refine passes_content_iff context triggers (IsApply context.file timeline)
    (fun targets =>
      .inTimeline complete { trigger with targets := trigger.targets ++ targets } timeline)
    (fun targets => .inTrigger complete { trigger with targets := trigger.targets ++ targets })
    ?_ nofun (fun _ => rfl) ?_ before marks
  · rintro block item ⟨⟩
    exact List.cons_ne_nil _ _
  · intro targets marks
    constructor
    · rintro ⟨place, tag, rest, rfl, next, begins, others⟩
      cases begins with
      | apply opens gives =>
        obtain ⟨content, properties, last, rfl, holds, others⟩ :=
          (passes_apply_iff _ _ _ _ _ _ _ _ _ _).mp others
        rw [List.append_assoc, List.nil_append] at others
        exact ⟨_, _, _, by simp, .element opens gives holds, others⟩
    · rintro ⟨block, item, rest, rfl, ⟨opens, gives, holds⟩, others⟩
      rw [← List.append_assoc] at others
      refine ⟨_, _, _, rfl, _, .apply opens gives, ?_⟩
      exact (passes_apply_iff _ _ _ _ _ _ _ _ _ _).mpr ⟨_, _, rest, by simp, holds, others⟩

/-- Inside a trigger stand timelines; the targets of one follow those of another. -/
theorem passes_trigger_iff (trigger : Trigger) (before : List (List Target)) (marks : List Mark) :
    Passes context (.inTrigger complete { trigger with targets := before.flatten }) marks
        (.behind triggers) ↔
      ∃ content targets rest, marks = content ++ .closing :: rest ∧
        Repeated (IsTimeline context.file) content targets ∧
          Passes context
            (.inAnimations
              (complete ++ [{ trigger with targets := (before ++ targets).flatten }])) rest
            (.behind triggers) := by
  refine passes_content_iff context triggers (IsTimeline context.file)
    (fun targets => .inTrigger complete { trigger with targets := targets.flatten })
    (fun targets => .inAnimations (complete ++ [{ trigger with targets := targets.flatten }]))
    ?_ nofun (fun _ => rfl) ?_ before marks
  · rintro block item ⟨⟩
    exact List.cons_ne_nil _ _
  · intro targets marks
    have timelines (timeline : Timeline) (rest : List Mark) :=
      passes_timeline_iff context complete triggers
        { trigger with targets := targets.flatten } timeline [] rest
    simp only [List.append_nil, List.nil_append] at timelines
    constructor
    · rintro ⟨place, tag, rest, rfl, next, begins, others⟩
      cases begins with
      | timeline opens gives =>
        obtain ⟨content, applied, last, rfl, holds, others⟩ := (timelines _ _).mp others
        exact ⟨.opening place tag :: (content ++ [.closing]), applied, last, by simp,
          .element opens gives holds, by simpa using others⟩
    · rintro ⟨block, item, rest, rfl, ⟨opens, gives, holds⟩, others⟩
      refine ⟨_, _, _, rfl, _, .timeline opens gives, ?_⟩
      exact (timelines _ _).mpr ⟨_, item, rest, by simp, holds, by simpa using others⟩

/-- Inside `animations` stand triggers, each with an id that is new; nothing follows.

That the ids are new is carried along with the triggers that are complete. -/
theorem passes_animations_iff (before : List Trigger) (marks : List Mark) :
    (Distinct context before ∧ Passes context (.inAnimations before) marks (.behind triggers)) ↔
      ∃ content declared rest, marks = content ++ .closing :: rest ∧
        Repeated (IsTrigger context.file) content declared ∧
          Distinct context (before ++ declared) ∧ rest = [] ∧ before ++ declared = triggers := by
  refine content_iff (IsTrigger context.file)
    (fun declared marks => Distinct context declared ∧
      Passes context (.inAnimations declared) marks (.behind triggers))
    (fun declared rest => Distinct context declared ∧ rest = [] ∧ declared = triggers)
    ?_ ?_ before marks
  · rintro block item ⟨⟩
    exact List.cons_ne_nil _ _
  · intro declared marks
    have ended (rest : List Mark) :
        Passes context (.behind declared) rest (.behind triggers) ↔
          rest = [] ∧ declared = triggers := by
      rw [passes_ended_iff, Phase.behind.injEq]
    have begun (trigger : Trigger) (rest : List Mark) :=
      passes_trigger_iff context declared triggers { trigger with targets := [] } [] rest
    simp only [List.flatten_nil, List.nil_append] at begun
    rw [passes_behind_iff _ _ _ _ (by nofun)]
    constructor
    · rintro ⟨distinct,
        ⟨rest, rfl, outer, closes, others⟩ | ⟨place, tag, rest, rfl, next, begins, others⟩⟩
      · cases closes
        exact .inl ⟨rest, rfl, distinct, (ended rest).mp others⟩
      · cases begins with
        | @trigger _ _ id sender signal opens gives fresh =>
          obtain ⟨content, targets, last, rfl, holds, others⟩ :=
            (begun ⟨id, sender, signal, [], context.file⟩ rest).mp others
          have extended := (distinct_concat_iff context declared
            ⟨id, sender, signal, targets.flatten, context.file⟩).mpr ⟨distinct, fresh⟩
          exact .inr ⟨_, _, last, by simp, .element opens gives holds, extended, others⟩
    · rintro (⟨rest, rfl, distinct, behind⟩ | ⟨block, item, rest, rfl, first, extended, others⟩)
      · exact ⟨distinct, .inl ⟨rest, rfl, _, rfl, (ended rest).mpr behind⟩⟩
      · obtain ⟨distinct, fresh⟩ := (distinct_concat_iff context declared item).mp extended
        refine ⟨distinct, .inr ?_⟩
        cases first with
        | @element place tag _ id sender signal content targets opens gives holds =>
          refine ⟨place, tag, content ++ .closing :: rest, by simp, _,
            .trigger opens gives fresh, ?_⟩
          exact (begun ⟨id, sender, signal, [], context.file⟩ _).mpr
            ⟨content, targets, rest, rfl, holds, others⟩

end Levels

/-- Marks lead from before a document to behind it exactly when they are a document of
the grammar with triggers that are distinct. -/
theorem passes_exact (context : Context) (marks : List Mark) (triggers : List Trigger) :
    Passes context .before marks (.behind triggers) ↔
      IsDocument context.file marks triggers ∧ Distinct context triggers := by
  have content (rest : List Mark) := passes_animations_iff context triggers [] rest
  simp only [distinct_nil, true_and, List.nil_append] at content
  constructor
  · intro passes
    cases passes with
    | opening begins others =>
      cases begins with
      | animations opens =>
        obtain ⟨content, _, _, rfl, holds, distinct, rfl, rfl⟩ := (content _).mp others
        exact ⟨.element opens holds, distinct⟩
    | closing closes _ => cases closes
  · rintro ⟨⟨opens, holds⟩, distinct⟩
    exact .opening (.animations opens)
      ((content _).mpr ⟨_, triggers, [], rfl, holds, distinct, rfl, rfl⟩)

end Phase

/-- The reader accepts exactly the documents of its grammar whose triggers are distinct,
whatever the events are and whatever was declared before, and it gives the triggers that
the document declares.

In the run from the start the open slots always agree with the open scopes, so that a
run is a passage of phases. A passage of phases from before a document to behind it is a
document of the grammar, by the repetition of items at each of its levels. -/
theorem accepted_exact (context : Context) (cursor : Cursor) (events : List Markup.Spanned)
    (triggers : List Trigger) :
    readFrom context cursor .start events = .ok triggers ↔
      IsDocument context.file (marks cursor events) triggers ∧ Distinct context triggers := by
  have reading := Phase.read_from_exact context cursor .before events triggers
  rw [Phase.passes_exact] at reading
  exact reading

/-- The marks of a text. -/
def marksOf (source : String) : List Mark := marks (.ofSource source) (Markup.events source)

/-- A text is accepted exactly when its marks are a document of the grammar with distinct
triggers. -/
theorem read_exact (context : Context) (source : String) (triggers : List Trigger) :
    read context source = .ok triggers ↔
      IsDocument context.file (marksOf source) triggers ∧ Distinct context triggers := by
  have reading := Phase.read_from_exact context (.ofSource source) .before
    (Markup.events source) triggers
  rw [Phase.passes_exact] at reading
  exact reading

/-- Comments and blanks do not count, and a tag that closes itself is complete. -/
example : read ⟨"theme.xml", []⟩ "<!-- nothing yet -->\n<animations/>\n" = .ok [] := by
  decide +kernel

end ThemeMotion.Document
