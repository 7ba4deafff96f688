import ThemeMotion.Proofs.Theme.Attributes

/-!
# Phases of reading a document

A draft keeps its open scopes beside three slots for what has been begun. In a run the
slots never disagree with the scopes: each slot is filled exactly within its element. A
phase says where a run stands and carries only what a draft holds there, so drafts in
which slots and scopes disagree are the draft of no phase.

`open_tag_exact` and `close_exact` say what one mark can do in a phase, refusals
included; the phases that follow are phases again. `reach_exact` carries this over any
part of a run, and `read_from_exact` over a whole one: a document is accepted exactly when
its marks lead from the phase before it to the phase behind it.
-/

namespace ThemeMotion.Document

/-- What a run makes of events that are taken one after the other, each where it begins: the
cursor behind them and the draft, unless one of them is refused. -/
def reach (context : Context) (cursor : Cursor) (draft : Draft) :
    List Markup.Spanned → Except Malformed (Cursor × Draft)
  | [] => .ok (cursor, draft)
  | spanned :: rest =>
    let begun := cursor.advance spanned.start
    match draft.step context begun.place spanned.event with
    | .error fault => .error (malformed context begun.place fault)
    | .ok next => reach context (begun.advance spanned.stop) next rest

/-- The reading of a document reaches what a run makes of its first events, and reads the
others from there. A refusal on the way is its refusal. -/
theorem readFrom_append (context : Context) (cursor : Cursor) (draft : Draft)
    (taken rest : List Markup.Spanned) :
    readFrom context cursor draft (taken ++ rest) =
      reach context cursor draft taken >>= fun (last, reached) =>
        readFrom context last reached rest := by
  induction taken generalizing cursor draft with
  | nil => rfl
  | cons spanned later inductionHypothesis =>
    simp only [List.cons_append, readFrom, reach]
    cases draft.step context (cursor.advance spanned.start).place spanned.event with
    | error fault => rfl
    | ok next => exact inductionHypothesis _ next

/-- Where the reading of a document stands, and what it holds there. -/
inductive Phase where
  | before
  | inAnimations (complete : List Trigger)
  | inTrigger (complete : List Trigger) (trigger : Trigger)
  | inTimeline (complete : List Trigger) (trigger : Trigger) (timeline : Timeline)
  | inApply (complete : List Trigger) (trigger : Trigger) (timeline : Timeline)
      (target : Target)
  | inProperty (complete : List Trigger) (trigger : Trigger) (timeline : Timeline)
      (target : Target)
  | behind (complete : List Trigger)

namespace Phase

/-- The draft of a phase: as many scopes as elements are open, and the slots of those
elements filled. -/
def draft : Phase → Draft
  | before => .start
  | inAnimations complete => ⟨[.animations, .document], false, none, none, none, complete⟩
  | inTrigger complete trigger =>
    ⟨[.trigger, .animations, .document], false, some trigger, none, none, complete⟩
  | inTimeline complete trigger timeline =>
    ⟨[.timeline, .trigger, .animations, .document], false, some trigger, some timeline, none,
      complete⟩
  | inApply complete trigger timeline target =>
    ⟨[.apply, .timeline, .trigger, .animations, .document], false, some trigger, some timeline,
      some target, complete⟩
  | inProperty complete trigger timeline target =>
    ⟨[.property, .apply, .timeline, .trigger, .animations, .document], false, some trigger,
      some timeline, some target, complete⟩
  | behind complete => ⟨[.document], true, none, none, none, complete⟩

/-- The one element that may begin in a phase. -/
def inner? : Phase → Option Scope
  | before => some .animations
  | inAnimations _ => some .trigger
  | inTrigger _ _ => some .timeline
  | inTimeline _ _ _ => some .apply
  | inApply _ _ _ _ => some .property
  | inProperty _ _ _ _ => none
  | behind _ => none

/-- A tag at a place leads from a phase into the element that it opens. The id of a
trigger must be new to the document and to what was declared before. -/
inductive Begins (context : Context) (place : Place) (tag : Markup.Tag) :
    Phase → Phase → Prop where
  | animations (opens : Opens .animations tag []) :
      Begins context place tag before (inAnimations [])
  | trigger {attributes : List Markup.Attribute} {complete : List Trigger} {id : String}
      {sender : Selector} {signal : String}
      (opens : Opens .trigger tag attributes)
      (gives : GivesTrigger context.file place attributes id sender signal)
      (fresh : id ∉ (complete ++ context.committed).map (·.id)) :
      Begins context place tag (inAnimations complete)
        (inTrigger complete ⟨id, sender, signal, [], context.file⟩)
  | timeline {attributes : List Markup.Attribute} {complete : List Trigger} {trigger : Trigger}
      {timeline : Timeline}
      (opens : Opens .timeline tag attributes)
      (gives : GivesTimeline attributes timeline) :
      Begins context place tag (inTrigger complete trigger) (inTimeline complete trigger timeline)
  | apply {attributes : List Markup.Attribute} {complete : List Trigger} {trigger : Trigger}
      {timeline : Timeline} {selector : Option Selector} {origin : Origin}
      (opens : Opens .apply tag attributes)
      (gives : GivesTarget context.file place attributes selector origin) :
      Begins context place tag (inTimeline complete trigger timeline)
        (inApply complete trigger timeline ⟨selector, origin, timeline, []⟩)
  | property {attributes : List Markup.Attribute} {complete : List Trigger} {trigger : Trigger}
      {timeline : Timeline} {target : Target} {name : String}
      (opens : Opens .property tag attributes)
      (named : value? attributes "name" = some name) :
      Begins context place tag (inApply complete trigger timeline target)
        (inProperty complete trigger timeline
          { target with properties := target.properties ++
            [⟨name, value? attributes "from", value? attributes "to"⟩] })

/-- The end of the innermost element leads out of it; what was begun in it joins what
stands around it. -/
def close? : Phase → Option Phase
  | before => none
  | inAnimations complete => some (behind complete)
  | inTrigger complete trigger => some (inAnimations (complete ++ [trigger]))
  | inTimeline complete trigger _ => some (inTrigger complete trigger)
  | inApply complete trigger timeline target =>
    some (inTimeline complete { trigger with targets := trigger.targets ++ [target] } timeline)
  | inProperty complete trigger timeline target =>
    some (inApply complete trigger timeline target)
  | behind _ => none

/-- In a phase a tag fits exactly when it names the element that may begin there. -/
theorem element_exact (phase : Phase) (name : String) (element : Scope) :
    phase.draft.element name = .ok element ↔ phase.inner? = some element ∧ name = element.tag := by
  constructor
  · intro fits
    unfold Draft.element at fits
    cases phase <;> split at fits
    all_goals simp_all [draft, Draft.start, Draft.scope, inner?]
    all_goals (subst fits; rfl)
  · rintro ⟨inner, rfl⟩
    cases phase <;> cases inner <;> rfl

/-- A tag is taken exactly when its element fits, its attributes can be read, and the
element takes all of them. -/
theorem open_tag_iff (draft next : Draft) (context : Context) (place : Place) (tag : Markup.Tag) :
    draft.openTag context place tag = .ok next ↔
      ∃ element attributes opened, draft.element tag.name = .ok element ∧
        tag.attributes = .ok attributes ∧
        draft.openElement context place element attributes = .ok (opened, []) ∧
        next = { opened with scopes := element :: opened.scopes } := by
  unfold Draft.openTag Draft.attributes
  simp only [then_ok_iff, reworded_ok_iff]
  constructor
  · rintro ⟨element, fits, attributes, written, ⟨opened, left⟩, taken, finished⟩
    cases left with
    | nil =>
      cases finished
      exact ⟨element, attributes, opened, fits, written, taken, rfl⟩
    | cons unknown others => cases finished
  · rintro ⟨element, attributes, opened, fits, written, taken, rfl⟩
    exact ⟨element, fits, attributes, written, (opened, []), taken, rfl⟩

/-- Within `animations` an id is undeclared exactly when no complete trigger and none
that was declared before has it. -/
theorem declares_iff (complete : List Trigger) (context : Context) (id : String) :
    (inAnimations complete).draft.declares context id = false ↔
      id ∉ (complete ++ context.committed).map (·.id) := by
  simp only [draft, Draft.declares, Bool.or_eq_false_iff, List.any_eq_false, beq_iff_eq,
    List.map_append, List.mem_append, List.mem_map, not_or, not_exists, not_and]

/-- A tag is taken in a phase exactly when it leads into the element that it opens.

Each phase admits one element, whose attributes the preceding theorems describe. The
draft that they leave, with the element as its innermost scope, is again the draft of a
phase. -/
theorem open_tag_exact (phase : Phase) (context : Context) (place : Place) (tag : Markup.Tag)
    (next : Draft) :
    phase.draft.openTag context place tag = .ok next ↔
      ∃ following, Begins context place tag phase following ∧ following.draft = next := by
  rw [open_tag_iff]
  simp only [element_exact]
  constructor
  · rintro ⟨element, attributes, opened, ⟨inner, named⟩, written, taken, rfl⟩
    cases phase with
    | before =>
      cases inner
      cases taken
      have proper : Proper .animations [] := ⟨List.nodup_nil, nofun, nofun, nofun⟩
      exact ⟨inAnimations [], .animations ⟨named, written, proper⟩, rfl⟩
    | inAnimations complete =>
      cases inner
      obtain ⟨proper, id, sender, signal, gives, undeclared, rfl⟩ :=
        (open_trigger_exact _ _ _ _ _).mp taken
      have fresh := (declares_iff complete context id).mp undeclared
      exact ⟨_, .trigger ⟨named, written, proper⟩ gives fresh, rfl⟩
    | inTrigger complete trigger =>
      cases inner
      obtain ⟨proper, timeline, gives, rfl⟩ := (open_timeline_exact _ _ _).mp taken
      exact ⟨_, .timeline ⟨named, written, proper⟩ gives, rfl⟩
    | inTimeline complete trigger timeline =>
      cases inner
      obtain ⟨proper, selector, origin, gives, rfl⟩ := (open_apply_exact _ _ _ _ _).mp taken
      exact ⟨_, .apply ⟨named, written, proper⟩ gives, rfl⟩
    | inApply complete trigger timeline target =>
      cases inner
      obtain ⟨proper, name, given, rfl⟩ := (open_property_exact _ _ _).mp taken
      exact ⟨_, .property ⟨named, written, proper⟩ given, rfl⟩
    | inProperty => cases inner
    | behind => cases inner
  · rintro ⟨following, begins, rfl⟩
    cases begins with
    | animations opens =>
      exact ⟨.animations, [], _, ⟨rfl, opens.named⟩, opens.written, rfl, rfl⟩
    | trigger opens gives fresh =>
      have undeclared := (declares_iff _ context _).mpr fresh
      exact ⟨.trigger, _, _, ⟨rfl, opens.named⟩, opens.written,
        (open_trigger_exact _ _ _ _ _).mpr ⟨opens.proper, _, _, _, gives, undeclared, rfl⟩, rfl⟩
    | timeline opens gives =>
      exact ⟨.timeline, _, _, ⟨rfl, opens.named⟩, opens.written,
        (open_timeline_exact _ _ _).mpr ⟨opens.proper, _, gives, rfl⟩, rfl⟩
    | apply opens gives =>
      exact ⟨.apply, _, _, ⟨rfl, opens.named⟩, opens.written,
        (open_apply_exact _ _ _ _ _).mpr ⟨opens.proper, _, _, gives, rfl⟩, rfl⟩
    | property opens given =>
      exact ⟨.property, _, _, ⟨rfl, opens.named⟩, opens.written,
        (open_property_exact _ _ _).mpr ⟨opens.proper, _, given, rfl⟩, rfl⟩

/-- The end of an element is taken in a phase exactly when an element is open. -/
theorem close_exact (phase : Phase) (next : Draft) :
    phase.draft.close = .ok next ↔
      ∃ following, phase.close? = some following ∧ following.draft = next := by
  cases phase <;>
    simp [Draft.close, draft, Draft.start, Draft.scope, close?, Draft.closeTrigger,
      Draft.closeApply]

/-- A document may end in a phase exactly when its one element has been closed. -/
theorem finish_exact (phase : Phase) (triggers : List Trigger) :
    phase.draft.finish = .ok triggers ↔ phase = .behind triggers := by
  cases phase <;> simp [Draft.finish, draft, Draft.start]

/-- A row of marks leads from one phase to another. -/
inductive Passes (context : Context) : Phase → List Mark → Phase → Prop where
  | done {phase : Phase} : Passes context phase [] phase
  | opening {place : Place} {tag : Markup.Tag} {phase next last : Phase} {rest : List Mark}
      (begins : Begins context place tag phase next) (others : Passes context next rest last) :
      Passes context phase (.opening place tag :: rest) last
  | closing {phase next last : Phase} {rest : List Mark}
      (closes : phase.close? = some next) (others : Passes context next rest last) :
      Passes context phase (.closing :: rest) last

section Rows

variable (context : Context) (phase last : Phase)

/-- No marks lead nowhere else. -/
theorem passes_nil_iff : Passes context phase [] last ↔ phase = last := by
  constructor
  · intro passes
    cases passes
    rfl
  · rintro rfl
    exact .done

/-- A tag leads into its element. -/
theorem passes_opening_iff (place : Place) (tag : Markup.Tag) (rest : List Mark) :
    Passes context phase (.opening place tag :: rest) last ↔
      ∃ next, Begins context place tag phase next ∧ Passes context next rest last := by
  constructor
  · intro passes
    cases passes with
    | opening begins others => exact ⟨_, begins, others⟩
  · rintro ⟨next, begins, others⟩
    exact .opening begins others

/-- An end leads out of the innermost element. -/
theorem passes_closing_iff (rest : List Mark) :
    Passes context phase (.closing :: rest) last ↔
      ∃ next, phase.close? = some next ∧ Passes context next rest last := by
  constructor
  · intro passes
    cases passes with
    | closing closes others => exact ⟨_, closes, others⟩
  · rintro ⟨next, closes, others⟩
    exact .closing closes others

/-- Nothing leads past a stray mark. -/
theorem not_passes_stray (rest : List Mark) : ¬ Passes context phase (.stray :: rest) last :=
  nofun

/-- Behind a document nothing leads on. -/
theorem passes_ended_iff (complete : List Trigger) (rest : List Mark) :
    Passes context (.behind complete) rest last ↔ rest = [] ∧ .behind complete = last := by
  constructor
  · intro passes
    cases passes with
    | done => exact ⟨rfl, rfl⟩
    | opening begins _ => cases begins
    | closing closes _ => cases closes
  · rintro ⟨rfl, rfl⟩
    exact .done

/-- Two rows lead from one phase to another through a phase between them. -/
theorem passes_append_iff (first second : List Mark) :
    Passes context phase (first ++ second) last ↔
      ∃ middle, Passes context phase first middle ∧ Passes context middle second last := by
  constructor
  · intro passes
    induction first generalizing phase with
    | nil => exact ⟨phase, .done, passes⟩
    | cons mark rest inductionHypothesis =>
      cases passes with
      | opening begins others =>
        obtain ⟨middle, before, after⟩ := inductionHypothesis _ others
        exact ⟨middle, .opening begins before, after⟩
      | closing closes others =>
        obtain ⟨middle, before, after⟩ := inductionHypothesis _ others
        exact ⟨middle, .closing closes before, after⟩
  · rintro ⟨middle, before, after⟩
    induction before with
    | done => exact after
    | opening begins others inductionHypothesis => exact .opening begins (inductionHypothesis after)
    | closing closes others inductionHypothesis => exact .closing closes (inductionHypothesis after)

end Rows

/-- An event is taken in a phase exactly when its marks lead on. -/
theorem step_exact (phase : Phase) (context : Context) (place : Place) (event : Markup.Event)
    (next : Draft) :
    phase.draft.step context place event = .ok next ↔
      ∃ following, Passes context phase (Mark.ofEvent place event) following ∧
        following.draft = next := by
  cases event with
  | opening tag =>
    simp only [Draft.step, open_tag_exact, Mark.ofEvent, passes_opening_iff, passes_nil_iff,
      exists_eq_right]
  | empty tag =>
    simp only [Draft.step, then_ok_iff, open_tag_exact, Mark.ofEvent, passes_opening_iff,
      passes_closing_iff, passes_nil_iff, exists_eq_right]
    constructor
    · rintro ⟨_, ⟨within, begins, rfl⟩, closed⟩
      obtain ⟨following, closes, rfl⟩ := (close_exact within next).mp closed
      exact ⟨following, ⟨within, begins, closes⟩, rfl⟩
    · rintro ⟨following, ⟨within, begins, closes⟩, rfl⟩
      exact ⟨within.draft, ⟨within, begins, rfl⟩,
        (close_exact within following.draft).mpr ⟨following, closes, rfl⟩⟩
  | closing =>
    simp only [Draft.step, close_exact, Mark.ofEvent, passes_closing_iff, passes_nil_iff,
      exists_eq_right]
  | text content =>
    by_cases blank : content.all Text.isAsciiBlank
    · simp [Draft.step, Mark.ofEvent, blank, passes_nil_iff]
    · simp [Draft.step, Mark.ofEvent, blank, not_passes_stray]
  | aside => simp [Draft.step, Mark.ofEvent, passes_nil_iff]
  | fault fault => simp [Draft.step, Mark.ofEvent, not_passes_stray]
  | finish => simp [Draft.step, Mark.ofEvent, passes_nil_iff]

/-- From a phase a run reaches exactly the drafts of the phases to which its marks lead.

Induction on the events. An event is taken exactly when its marks lead to a phase, and
the other events are taken from there. -/
theorem reach_exact (context : Context) (cursor : Cursor) (phase : Phase)
    (taken : List Markup.Spanned) (draft : Draft) :
    (∃ last, reach context cursor phase.draft taken = .ok (last, draft)) ↔
      ∃ following, Passes context phase (marks cursor taken) following ∧
        following.draft = draft := by
  induction taken generalizing cursor phase with
  | nil => simp [reach, marks, passes_nil_iff]
  | cons spanned rest inductionHypothesis =>
    simp only [marks, passes_append_iff, reach]
    have step := step_exact phase context (cursor.advance spanned.start).place spanned.event
    cases made : phase.draft.step context (cursor.advance spanned.start).place spanned.event with
    | error fault =>
      constructor
      · rintro ⟨last, reached⟩
        cases reached
      · rintro ⟨following, ⟨middle, passes, _⟩, _⟩
        have accepted := (step middle.draft).mpr ⟨middle, passes, rfl⟩
        rw [made] at accepted
        cases accepted
    | ok next =>
      constructor
      · intro reached
        obtain ⟨middle, passes, rfl⟩ := (step next).mp made
        obtain ⟨following, others, same⟩ := (inductionHypothesis _ middle).mp reached
        exact ⟨following, ⟨middle, passes, others⟩, same⟩
      · rintro ⟨following, ⟨middle, passes, others⟩, same⟩
        have accepted := (step middle.draft).mpr ⟨middle, passes, rfl⟩
        rw [made] at accepted
        cases accepted
        exact (inductionHypothesis _ middle).mpr ⟨following, others, same⟩

/-- A document is accepted from a phase on exactly when the marks that are left lead
behind the document; the triggers are those that are complete there. -/
theorem read_from_exact (context : Context) (cursor : Cursor) (phase : Phase)
    (events : List Markup.Spanned) (triggers : List Trigger) :
    readFrom context cursor phase.draft events = .ok triggers ↔
      Passes context phase (marks cursor events) (.behind triggers) := by
  rw [← List.append_nil events, readFrom_append, then_ok_iff, List.append_nil]
  simp only [readFrom, reworded_ok_iff]
  constructor
  · rintro ⟨⟨last, draft⟩, reached, finished⟩
    obtain ⟨following, passes, rfl⟩ :=
      (reach_exact context cursor phase events draft).mp ⟨last, reached⟩
    rwa [(finish_exact following triggers).mp finished] at passes
  · intro passes
    obtain ⟨last, reached⟩ :=
      (reach_exact context cursor phase events _).mpr ⟨_, passes, rfl⟩
    exact ⟨(last, _), reached, (finish_exact _ triggers).mpr rfl⟩

end Phase

end ThemeMotion.Document
