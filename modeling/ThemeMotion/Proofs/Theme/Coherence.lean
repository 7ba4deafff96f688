import ThemeMotion.Proofs.Theme.Acceptance

/-!
# Coherence of drafts

A draft holds the scopes that are open, three slots for what has been begun in them and a
note that the root element is closed. An opening tag fills a slot before its scope is
pushed, an end empties one after its scope is popped, and where a slot is empty the draft
falls back without a word: to no target, to the standard timeline, to dropping what was
begun. `point_coherent` says that no run comes to a point where it would.

The scopes are compared with the one way in which elements nest, the slots with the
scopes, and the note with the marks that have been passed: these are balanced up to the
elements that are still open, so that the note can be told from them alone.
-/

namespace ThemeMotion

/-- The scopes that stand in each other, from the outermost to the innermost. -/
def Scope.nesting : List Scope := [.document, .animations, .trigger, .timeline, .apply, .property]

namespace Document

/-- Marks in which every tag has its end and every end its tag. -/
inductive Balanced : List Mark → Prop where
  | nil : Balanced []
  | element {place : Place} {tag : Markup.Tag} {content rest : List Mark}
      (inner : Balanced content) (others : Balanced rest) :
      Balanced (.opening place tag :: (content ++ .closing :: rest))

/-- The marks of one element of a name, from its tag to its end. -/
def IsElement (name : String) (marks : List Mark) : Prop :=
  ∃ place tag content, marks = .opening place tag :: (content ++ [.closing]) ∧
    tag.name = name ∧ Balanced content

/-- An element is balanced. -/
theorem IsElement.balanced {name : String} {marks : List Mark} (element : IsElement name marks) :
    Balanced marks := by
  obtain ⟨place, tag, content, rfl, -, inner⟩ := element
  exact .element inner .nil

/-- Balanced marks may follow each other. -/
theorem Balanced.append {first second : List Mark} (before : Balanced first)
    (after : Balanced second) : Balanced (first ++ second) := by
  induction before with
  | nil => exact after
  | element inner others _ inductionHypothesis =>
    rw [List.cons_append, List.append_assoc, List.cons_append]
    exact .element inner inductionHypothesis

/-- Repeated items are balanced where each of them is an element. -/
theorem Repeated.balanced {β : Type} {Item : List Mark → β → Prop} {name : String}
    (single : ∀ block item, Item block item → IsElement name block)
    {marks : List Mark} {items : List β} (repeated : Repeated Item marks items) :
    Balanced marks := by
  induction repeated with
  | nil => exact .nil
  | cons first others inductionHypothesis =>
    exact (single _ _ first).balanced.append inductionHypothesis

/-- A tag that opens an element makes one, with balanced content and an end. -/
theorem Opens.element {element : Scope} {tag : Markup.Tag} {attributes : List Markup.Attribute}
    {place : Place} {content : List Mark} (opens : Opens element tag attributes)
    (inner : Balanced content) :
    IsElement element.tag (.opening place tag :: (content ++ [.closing])) :=
  ⟨place, tag, content, rfl, opens.named, inner⟩

section Grammar

variable {file : String} {block : List Mark}

/-- A property of the grammar is an element. -/
theorem property_element {property : PropertyTarget} (element : IsProperty block property) :
    IsElement "property" block := by
  obtain ⟨opens, _⟩ := element
  exact opens.element .nil

/-- An application of the grammar is an element. -/
theorem apply_element {timeline : Timeline} {target : Target}
    (element : IsApply file timeline block target) : IsElement "apply" block := by
  obtain ⟨opens, _, holds⟩ := element
  exact opens.element (holds.balanced fun _ _ => property_element)

/-- A timeline of the grammar is an element. -/
theorem timeline_element {targets : List Target} (element : IsTimeline file block targets) :
    IsElement "timeline" block := by
  obtain ⟨opens, _, holds⟩ := element
  exact opens.element (holds.balanced fun _ _ => apply_element)

/-- A trigger of the grammar is an element. -/
theorem trigger_element {trigger : Trigger} (element : IsTrigger file block trigger) :
    IsElement "trigger" block := by
  obtain ⟨opens, _, holds⟩ := element
  exact opens.element (holds.balanced fun _ _ => timeline_element)

/-- A document of the grammar is an element. -/
theorem document_element {triggers : List Trigger} (document : IsDocument file block triggers) :
    IsElement "animations" block := by
  obtain ⟨opens, holds⟩ := document
  exact opens.element (holds.balanced fun _ _ => trigger_element)

end Grammar

namespace Phase

variable {context : Context} {phase next last : Phase} {marks : List Mark}

/-- A tag adds the scope of its element. -/
theorem begins_scopes {place : Place} {tag : Markup.Tag}
    (begins : Begins context place tag phase next) :
    ∃ element, next.draft.scopes = element :: phase.draft.scopes := by
  cases begins <;> exact ⟨_, rfl⟩

/-- An end takes the innermost scope away. -/
theorem close_scopes (closes : phase.close? = some next) :
    next.draft.scopes = phase.draft.scopes.tail := by
  cases phase <;> cases closes <;> rfl

/-- Balanced marks leave the scopes as they were.

Induction on the elements. What a tag adds is still innermost behind the content of its
element, and its end takes it away. -/
theorem balanced_scopes (balanced : Balanced marks) (passes : Passes context phase marks last) :
    last.draft.scopes = phase.draft.scopes := by
  induction balanced generalizing phase last with
  | nil =>
    rw [(passes_nil_iff _ _ _).mp passes]
  | element _ _ innerHypothesis othersHypothesis =>
    obtain ⟨begun, begins, within⟩ := (passes_opening_iff _ _ _ _ _ _).mp passes
    obtain ⟨filled, inside, behind⟩ := (passes_append_iff _ _ _ _ _).mp within
    obtain ⟨closed, closes, rest⟩ := (passes_closing_iff _ _ _ _).mp behind
    obtain ⟨element, added⟩ := begins_scopes begins
    calc last.draft.scopes
      _ = closed.draft.scopes := othersHypothesis rest
      _ = filled.draft.scopes.tail := close_scopes closes
      _ = begun.draft.scopes.tail := by rw [innerHypothesis inside]
      _ = phase.draft.scopes := by rw [added, List.tail_cons]

/-- Only the phase before a document admits the root tag. -/
theorem begins_root {place : Place} {tag : Markup.Tag}
    (begins : Begins context place tag phase next) (named : tag.name = "animations") :
    phase = .before ∧ next = .inAnimations [] := by
  cases begins with
  | animations _ => exact ⟨rfl, rfl⟩
  | trigger opens _ _ => exact absurd (named.symm.trans opens.named) (by decide)
  | timeline opens _ => exact absurd (named.symm.trans opens.named) (by decide)
  | apply opens _ => exact absurd (named.symm.trans opens.named) (by decide)
  | property opens _ => exact absurd (named.symm.trans opens.named) (by decide)

/-- Nothing leads back before a document. -/
theorem passes_before (passes : Passes context phase marks last) (start : last = .before) :
    marks = [] ∧ phase = .before := by
  induction passes with
  | done => exact ⟨rfl, start⟩
  | opening begins _ inductionHypothesis =>
    obtain ⟨-, rfl⟩ := inductionHypothesis start
    cases begins
  | @closing phase _ _ _ closes _ inductionHypothesis =>
    obtain ⟨-, rfl⟩ := inductionHypothesis start
    cases phase <;> cases closes

/-- Within the scope of `animations` alone a run stands in `animations`. -/
theorem eq_inAnimations (scopes : phase.draft.scopes = [.animations, .document]) :
    ∃ complete, phase = .inAnimations complete := by
  cases phase with
  | inAnimations complete => exact ⟨complete, rfl⟩
  | _ => cases scopes

/-- A passage through a whole root element begins with it and ends with it, behind the
document. -/
theorem passes_root {before block after : List Mark}
    (passes : Passes context .before (before ++ block ++ after) last)
    (element : IsElement "animations" block) :
    before = [] ∧ after = [] ∧ ∃ complete, last = .behind complete := by
  obtain ⟨place, tag, content, rfl, named, inner⟩ := element
  obtain ⟨middle, front, behind⟩ := (passes_append_iff _ _ _ _ _).mp passes
  obtain ⟨start, ahead, whole⟩ := (passes_append_iff _ _ _ _ _).mp front
  obtain ⟨begun, begins, within⟩ := (passes_opening_iff _ _ _ _ _ _).mp whole
  obtain ⟨filled, inside, ended⟩ := (passes_append_iff _ _ _ _ _).mp within
  obtain ⟨closed, closes, finished⟩ := (passes_closing_iff _ _ _ _).mp ended
  obtain rfl := (passes_nil_iff _ _ _).mp finished
  obtain ⟨rfl, rfl⟩ := begins_root begins named
  obtain ⟨complete, rfl⟩ := eq_inAnimations (balanced_scopes inner inside)
  cases closes
  obtain ⟨nothing, same⟩ := (passes_ended_iff _ _ _ _).mp behind
  exact ⟨(passes_before ahead rfl).1, nothing, complete, same.symm⟩

end Phase

/-- A draft agrees with itself and with the marks that have been passed. -/
structure Coherent (marks : List Mark) (draft : Draft) : Prop where
  filled : draft.scopes ≠ []
  /-- The open scopes, from the outermost inwards, are the first of those that nest. -/
  nested : draft.scopes.reverse <+: Scope.nesting
  trigger : draft.trigger.isSome ↔ .trigger ∈ draft.scopes
  timeline : draft.timeline.isSome ↔ .timeline ∈ draft.scopes
  target : draft.target.isSome ↔ .apply ∈ draft.scopes
  /-- The root is noted as closed, and nothing is open but the document, exactly when a
  whole `animations` element has been passed. -/
  rooted : draft.rootClosed = true ∧ draft.scopes = [.document] ↔
    ∃ block, block <:+: marks ∧ IsElement "animations" block
  /-- There is one such element, and nothing besides it. -/
  alone : ∀ block, block <:+: marks → IsElement "animations" block → block = marks

/-- What a draft holds open is there when it is needed, and is not lost. -/
structure Keeps (context : Context) (draft : Draft) : Prop where
  /-- Where a property fits, there is a target, and the property joins it. -/
  property : ∀ tag, draft.element tag.name = .ok .property → ∃ target,
    draft.target = some target ∧
      ∀ place opened, draft.openTag context place tag = .ok opened → ∃ attributes name,
        tag.attributes = .ok attributes ∧ value? attributes "name" = some name ∧
          opened.target = some { target with properties := target.properties ++
            [⟨name, value? attributes "from", value? attributes "to"⟩] }
  /-- Where an application fits, there is a timeline, and the target takes it. -/
  apply : ∀ tag, draft.element tag.name = .ok .apply → ∃ timeline,
    draft.timeline = some timeline ∧
      ∀ place opened, draft.openTag context place tag = .ok opened →
        ∃ selector origin, opened.target = some ⟨selector, origin, timeline, []⟩
  /-- The end of an application adds its target to the trigger. -/
  applyEnd : draft.scope = .apply → ∃ target trigger closed,
    draft.target = some target ∧ draft.trigger = some trigger ∧ draft.close = .ok closed ∧
      closed.target = none ∧
      closed.trigger = some { trigger with targets := trigger.targets ++ [target] }
  /-- The end of a trigger adds it to those that are complete. -/
  triggerEnd : draft.scope = .trigger → ∃ trigger closed,
    draft.trigger = some trigger ∧ draft.close = .ok closed ∧ closed.trigger = none ∧
      closed.triggers = draft.triggers ++ [trigger]

namespace Phase

variable {context : Context} {phase : Phase} {marks : List Mark}

/-- The draft of a phase agrees with the marks that lead there from the start. -/
theorem coherent (passes : Passes context .before marks phase) : Coherent marks phase.draft where
  filled := by
    cases phase <;> exact List.cons_ne_nil _ _
  nested := by
    cases phase <;> exact ⟨_, rfl⟩
  trigger := by
    cases phase <;> simp [draft, Draft.start]
  timeline := by
    cases phase <;> simp [draft, Draft.start]
  target := by
    cases phase <;> simp [draft, Draft.start]
  rooted := by
    constructor
    · rintro ⟨closed, -⟩
      cases phase with
      | behind complete =>
        have document := ((passes_exact context marks complete).mp passes).1
        exact ⟨marks, List.infix_rfl, document_element document⟩
      | _ => cases closed
    · rintro ⟨block, ⟨before, after, rfl⟩, element⟩
      obtain ⟨-, -, complete, rfl⟩ := passes_root passes element
      exact ⟨rfl, rfl⟩
  alone := by
    rintro block ⟨before, after, rfl⟩ element
    obtain ⟨rfl, rfl, -⟩ := passes_root passes element
    rw [List.nil_append, List.append_nil]

/-- In a phase what is open is there when it is needed. -/
theorem keeps (context : Context) (phase : Phase) : Keeps context phase.draft where
  property := by
    intro tag fits
    obtain ⟨inner, -⟩ := (element_exact phase tag.name .property).mp fits
    cases phase with
    | inApply complete trigger timeline target =>
      refine ⟨target, rfl, fun place opened taken => ?_⟩
      obtain ⟨_, begins, rfl⟩ := (open_tag_exact _ context place tag opened).mp taken
      cases begins with
      | property opens named => exact ⟨_, _, opens.written, named, rfl⟩
    | _ => cases inner
  apply := by
    intro tag fits
    obtain ⟨inner, -⟩ := (element_exact phase tag.name .apply).mp fits
    cases phase with
    | inTimeline complete trigger timeline =>
      refine ⟨timeline, rfl, fun place opened taken => ?_⟩
      obtain ⟨_, begins, rfl⟩ := (open_tag_exact _ context place tag opened).mp taken
      cases begins with
      | apply opens gives => exact ⟨_, _, rfl⟩
    | _ => cases inner
  applyEnd := by
    intro innermost
    cases phase with
    | inApply complete trigger timeline target =>
      exact ⟨target, trigger, _, rfl, rfl, (close_exact _ _).mpr ⟨_, rfl, rfl⟩, rfl, rfl⟩
    | _ => cases innermost
  triggerEnd := by
    intro innermost
    cases phase with
    | inTrigger complete trigger =>
      exact ⟨trigger, _, rfl, (close_exact _ _).mpr ⟨_, rfl, rfl⟩, rfl, rfl⟩
    | _ => cases innermost

end Phase

/-- The points of a run from the start, with the marks that have been passed: behind events
that have been taken, and within a tag that has been taken and may close itself. By
`readFrom_append` the reading of a document goes through them until it refuses an event. -/
inductive Point (context : Context) : List Mark → Draft → Prop where
  | behind {cursor last : Cursor} {taken : List Markup.Spanned} {draft : Draft}
      (reached : reach context cursor .start taken = .ok (last, draft)) :
      Point context (marks cursor taken) draft
  | within {cursor last : Cursor} {taken : List Markup.Spanned} {draft opened : Draft}
      {place : Place} {tag : Markup.Tag}
      (reached : reach context cursor .start taken = .ok (last, draft))
      (opens : draft.openTag context place tag = .ok opened) :
      Point context (marks cursor taken ++ [.opening place tag]) opened

variable {context : Context} {marks : List Mark} {draft : Draft}

/-- At every point a run stands in the phase to which the marks have led. -/
theorem Point.phase (point : Point context marks draft) :
    ∃ phase, Phase.Passes context .before marks phase ∧ phase.draft = draft := by
  cases point with
  | @behind cursor _ taken _ reached =>
    exact (Phase.reach_exact context cursor .before taken draft).mp ⟨_, reached⟩
  | @within cursor _ taken earlier opened place tag reached opens =>
    obtain ⟨phase, passes, rfl⟩ :=
      (Phase.reach_exact context cursor .before taken earlier).mp ⟨_, reached⟩
    obtain ⟨next, begins, rfl⟩ := (Phase.open_tag_exact phase context place tag draft).mp opens
    exact ⟨next, (Phase.passes_append_iff _ _ _ _ _).mpr ⟨phase, passes, .opening begins .done⟩,
      rfl⟩

/-- At every point of a run before its refusal the draft is coherent.

The open scopes are the first of those that nest, at least the document; each slot is filled
exactly within its scope; and the root is noted as closed exactly when the one `animations`
element has been passed. So a property always has a target and an application a timeline, and
neither a target nor a trigger is lost when it ends. -/
theorem point_coherent (point : Point context marks draft) :
    Coherent marks draft ∧ Keeps context draft := by
  obtain ⟨phase, passes, rfl⟩ := point.phase
  exact ⟨Phase.coherent passes, phase.keeps context⟩

/-- A document that ends within an application. -/
def openApplication : String :=
  "<animations><trigger id=\"fade\" sender=\"Button\" signal=\"clicked\">\n" ++
    "<timeline duration=\"100\"><apply/><apply to=\"Label\"><property name=\"opacity\"/>"

/-- Behind an application that closes itself and a property in another one, all five scopes
are open, the trigger has a target and the open target has the property. -/
theorem point_within_application : ∃ marks draft,
    Point ⟨"theme.xml", []⟩ marks draft ∧
      draft.scopes = [.apply, .timeline, .trigger, .animations, .document] ∧
      draft.trigger.map (·.targets.length) = some 1 ∧
      draft.target.map (·.properties) = some [⟨"opacity", none, none⟩] ∧
      Coherent marks draft ∧ Keeps ⟨"theme.xml", []⟩ draft := by
  have run : (reach ⟨"theme.xml", []⟩ (.ofSource openApplication) .start
      (Markup.events openApplication)).toOption.map
        (fun reached => (reached.2.scopes, reached.2.trigger.map (·.targets.length),
          reached.2.target.map (·.properties))) =
      some ([.apply, .timeline, .trigger, .animations, .document], some 1,
        some [⟨"opacity", none, none⟩]) := by decide +kernel
  cases reached : reach ⟨"theme.xml", []⟩ (.ofSource openApplication) .start
      (Markup.events openApplication) with
  | error refusal =>
    rw [reached] at run
    cases run
  | ok point =>
    rw [reached] at run
    obtain ⟨scopes, slots⟩ := Prod.mk.inj (Option.some.inj run)
    obtain ⟨trigger, target⟩ := Prod.mk.inj slots
    have here : Point ⟨"theme.xml", []⟩ _ point.2 := .behind reached
    exact ⟨_, _, here, scopes, trigger, target, point_coherent here⟩

end Document

end ThemeMotion
