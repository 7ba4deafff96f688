import Mathlib.Data.List.Forall2
import ThemeMotion.Proofs.Markup.Spans
import ThemeMotion.Proofs.Selector.Roundtrip
import ThemeMotion.Proofs.Theme.Acceptance
import ThemeMotion.Proofs.Theme.Tracking

/-!
# Places in theme documents

A refused document tells the place of its fault, and the selectors of an accepted one keep
the places of the tags that declare them. Both come from a cursor that is told bytes. Here
they are compared with what the text before an event says by itself: how many newlines it
has, and how many characters stand behind the last of them.

The cursor agrees with the text as long as the bytes of the events are counted from the
beginning of the document. A byte order mark is not counted, and the places behind it are
therefore not exact.
-/

namespace ThemeMotion

open Markup (Spanned Stands Laid)
open Text (byteLength)

namespace Document

/-- What events of a text make of a draft when each is taken at the place where it begins. -/
def takes (context : Context) (whole : List Char) (draft : Draft) (events : List Spanned) :
    Except DocumentFault Draft :=
  events.foldlM
    (fun draft spanned => draft.step context (.at whole spanned.start) spanned.event) draft

/-- The event that stands behind a part of a text is the first one that is refused, all those
before it being taken. The end of the text is refused when what has been taken is no
document. -/
def RefusedBehind (context : Context) (whole : List Char) (draft : Draft) (events : List Spanned)
    (before : List Char) (fault : DocumentFault) : Prop :=
  ∃ earlier spanned later reached, events = earlier ++ spanned :: later ∧
    Stands whole before (spanned :: later) ∧ takes context whole draft earlier = .ok reached ∧
    (reached.step context (.behind before) spanned.event = .error fault ∨
      spanned.event = .finish ∧ reached.finish = .error fault)

/-- A refused event stands behind a front part of the text. -/
theorem RefusedBehind.split {context : Context} {whole : List Char} {draft : Draft}
    {events : List Spanned} {before : List Char} {fault : DocumentFault}
    (refused : RefusedBehind context whole draft events before fault) :
    ∃ rest, whole = before ++ rest := by
  obtain ⟨_, _, _, _, _, stands, _⟩ := refused
  exact stands.split

/-- The place at the bytes of a front part of a text is the place behind it. -/
theorem at_behind {whole before rest : List Char} (here : whole = before ++ rest) :
    Place.at whole (byteLength before) = .behind before := by
  rw [Place.at, here, Text.within_append]

variable {context : Context} {whole before : List Char} {events : List Spanned}

/-- A refusal is placed behind the text before the event that is refused.

Induction on the events along the text. The cursor stands behind the text before each of
them, and advances behind what the event takes. -/
theorem readFrom_refused (laid : Laid whole before events) {cursor : Cursor}
    (stands : cursor.Behind whole before) {draft : Draft} {refusal : Malformed}
    (refused : readFrom context cursor draft events = .error refusal) :
    ∃ part, RefusedBehind context whole draft events part refusal.fault ∧
      refusal = malformed context (.behind part) refusal.fault := by
  induction laid generalizing cursor draft with
  | finish ends =>
    have last := stands.stay.stay.place
    simp only [readFrom, Draft.step, last] at refused
    cases finished : draft.finish with
    | ok triggers =>
      rw [finished] at refused
      cases refused
    | error fault =>
      rw [finished] at refused
      obtain rfl := Except.error.inj refused
      exact ⟨whole, ⟨[], _, [], draft, rfl, ends, rfl, .inr ⟨rfl, finished⟩⟩, rfl⟩
  | @fault before fault stop faulty =>
    have begun := stands.stay.place
    simp only [readFrom, Draft.step, begun] at refused
    obtain rfl := Except.error.inj refused
    exact ⟨before, ⟨[], _, [], draft, rfl, faulty, rfl, .inl rfl⟩, rfl⟩
  | @next before taken event later begins others inductionHypothesis =>
    obtain ⟨_, here⟩ := begins.split
    obtain ⟨_, further⟩ := others.stands.split
    have begun := stands.stay
    simp only [readFrom, begun.place] at refused
    cases step : draft.step context (.behind before) event with
    | error fault =>
      simp only [step] at refused
      obtain rfl := Except.error.inj refused
      exact ⟨before, ⟨[], _, later, draft, rfl, begins, rfl, .inl step⟩, rfl⟩
    | ok next =>
      simp only [step] at refused
      obtain ⟨part, ⟨earlier, spanned, last, reached, rfl, first, taking, fails⟩, same⟩ :=
        inductionHypothesis (begun.advance further) refused
      refine ⟨part, ⟨_ :: earlier, spanned, last, reached, rfl, first, ?_, fails⟩, same⟩
      rw [takes, List.foldlM_cons, at_behind here, step]
      exact taking

/-- The marks of events laid along a text have the places at which the events begin. -/
theorem marks_laid (laid : Laid whole before events) {cursor : Cursor}
    (stands : cursor.Behind whole before) :
    marks cursor events =
      events.flatMap fun spanned => Mark.ofEvent (.at whole spanned.start) spanned.event := by
  induction laid generalizing cursor with
  | finish ends => rfl
  | fault faulty => rfl
  | @next before taken event later begins others inductionHypothesis =>
    obtain ⟨_, _, here, -⟩ := begins
    obtain ⟨_, _, further, -⟩ := others.stands
    have begun := stands.stay
    rw [marks, List.flatMap_cons, at_behind here, begun.place,
      inductionHypothesis (begun.advance further)]

/-- The tag of an event that opens an element. -/
def tag? : Markup.Event → Option Markup.Tag
  | .opening tag => some tag
  | .empty tag => some tag
  | _ => none

/-- The places of the tags of a name in a document, in the order of the text. -/
def tagPlaces (name source : String) : List Place :=
  ((Markup.events source).filter fun spanned => (tag? spanned.event).any (·.name = name)).map
    fun spanned => .at source.toList spanned.start

/-- The place of a mark that is a tag of a name. -/
def Mark.opens (name : String) : Mark → List Place
  | .opening place tag => if tag.name = name then [place] else []
  | _ => []

/-- The places of the tags of a name among marks. -/
def openings (name : String) (marks : List Mark) : List Place := marks.flatMap (Mark.opens name)

@[simp]
theorem openings_append (name : String) (first second : List Mark) :
    openings name (first ++ second) = openings name first ++ openings name second :=
  List.flatMap_append

/-- In a document without a byte order mark the tags among the marks have the places of the
tags. -/
theorem openings_source (name : String) {source : String}
    (unmarked : source.toList.head? ≠ some '\uFEFF') :
    openings name (marksOf source) = tagPlaces name source := by
  rw [marksOf, marks_laid (Markup.source_laid unmarked) (Cursor.ofSource_behind source), tagPlaces]
  induction Markup.events source with
  | nil => rfl
  | cons spanned later inductionHypothesis =>
    obtain ⟨event, start, stop⟩ := spanned
    rw [List.flatMap_cons, openings_append, inductionHypothesis, List.filter_cons]
    cases event with
    | opening tag =>
      by_cases named : tag.name = name <;> simp [Mark.ofEvent, openings, Mark.opens, tag?, named]
    | empty tag =>
      by_cases named : tag.name = name <;> simp [Mark.ofEvent, openings, Mark.opens, tag?, named]
    | text content =>
      by_cases blank : content.all Text.isAsciiBlank
      · simp [Mark.ofEvent, openings, tag?, blank]
      · simp [Mark.ofEvent, openings, Mark.opens, tag?, blank]
    | _ => rfl

/-- Every link of a selector was declared at a place of a file. -/
def DeclaredAt (file : String) (place : Place) (selector : Selector) : Prop :=
  ∀ link ∈ selector.chain.links, link.source = ⟨some file, place.line, place.column⟩

/-- All links of a selector have its source. -/
theorem links_source (selector : Selector) :
    ∀ link ∈ selector.chain.links, link.source = selector.source := by
  intro link member
  rcases (Link.mem_links_iff _ _).mp member with
    rfl | ⟨next, leads, reached⟩ | ⟨next, leads, reached⟩
  · rfl
  · exact (Selector.above_links _ selector.outer next (.inl leads) link reached).2.2
  · exact (Selector.above_links _ selector.outer next (.inr leads) link reached).2.2

/-- A selector that a tag declares is declared at the place of the tag. -/
theorem reads_declared {file text : String} {place : Place} {selector : Selector}
    (reads : ReadsSelector file place text selector) : DeclaredAt file place selector := by
  obtain ⟨written, -, described⟩ := Selector.accepted_written reads
  intro link member
  rw [links_source selector link member, (Selector.describes_iff _ _ _).mp described]

/-- Where each item has the places that its tags give it, so do repeated items. -/
theorem repeated_openings {β γ : Type} {Item : List Mark → β → Prop} {Declared : Place → γ → Prop}
    {name : String} (made : β → List γ)
    (single : ∀ block item, Item block item →
      List.Forall₂ Declared (openings name block) (made item))
    {marks : List Mark} {items : List β} (repeated : Repeated Item marks items) :
    List.Forall₂ Declared (openings name marks) (items.flatMap made) := by
  induction repeated with
  | nil => exact .nil
  | cons first others inductionHypothesis =>
    rw [openings_append, List.flatMap_cons]
    exact List.rel_append (single _ _ first) inductionHypothesis

variable {file : String}

/-- Where no item has a tag of a name, repeated items have none. -/
theorem repeated_without {β : Type} {Item : List Mark → β → Prop} {name : String}
    (single : ∀ block item, Item block item → openings name block = [])
    {marks : List Mark} {items : List β} (repeated : Repeated Item marks items) :
    openings name marks = [] := by
  induction repeated with
  | nil => rfl
  | cons first others inductionHypothesis =>
    rw [openings_append, single _ _ first, inductionHypothesis, List.nil_append]

/-- The tags of an element are its own and those of its content. -/
theorem openings_element (name : String) (place : Place) (tag : Markup.Tag) (content : List Mark) :
    openings name (.opening place tag :: (content ++ [.closing])) =
      (if tag.name = name then [place] else []) ++ openings name content := by
  rw [openings, List.flatMap_cons, List.flatMap_append, ← openings]
  simp [Mark.opens]

/-- A property has no tag of another name. -/
theorem property_without {name : String} (other : Scope.property.tag ≠ name) {block : List Mark}
    {property : PropertyTarget} (element : IsProperty block property) :
    openings name block = [] := by
  obtain ⟨opens, _⟩ := element
  simp [openings, Mark.opens, opens.named, other]

/-- The selector of a target, if it has one, is declared at a place. -/
def TargetAt (file : String) (place : Place) (target : Target) : Prop :=
  ∀ selector ∈ target.selector, DeclaredAt file place selector

/-- The sender of a trigger is declared at a place. -/
def SenderAt (file : String) (place : Place) (trigger : Trigger) : Prop :=
  DeclaredAt file place trigger.sender

/-- The target of an application is declared at its tag, and it has no other. -/
theorem apply_places {timeline : Timeline} {block : List Mark} {target : Target}
    (element : IsApply file timeline block target) :
    openings "trigger" block = [] ∧
      List.Forall₂ (TargetAt file) (openings "apply" block) [target] := by
  obtain ⟨opens, gives, holds⟩ := element
  rename_i place tag attributes selector origin content properties
  have named : tag.name = "apply" := opens.named
  rw [openings_element, openings_element, named, if_neg (by decide), if_pos rfl,
    repeated_without (fun _ _ => property_without (by decide)) holds,
    repeated_without (fun _ _ => property_without (by decide)) holds]
  refine ⟨rfl, .cons ?_ .nil⟩
  rintro declared (rfl : selector = some declared)
  have selected := gives.selected
  cases written : value? attributes "to" with
  | none =>
    rw [written] at selected
    cases selected
  | some text =>
    rw [written] at selected
    obtain ⟨read, same, reads⟩ := selected
    obtain rfl := Option.some.inj same
    exact reads_declared reads

/-- The targets of a timeline are declared at the applications in it. -/
theorem timeline_places {block : List Mark} {targets : List Target}
    (element : IsTimeline file block targets) :
    openings "trigger" block = [] ∧
      List.Forall₂ (TargetAt file) (openings "apply" block) targets := by
  obtain ⟨opens, _, holds⟩ := element
  rename_i place tag attributes timeline content _
  have named : tag.name = "timeline" := opens.named
  rw [openings_element, openings_element, named, if_neg (by decide), if_neg (by decide),
    repeated_without (fun _ _ item => (apply_places item).1) holds]
  refine ⟨rfl, ?_⟩
  have places := repeated_openings (fun target => [target])
    (fun _ _ item => (apply_places item).2) holds
  rwa [List.flatMap_singleton'] at places

/-- A trigger is declared at its tag, and its targets at the applications in it. -/
theorem trigger_places {block : List Mark} {trigger : Trigger}
    (element : IsTrigger file block trigger) :
    List.Forall₂ (SenderAt file) (openings "trigger" block) [trigger] ∧
      List.Forall₂ (TargetAt file) (openings "apply" block) trigger.targets := by
  obtain ⟨opens, gives, holds⟩ := element
  rename_i place tag attributes id sender signal content targets
  have named : tag.name = "trigger" := opens.named
  obtain ⟨text, _, reads⟩ := gives.sent
  rw [openings_element, openings_element, named, if_pos rfl, if_neg (by decide),
    repeated_without (fun _ _ item => (timeline_places item).1) holds]
  refine ⟨.cons (reads_declared reads) .nil, ?_⟩
  have places := repeated_openings (fun targets => targets)
    (fun _ _ item => (timeline_places item).2) holds
  rwa [List.flatMap_id'] at places

/-- The triggers of a document are declared at its trigger tags, and their targets at its
application tags, each in the order of the text. -/
theorem document_places {marks : List Mark} {triggers : List Trigger}
    (document : IsDocument file marks triggers) :
    List.Forall₂ (SenderAt file) (openings "trigger" marks) triggers ∧
      List.Forall₂ (TargetAt file) (openings "apply" marks) (triggers.flatMap (·.targets)) := by
  obtain ⟨opens, holds⟩ := document
  rename_i place tag content
  have named : tag.name = "animations" := opens.named
  have senders := repeated_openings (fun trigger => [trigger])
    (fun _ _ item => (trigger_places item).1) holds
  have targets := repeated_openings (fun trigger => trigger.targets)
    (fun _ _ item => (trigger_places item).2) holds
  rw [openings_element, openings_element, named, if_neg (by decide), if_neg (by decide)]
  rw [List.flatMap_singleton'] at senders
  exact ⟨senders, targets⟩

/-- In a document without a byte order mark every place is exact.

A refused document has its fault behind the text before the event that is refused: its line is
one more than the newlines of this text, and its column one more than the characters behind
the last of them. In an accepted one each link of a sender, and each link of the selector of a
target, has the place of the tag that declares it; triggers and targets stand in the order of
their tags, and the place of a tag, as of any event, is counted in the same way. Lines and columns
are words; where a word can number the bytes of the document, they are the counts themselves. -/
theorem places_exact (context : Context) {source : String}
    (unmarked : source.toList.head? ≠ some '\uFEFF') :
    (∀ refusal, read context source = .error refusal → ∃ before,
      RefusedBehind context source.toList .start (Markup.events source) before refusal.fault ∧
        refusal.file = context.file ∧ refusal.line = .ofNat (1 + before.count '\n') ∧
          refusal.column = .ofNat (1 + (before.reverse.takeWhile (· ≠ '\n')).length) ∧
            (byteLength source.toList + 1 < UInt32.size →
              refusal.line.toNat = 1 + before.count '\n' ∧
                refusal.column.toNat = 1 + (before.reverse.takeWhile (· ≠ '\n')).length)) ∧
    (∀ triggers, read context source = .ok triggers →
      List.Forall₂ (SenderAt context.file) (tagPlaces "trigger" source) triggers ∧
        List.Forall₂ (TargetAt context.file) (tagPlaces "apply" source)
          (triggers.flatMap (·.targets))) ∧
    ∀ spanned ∈ Markup.events source, ∃ before rest, source.toList = before ++ rest ∧
      spanned.start = byteLength before ∧
        (Place.at source.toList spanned.start).line = .ofNat (1 + before.count '\n') ∧
          (Place.at source.toList spanned.start).column =
            .ofNat (1 + (before.reverse.takeWhile (· ≠ '\n')).length) ∧
            (byteLength source.toList + 1 < UInt32.size →
              (Place.at source.toList spanned.start).line.toNat = 1 + before.count '\n' ∧
                (Place.at source.toList spanned.start).column.toNat =
                  1 + (before.reverse.takeWhile (· ≠ '\n')).length) := by
  have laid := Markup.source_laid unmarked
  refine ⟨?_, ?_, ?_⟩
  · intro refusal refused
    obtain ⟨before, first, same⟩ := readFrom_refused laid (Cursor.ofSource_behind source) refused
    obtain ⟨rest, split⟩ := first.split
    refine ⟨before, first, ?_⟩
    rw [same]
    exact ⟨rfl, rfl, rfl, Place.behind_toNat split⟩
  · intro triggers accepted
    have places := document_places ((read_exact context source triggers).mp accepted).1
    rwa [openings_source "trigger" unmarked, openings_source "apply" unmarked] at places
  · intro spanned member
    obtain ⟨before, rest, split, start⟩ := laid.begins spanned member
    refine ⟨before, rest, split, start, ?_⟩
    rw [start, at_behind split]
    exact ⟨rfl, rfl, Place.behind_toNat split⟩

/-- A document with an element that no document has. -/
def strayElement : String := "<animations>\n  <bad/></animations>"

/-- A document with a trigger and two applications, the first of which has a selector. -/
def fadeLabels : String :=
  "<animations>\n\t<trigger id=\"fade\" sender=\"Button\" signal=\"clicked\">" ++
    "<timeline duration=\"100\">\n<apply to=\"Box > Label\"/> <apply/></timeline></trigger></animations>"

/-- The stray element is refused where it stands; the trigger and its applications are declared
where they stand. -/
theorem places_stray_and_declared :
    (∃ before, RefusedBehind ⟨"theme.xml", []⟩ strayElement.toList .start
        (Markup.events strayElement) before (.unexpectedElement "bad" .animations) ∧
      1 + before.count '\n' = 2 ∧ 1 + (before.reverse.takeWhile (· ≠ '\n')).length = 3) ∧
    ∃ triggers, read ⟨"theme.xml", []⟩ fadeLabels = .ok triggers ∧
      List.Forall₂ (SenderAt "theme.xml") [⟨2, 2⟩] triggers ∧
      List.Forall₂ (TargetAt "theme.xml") [⟨3, 1⟩, ⟨3, 27⟩] (triggers.flatMap (·.targets)) := by
  constructor
  · have refused : read ⟨"theme.xml", []⟩ strayElement =
        .error ⟨"theme.xml", 2, 3, .unexpectedElement "bad" .animations⟩ := by decide +kernel
    obtain ⟨before, first, -, -, -, counts⟩ :=
      (places_exact ⟨"theme.xml", []⟩ (by decide)).1 _ refused
    obtain ⟨line, column⟩ := counts (by decide)
    exact ⟨before, first, line.symm, column.symm⟩
  · have accepted : (read ⟨"theme.xml", []⟩ fadeLabels).isOk = true := by decide +kernel
    cases success : read ⟨"theme.xml", []⟩ fadeLabels with
    | error refusal =>
      rw [success] at accepted
      cases accepted
    | ok triggers =>
      have triggerTags : tagPlaces "trigger" fadeLabels = [⟨2, 2⟩] := by decide +kernel
      have applyTags : tagPlaces "apply" fadeLabels = [⟨3, 1⟩, ⟨3, 27⟩] := by decide +kernel
      have declared := (places_exact ⟨"theme.xml", []⟩ (by decide +kernel)).2.1 triggers success
      rw [triggerTags, applyTags] at declared
      exact ⟨triggers, rfl, declared⟩

/-- A document with a byte order mark and an element that no document has. -/
def markedStrayElement : String := "\uFEFF<animations>\n<bad/></animations>"

/-- Behind a byte order mark places are wrong: the stray element begins the second line, and is
said to stand in the first. -/
theorem place_behind_mark :
    markedStrayElement.toList = "\uFEFF<animations>\n".toList ++ "<bad/></animations>".toList ∧
      Place.behind "\uFEFF<animations>\n".toList = ⟨2, 1⟩ ∧
      read ⟨"theme.xml", []⟩ markedStrayElement =
        .error ⟨"theme.xml", 1, 12, .unexpectedElement "bad" .animations⟩ := by
  decide +kernel

end Document

end ThemeMotion
