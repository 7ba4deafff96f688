import ThemeMotion.Theme.Document

/-!
# The grammar of theme documents

A document is one `animations` element. Triggers stand in it, timelines in a trigger,
applications in a timeline and properties in an application, any number of each and
in this nesting only. The grammar is written down as relations between a row of marks
and what the row declares; it mentions neither scopes that are open nor anything
that has been begun.

Marks are what the events of a document leave once the events without a meaning are
dropped and a tag that closes itself is written as a tag and its end. An opening mark
keeps the place of its tag, for selectors record where they were declared.

Attributes are read by the markup; the grammar says which of them an element takes
and what their texts have to be. It leaves the selector texts, the mode texts and the
integer texts to the rules of those texts. Ids of different triggers are compared
outside these relations.
-/

namespace ThemeMotion

/-- An ASCII letter. -/
def IsLetter (c : Char) : Prop := ('A' ≤ c ∧ c ≤ 'Z') ∨ ('a' ≤ c ∧ c ≤ 'z')

/-- An ASCII digit. -/
def IsDigit (c : Char) : Prop := '0' ≤ c ∧ c ≤ '9'

/-- Any number of underscores, a letter, and then letters, digits, underscores and
hyphens to the end. -/
def HasIdForm (id : String) : Prop :=
  ∃ (underscores : Nat) (letter : Char) (rest : List Char),
    id.toList = List.replicate underscores '_' ++ letter :: rest ∧ IsLetter letter ∧
      ∀ c ∈ rest, IsLetter c ∨ IsDigit c ∨ c = '_' ∨ c = '-'

namespace Document

/-- What an event means for the structure of a document. A stray mark stands for text
that is not blank and for faulty markup; no document has one. -/
inductive Mark where
  | opening (place : Place) (tag : Markup.Tag)
  | closing
  | stray

/-- The marks of an event that begins at a place. -/
def Mark.ofEvent (place : Place) : Markup.Event → List Mark
  | .opening tag => [.opening place tag]
  | .empty tag => [.opening place tag, .closing]
  | .closing => [.closing]
  | .text content => if content.all Text.isAsciiBlank then [] else [.stray]
  | .aside => []
  | .fault _ => [.stray]
  | .finish => []

/-- The marks of the events that are left behind a cursor. -/
def marks (cursor : Cursor) : List Markup.Spanned → List Mark
  | [] => []
  | spanned :: rest =>
    let begun := cursor.advance spanned.start
    Mark.ofEvent begun.place spanned.event ++ marks (begun.advance spanned.stop) rest

/-- The attributes that an element must have. -/
def requiredNames : Scope → List String
  | .trigger => ["id", "sender", "signal"]
  | .timeline => ["duration"]
  | .property => ["name"]
  | _ => []

/-- The attributes that an element may have besides. -/
def optionalNames : Scope → List String
  | .timeline => ["delay", "mode", "repeat"]
  | .apply => ["to", "origin"]
  | .property => ["from", "to"]
  | _ => []

/-- The attributes of an element in any order: each at most once, none that the
element does not take, all that it must have, and none of them empty. -/
structure Proper (element : Scope) (attributes : List Markup.Attribute) : Prop where
  distinct : (attributes.map (·.key)).Nodup
  known : ∀ entry ∈ attributes, entry.key ∈ requiredNames element ++ optionalNames element
  present : ∀ name ∈ requiredNames element, name ∈ attributes.map (·.key)
  filled : ∀ entry ∈ attributes, entry.value ≠ ""

/-- A tag that opens an element and has the given attributes. -/
structure Opens (element : Scope) (tag : Markup.Tag) (attributes : List Markup.Attribute) :
    Prop where
  named : tag.name = element.tag
  written : tag.attributes = .ok attributes
  proper : Proper element attributes

/-- The value of an attribute. -/
def value? (attributes : List Markup.Attribute) (name : String) : Option String :=
  (attributes.find? (·.key == name)).map (·.value)

/-- An attribute that is read by a rule when it is there and has a standard value
when it is not. -/
def Given {α : Type} (Reads : String → α → Prop) (standard : α) : Option String → α → Prop
  | none, value => value = standard
  | some text, value => Reads text value

/-- An integer text whose integer is a number of milliseconds. -/
def ReadsMilliseconds (text : String) (duration : UInt32) : Prop :=
  ∃ integer, Coerce.int? text.toList = some integer ∧ integer.toInt = duration.toNat

/-- An integer text whose integer is a repetition, that without end included. -/
def ReadsRepetition (text : String) (count : Int32) : Prop :=
  ∃ integer, Coerce.int? text.toList = some integer ∧ integer.toInt = count.toInt ∧
    -1 ≤ count.toInt

/-- The text of a selector that a tag at a place of a file declares. -/
def ReadsSelector (file : String) (place : Place) (text : String) (selector : Selector) : Prop :=
  Selector.parseAt ⟨some file, place.line, place.column⟩ text = .ok selector

/-- The attributes of a trigger give its id, its sender and its signal. -/
structure GivesTrigger (file : String) (place : Place) (attributes : List Markup.Attribute)
    (id : String) (sender : Selector) (signal : String) : Prop where
  identified : value? attributes "id" = some id
  wellFormed : HasIdForm id
  sent : ∃ text, value? attributes "sender" = some text ∧ ReadsSelector file place text sender
  signalled : value? attributes "signal" = some signal

/-- The attributes of a timeline give it. -/
structure GivesTimeline (attributes : List Markup.Attribute) (timeline : Timeline) : Prop where
  lasting : ∃ text, value? attributes "duration" = some text ∧
    ReadsMilliseconds text timeline.duration
  delayed : Given ReadsMilliseconds 0 (value? attributes "delay") timeline.delay
  shaped : Given (fun text mode => ProgressMode.parse? text = some mode) .standard
    (value? attributes "mode") timeline.mode
  repeated : Given ReadsRepetition 0 (value? attributes "repeat") timeline.repetition

/-- The attributes of an application give the selector of its target, if it has one,
and the origin. -/
structure GivesTarget (file : String) (place : Place) (attributes : List Markup.Attribute)
    (selector : Option Selector) (origin : Origin) : Prop where
  selected : Given
    (fun text given => ∃ read, given = some read ∧ ReadsSelector file place text read) none
    (value? attributes "to") selector
  sought : Given (fun text origin => text = origin.display) .sender (value? attributes "origin")
    origin

/-- Items one after the other, with what each of them declares. -/
inductive Repeated {β : Type} (Item : List Mark → β → Prop) : List Mark → List β → Prop where
  | nil : Repeated Item [] []
  | cons {block : List Mark} {item : β} {rest : List Mark} {items : List β}
      (first : Item block item) (others : Repeated Item rest items) :
      Repeated Item (block ++ rest) (item :: items)

/-- A `property` element, which holds nothing, declares a property. -/
inductive IsProperty : List Mark → PropertyTarget → Prop where
  | element {place : Place} {tag : Markup.Tag} {attributes : List Markup.Attribute}
      {name : String}
      (opens : Opens .property tag attributes)
      (named : value? attributes "name" = some name) :
      IsProperty [.opening place tag, .closing]
        ⟨name, value? attributes "from", value? attributes "to"⟩

/-- An `apply` element under a timeline declares a target with that timeline and with
the properties in the element, in their order. -/
inductive IsApply (file : String) (timeline : Timeline) : List Mark → Target → Prop where
  | element {place : Place} {tag : Markup.Tag} {attributes : List Markup.Attribute}
      {selector : Option Selector} {origin : Origin} {content : List Mark}
      {properties : List PropertyTarget}
      (opens : Opens .apply tag attributes)
      (gives : GivesTarget file place attributes selector origin)
      (holds : Repeated IsProperty content properties) :
      IsApply file timeline (.opening place tag :: (content ++ [.closing]))
        ⟨selector, origin, timeline, properties⟩

/-- A `timeline` element declares one target for each application in it. -/
inductive IsTimeline (file : String) : List Mark → List Target → Prop where
  | element {place : Place} {tag : Markup.Tag} {attributes : List Markup.Attribute}
      {timeline : Timeline} {content : List Mark} {targets : List Target}
      (opens : Opens .timeline tag attributes)
      (gives : GivesTimeline attributes timeline)
      (holds : Repeated (IsApply file timeline) content targets) :
      IsTimeline file (.opening place tag :: (content ++ [.closing])) targets

/-- A `trigger` element declares a trigger with the targets of its timelines. -/
inductive IsTrigger (file : String) : List Mark → Trigger → Prop where
  | element {place : Place} {tag : Markup.Tag} {attributes : List Markup.Attribute}
      {id : String} {sender : Selector} {signal : String} {content : List Mark}
      {targets : List (List Target)}
      (opens : Opens .trigger tag attributes)
      (gives : GivesTrigger file place attributes id sender signal)
      (holds : Repeated (IsTimeline file) content targets) :
      IsTrigger file (.opening place tag :: (content ++ [.closing]))
        ⟨id, sender, signal, targets.flatten, file⟩

/-- A document is an `animations` element without attributes and declares the triggers
in it. -/
inductive IsDocument (file : String) : List Mark → List Trigger → Prop where
  | element {place : Place} {tag : Markup.Tag} {content : List Mark} {triggers : List Trigger}
      (opens : Opens .animations tag [])
      (holds : Repeated (IsTrigger file) content triggers) :
      IsDocument file (.opening place tag :: (content ++ [.closing])) triggers

end Document

end ThemeMotion
