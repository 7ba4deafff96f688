import ThemeMotion.Markup.Event
import ThemeMotion.Theme.Cursor
import ThemeMotion.Theme.Fault
import ThemeMotion.Value.Coerce

/-!
# Reading theme documents

A document holds one `animations` element; triggers stand in it, timelines in a
trigger, applications in a timeline, and properties in an application. The events of
the document drive a draft: the scopes that are open, what has been begun in them,
and the triggers that are complete. A document gives all its triggers or none.
-/

namespace ThemeMotion

/-- Takes attributes of an element by name; what is left at the end is unknown. -/
abbrev AttributeReader := StateT (List Markup.Attribute) (Except DocumentFault)

namespace AttributeReader

/-- The value of an attribute, which is then gone. -/
def take (name : String) : AttributeReader (Option String) := fun attributes =>
  .ok ((attributes.find? (·.key == name)).map (·.value),
    attributes.eraseP (·.key == name))

/-- An attribute that may be left out but not be empty. -/
def optional (element : Scope) (name : String) : AttributeReader (Option String) := do
  match ← take name with
  | some "" => throw (.emptyAttribute element name)
  | value => return value

/-- An attribute that must be there and not be empty. -/
def required (element : Scope) (name : String) : AttributeReader String := do
  match ← optional element name with
  | some value => return value
  | none => throw (.missingAttribute element name)

end AttributeReader

namespace Document

/-- What the reading of a document depends on besides its events. -/
structure Context where
  /-- The name of the document. -/
  file : String
  /-- The triggers that were declared before. -/
  committed : List Trigger

/-- A selector in an attribute, declared where its tag begins. -/
def selector (context : Context) (place : Place) (key text : String) :
    Except DocumentFault Selector :=
  (Selector.parseAt ⟨some context.file, place.line, place.column⟩ text).mapError
    (.invalidSelector key text)

/-- A number of milliseconds in an attribute. -/
def milliseconds (key text : String) : Except DocumentFault UInt32 :=
  match Coerce.int? text.toList >>= fun integer => Word.uint32? integer.toInt with
  | some duration => .ok duration
  | none => .error (.notMilliseconds key text)

/-- A repetition in an attribute: a count, or the one without end. -/
def repetition (text : String) : Except DocumentFault Int32 :=
  match Coerce.int? text.toList >>= fun integer => Word.int32? integer.toInt with
  | some count => if Timeline.forever ≤ count then .ok count else .error (.notRepetition text)
  | none => .error (.notRepetition text)

/-- A progress mode in an attribute. -/
def mode (text : String) : Except DocumentFault ProgressMode :=
  match ProgressMode.parse? text with
  | some mode => .ok mode
  | none => .error (.unknownMode text)

/-- An origin in an attribute. -/
def origin (text : String) : Except DocumentFault Origin :=
  match Origin.parse? text with
  | some origin => .ok origin
  | none => .error (.unknownOrigin text)

/-- An attribute that was left out has a standard value. -/
def orStandard (standard : α) (convert : String → Except DocumentFault α) :
    Option String → Except DocumentFault α
  | none => .ok standard
  | some text => convert text

/-- What has been read of a document. -/
structure Draft where
  /-- The scopes that are open, the innermost first. -/
  scopes : List Scope
  /-- The one root element has been closed. -/
  rootClosed : Bool
  trigger : Option Trigger
  timeline : Option Timeline
  target : Option Target
  /-- The complete triggers in document order. -/
  triggers : List Trigger
deriving DecidableEq, Repr

namespace Draft

/-- The draft before anything is read. -/
def start : Draft := ⟨[.document], false, none, none, none, []⟩

/-- The innermost scope. -/
def scope (draft : Draft) : Scope := draft.scopes.head?.getD .document

/-- A trigger of that id has been declared before, here or elsewhere. -/
def declares (draft : Draft) (context : Context) (id : String) : Bool :=
  draft.triggers.any (·.id == id) || context.committed.any (·.id == id)

/-- The element that a tag opens in the innermost scope. -/
def element (draft : Draft) (tag : String) : Except DocumentFault Scope :=
  match draft.scope, tag with
  | .document, "animations" => if draft.rootClosed then .error .secondRoot else .ok .animations
  | .animations, "trigger" => .ok .trigger
  | .trigger, "timeline" => .ok .timeline
  | .timeline, "apply" => .ok .apply
  | .apply, "property" => .ok .property
  | scope, _ => .error (.unexpectedElement tag scope)

/-- Begins a trigger. -/
def openTrigger (draft : Draft) (context : Context) (place : Place) : AttributeReader Draft := do
  let id ← AttributeReader.required .trigger "id"
  if !Trigger.isValidId id then throw (.invalidId id)
  if draft.declares context id then throw (.duplicateId id)
  let senderText ← AttributeReader.required .trigger "sender"
  let sender ← selector context place "sender" senderText
  let signal ← AttributeReader.required .trigger "signal"
  return { draft with trigger := some ⟨id, sender, signal, [], context.file⟩ }

/-- Begins a timeline. -/
def openTimeline (draft : Draft) : AttributeReader Draft := do
  let delayText ← AttributeReader.optional .timeline "delay"
  let durationText ← AttributeReader.required .timeline "duration"
  let modeText ← AttributeReader.optional .timeline "mode"
  let repeatText ← AttributeReader.optional .timeline "repeat"
  let duration ← milliseconds "duration" durationText
  let delay ← orStandard 0 (milliseconds "delay") delayText
  let mode ← orStandard .standard mode modeText
  let count ← orStandard 0 repetition repeatText
  return { draft with timeline := some ⟨delay, duration, mode, count⟩ }

/-- Begins an application under the timeline that is open. -/
def openApply (draft : Draft) (context : Context) (place : Place) : AttributeReader Draft := do
  let toText ← AttributeReader.optional .apply "to"
  let selected ← orStandard none
    (fun text => (selector context place "to" text).map some) toText
  let originText ← AttributeReader.optional .apply "origin"
  let origin ← orStandard .standard origin originText
  let timeline := draft.timeline.getD .standard
  return { draft with target := some ⟨selected, origin, timeline, []⟩ }

/-- Adds a property to the application that is open. -/
def openProperty (draft : Draft) : AttributeReader Draft := do
  let name ← AttributeReader.required .property "name"
  let fromText ← AttributeReader.optional .property "from"
  let toText ← AttributeReader.optional .property "to"
  let property : PropertyTarget := ⟨name, fromText, toText⟩
  return { draft with
    target := draft.target.map fun target =>
      { target with properties := target.properties ++ [property] } }

/-- Begins an element with its attributes. -/
def openElement (draft : Draft) (context : Context) (place : Place) :
    Scope → AttributeReader Draft
  | .trigger => draft.openTrigger context place
  | .timeline => draft.openTimeline
  | .apply => draft.openApply context place
  | .property => draft.openProperty
  | .animations => return draft
  | .document => return draft

/-- The attributes of a tag of an element. -/
def attributes (element : Scope) (tag : Markup.Tag) :
    Except DocumentFault (List Markup.Attribute) :=
  tag.attributes.mapError fun
    | .malformed fault => .badAttribute element fault
    | .value key fault => .badValue key fault

/-- Takes an opening tag: its element must fit, and none of its attributes may be
left over. -/
def openTag (draft : Draft) (context : Context) (place : Place) (tag : Markup.Tag) :
    Except DocumentFault Draft := do
  let element ← draft.element tag.name
  let written ← attributes element tag
  let (opened, left) ← draft.openElement context place element written
  match left with
  | [] => return { opened with scopes := element :: opened.scopes }
  | unknown :: _ => throw (.unknownAttribute element unknown.key)

/-- Adds the open target to the open trigger. -/
def closeApply (draft : Draft) : Draft :=
  match draft.target, draft.trigger with
  | some target, some trigger =>
    { draft with
      target := none
      trigger := some { trigger with targets := trigger.targets ++ [target] } }
  | _, _ => { draft with target := none }

/-- Adds the open trigger to the complete ones. -/
def closeTrigger (draft : Draft) : Draft :=
  match draft.trigger with
  | some trigger => { draft with trigger := none, triggers := draft.triggers ++ [trigger] }
  | none => draft

/-- Closes the innermost scope. -/
def close (draft : Draft) : Except DocumentFault Draft :=
  let outer : Draft := { draft with scopes := draft.scopes.tail }
  match draft.scope with
  | .document => .error .unexpectedClosing
  | .animations => .ok { outer with rootClosed := true }
  | .trigger => .ok outer.closeTrigger
  | .timeline => .ok { outer with timeline := none }
  | .apply => .ok outer.closeApply
  | .property => .ok outer

/-- Takes one event that begins at the given place. -/
def step (draft : Draft) (context : Context) (place : Place) :
    Markup.Event → Except DocumentFault Draft
  | .opening tag => draft.openTag context place tag
  | .empty tag => draft.openTag context place tag >>= close
  | .closing => draft.close
  | .text content =>
    if content.all Text.isAsciiBlank then .ok draft else .error (.unexpectedText draft.scope)
  | .aside => .ok draft
  | .fault fault => .error (.markup fault)
  | .finish => .ok draft

/-- The triggers of a draft at the end of its document. -/
def finish (draft : Draft) : Except DocumentFault (List Trigger) :=
  if 1 < draft.scopes.length then .error (.unfinished draft.scope)
  else if draft.rootClosed then .ok draft.triggers
  else .error .missingRoot

end Draft

/-- A fault of a document at a place. -/
def malformed (context : Context) (place : Place) (fault : DocumentFault) : Malformed :=
  ⟨context.file, place.line, place.column, fault⟩

/-- Reads the events that are left, from a cursor behind the events before them. A
fault is placed where its event begins. -/
def readFrom (context : Context) (cursor : Cursor) (draft : Draft) :
    List Markup.Spanned → Except Malformed (List Trigger)
  | [] => draft.finish.mapError (malformed context cursor.place)
  | spanned :: rest =>
    let begun := cursor.advance spanned.start
    match draft.step context begun.place spanned.event with
    | .error fault => .error (malformed context begun.place fault)
    | .ok next => readFrom context (begun.advance spanned.stop) next rest

/-- The triggers of a document, in the order of the text. -/
def read (context : Context) (source : String) : Except Malformed (List Trigger) :=
  readFrom context (Cursor.ofSource source) .start (Markup.events source)

end Document

end ThemeMotion
