import ThemeMotion.Markup.Attribute
import ThemeMotion.Progress.Basic
import ThemeMotion.Selector.Parser
import ThemeMotion.Theme.Trigger

/-!
# Faults of theme documents

Why a theme document is refused. The first fault in the order of reading decides,
and the whole document counts for nothing.
-/

namespace ThemeMotion

/-- The element whose content is being read, or the document itself. -/
inductive Scope where
  | document
  | animations
  | trigger
  | timeline
  | apply
  | property
deriving DecidableEq, Repr

namespace Scope

/-- The tag of an element. -/
def tag : Scope → String
  | .document => "document"
  | .animations => "animations"
  | .trigger => "trigger"
  | .timeline => "timeline"
  | .apply => "apply"
  | .property => "property"

/-- Where something stands. -/
def display : Scope → String
  | .document => "at document level"
  | scope => s!"inside <{scope.tag}>"

end Scope

/-- What is wrong with a theme document. -/
inductive DocumentFault where
  | markup (fault : Markup.Fault)
  | secondRoot
  | unexpectedElement (tag : String) (scope : Scope)
  | badAttribute (element : Scope) (fault : Markup.AttributeFault)
  | badValue (key : String) (fault : Markup.ValueFault)
  | missingAttribute (element : Scope) (name : String)
  | emptyAttribute (element : Scope) (name : String)
  | unknownAttribute (element : Scope) (key : String)
  | invalidId (id : String)
  | duplicateId (id : String)
  | invalidSelector (key text : String) (error : SelectorError)
  | notMilliseconds (key text : String)
  | notRepetition (text : String)
  | unknownMode (text : String)
  | unknownOrigin (text : String)
  | unexpectedClosing
  | unexpectedText (scope : Scope)
  | unfinished (scope : Scope)
  | missingRoot
deriving DecidableEq, Repr

/-- The wording of a fault. -/
def DocumentFault.message : DocumentFault → String
  | .markup fault => "XML syntax error: " ++ fault.message
  | .secondRoot => "a document holds a single <animations> element"
  | .unexpectedElement tag scope => s!"unexpected element <{tag}> {scope.display}"
  | .badAttribute element fault => s!"bad attribute on <{element.tag}>: {fault.message}"
  | .badValue key fault => s!"bad value for '{key}': {fault.message}"
  | .missingAttribute element name =>
    s!"<{element.tag}> is missing required attribute '{name}'"
  | .emptyAttribute element name =>
    s!"attribute '{name}' of <{element.tag}> must not be empty"
  | .unknownAttribute element key => s!"unknown attribute '{key}' on <{element.tag}>"
  | .invalidId id => s!"invalid animation id '{id}'"
  | .duplicateId id => s!"duplicate animation id '{id}'"
  | .invalidSelector key text error => s!"invalid selector '{text}' in '{key}': {error.message}"
  | .notMilliseconds key text =>
    s!"attribute '{key}' expects a non-negative integer, got '{text}'"
  | .notRepetition text => s!"attribute 'repeat' expects an integer >= -1, got '{text}'"
  | .unknownMode text => ProgressMode.unknownMessage text
  | .unknownOrigin text => Origin.unknownMessage text
  | .unexpectedClosing => "unexpected closing tag"
  | .unexpectedText scope => s!"unexpected text {scope.display}"
  | .unfinished scope => s!"document ends {scope.display}"
  | .missingRoot => "missing <animations> root element"

/-- A refused document: its name, the place of the fault, and the fault. -/
structure Malformed where
  file : String
  line : UInt32
  column : UInt32
  fault : DocumentFault
deriving DecidableEq, Repr

/-- The place and the wording of a fault. -/
def Malformed.message (malformed : Malformed) : String :=
  s!"{malformed.file}:{Decimal.natural malformed.line.toNat}:" ++
    s!"{Decimal.natural malformed.column.toNat}: {malformed.fault.message}"

end ThemeMotion
