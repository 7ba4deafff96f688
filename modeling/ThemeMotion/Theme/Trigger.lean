import ThemeMotion.Selector.Basic
import ThemeMotion.Timeline

/-!
# Triggers

A theme declares triggers. A trigger names a signal and describes the actors that
may send it; its targets say which actors are animated then, and how.
-/

namespace ThemeMotion

/-- Where the actors of a target are sought: below the sender, or on the whole stage. -/
inductive Origin where
  | sender
  | stage
deriving DecidableEq, Repr

namespace Origin

/-- The word of an origin. -/
def display : Origin → String
  | .sender => "sender"
  | .stage => "stage"

/-- The origin of a target that names none. -/
def standard : Origin := .sender

/-- The origin of a word, which is read as it is. -/
def parse? (text : String) : Option Origin :=
  if text = "sender" then some .sender else if text = "stage" then some .stage else none

/-- The wording of a refusal of an origin text. -/
def unknownMessage (text : String) : String :=
  s!"unknown origin '{text}', expected 'sender' or 'stage'"

end Origin

/-- A property to animate. Its texts become values when the animation is built, for
only then the property's type is known. -/
structure PropertyTarget where
  name : String
  fromText : Option String
  toText : Option String
deriving DecidableEq, Repr

/-- Actors to animate alike. Without a selector the sender alone is meant. -/
structure Target where
  selector : Option Selector
  origin : Origin
  timeline : Timeline
  properties : List PropertyTarget
deriving DecidableEq, Repr

/-- An animation that a signal sets off. -/
structure Trigger where
  id : String
  sender : Selector
  signal : String
  targets : List Target
  /-- The file that declares the trigger. -/
  file : String
deriving DecidableEq, Repr

namespace Trigger

/-- Underscores, a letter, and then letters, digits, underscores and hyphens. All of
them are ASCII. -/
def isValidId (id : String) : Bool :=
  match id.toList.dropWhile (· == '_') with
  | [] => false
  | c :: rest => c.isAlpha && rest.all fun c => c.isAlphanum || c == '_' || c == '-'

end Trigger

end ThemeMotion
