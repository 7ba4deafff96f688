import ThemeMotion.Text.Fields
import ThemeMotion.Trace.Event

/-!
# Diagnostics

Diagnostic categories are fixed once in a process: by the first request to enable
some, or else by the first question whether one is enabled, which takes them from
the environment. Every later request is refused, and every answer follows the set
that was fixed.
-/

namespace ThemeMotion.Trace

/-- The state of the diagnostics of a process. -/
structure Diagnostics where
  /-- The categories that the environment asks for, as a text. -/
  environment : String
  /-- The categories, once they are fixed. -/
  fixed : Option (List String)
deriving DecidableEq, Repr

namespace Diagnostics

/-- The diagnostics at the start of a process. -/
def unset (environment : String) : Diagnostics := ⟨environment, none⟩

/-- The diagnostics of a process in which nothing is enabled for good. -/
def silent : Diagnostics := ⟨"", some []⟩

/-- The categories that a text lists between commas. Blanks around them and the case
of ASCII letters do not matter, and empty entries count for nothing. -/
def categories (text : String) : List String :=
  (((Text.fields ',' text.toList).map fun field => Text.lower (Text.trim field)).filter
    (!·.isEmpty)).map String.ofList

/-- The name that enables every category. -/
def everything : String := "all"

/-- A set of categories covers a category that it holds, or every one. -/
def covers (enabled : List String) (category : String) : Bool :=
  enabled.contains everything ||
    enabled.contains (String.ofList (Text.lower category.toList))

/-- Asks for categories; the answer tells whether they are now the fixed ones. -/
def enable (diagnostics : Diagnostics) (text : String) : Bool × Diagnostics :=
  match diagnostics.fixed with
  | none => (true, { diagnostics with fixed := some (categories text) })
  | some _ => (false, diagnostics)

/-- Asks whether a category is enabled. -/
def isEnabled (diagnostics : Diagnostics) (category : String) : Bool × Diagnostics :=
  match diagnostics.fixed with
  | none =>
    let enabled := categories diagnostics.environment
    (covers enabled category, { diagnostics with fixed := some enabled })
  | some enabled => (covers enabled category, diagnostics)

/-- The events that a note comes to. -/
def take (diagnostics : Diagnostics) : Note → List Event × Diagnostics
  | .event event => ([event], diagnostics)
  | .diagnostic category event =>
    let (enabled, next) := diagnostics.isEnabled category.name
    (if enabled then [event] else [], next)
  | .enable text refusal =>
    let (accepted, next) := diagnostics.enable text
    (if accepted then [] else [refusal], next)

/-- The events that notes come to, in order. -/
def takeAll (diagnostics : Diagnostics) : List Note → List Event × Diagnostics
  | [] => ([], diagnostics)
  | note :: rest =>
    let (events, next) := diagnostics.take note
    let (others, last) := next.takeAll rest
    (events ++ others, last)

end Diagnostics

end ThemeMotion.Trace
