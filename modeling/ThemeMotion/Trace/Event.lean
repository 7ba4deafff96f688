/-!
# Traces of a computation

A computation may leave notes: events for a log, and requests to the diagnostics,
whose answer depends on what happened before in the process. The value of a
computation never depends on its notes, so a noted computation is a value beside a
list, and what the notes come to is settled by whoever keeps the diagnostics.
-/

namespace ThemeMotion.Trace

/-- How much an event matters. -/
inductive Level where
  | trace
  | debug
  | info
  | warn
  | error
deriving DecidableEq, Repr

/-- The word of a level. -/
def Level.name : Level → String
  | .trace => "trace"
  | .debug => "debug"
  | .info => "info"
  | .warn => "warn"
  | .error => "error"

/-- Something worth a line in a log. -/
structure Event where
  level : Level
  message : String
  /-- Named texts in the order in which they are reported. -/
  fields : List (String × String)
deriving DecidableEq, Repr

/-- The parts of the work that have diagnostics of their own. -/
inductive Category where
  /-- How senders and default values were scored. -/
  | selector
  /-- Which transition groups an animation got. -/
  | animation
  /-- What a theme file contributed. -/
  | parser
deriving DecidableEq, Repr

/-- The name by which a category is enabled. -/
def Category.name : Category → String
  | .selector => "selector"
  | .animation => "animation"
  | .parser => "parser"

/-- What a computation leaves behind beside its value. -/
inductive Note where
  /-- The event happens. -/
  | event (event : Event)
  /-- The event happens when its category is enabled. -/
  | diagnostic (category : Category) (event : Event)
  /-- The categories are to be enabled; the event happens when that is refused. -/
  | enable (categories : String) (refusal : Event)
deriving DecidableEq, Repr

/-- A value and the notes that its computation left, in order. -/
structure Noted (α : Type) where
  value : α
  notes : List Note

namespace Noted

variable {α β : Type}

instance : Monad Noted where
  pure value := ⟨value, []⟩
  bind first next :=
    let second := next first.value
    ⟨second.value, first.notes ++ second.notes⟩

@[simp] theorem value_pure (value : α) : (pure value : Noted α).value = value := rfl

@[simp] theorem notes_pure (value : α) : (pure value : Noted α).notes = [] := rfl

@[simp] theorem value_bind (first : Noted α) (next : α → Noted β) :
    (first >>= next).value = (next first.value).value := rfl

@[simp] theorem notes_bind (first : Noted α) (next : α → Noted β) :
    (first >>= next).notes = first.notes ++ (next first.value).notes := rfl

instance : LawfulMonad Noted :=
  LawfulMonad.mk' Noted (fun _ => by simp [Functor.map]) (fun _ _ => by simp [bind, pure])
    (fun _ _ _ => by simp [bind])

@[simp] theorem value_map (change : α → β) (first : Noted α) :
    (change <$> first).value = change first.value := rfl

@[simp] theorem value_mapM (compute : α → Noted β) (inputs : List α) :
    (inputs.mapM compute).value = inputs.map fun input => (compute input).value := by
  induction inputs with
  | nil => rfl
  | cons input rest inductionHypothesis => simp [List.mapM_cons, inductionHypothesis]

@[simp] theorem value_foldlM (step : β → α → Noted β) (inputs : List α) (start : β) :
    (inputs.foldlM step start).value =
      inputs.foldl (fun state input => (step state input).value) start := by
  induction inputs generalizing start with
  | nil => rfl
  | cons input rest inductionHypothesis => simp [List.foldlM_cons, inductionHypothesis]

/-- What follows a computation matters only at the value that the computation has. -/
theorem bind_congr (first : Noted α) {next other : α → Noted β}
    (same : next first.value = other first.value) : first >>= next = first >>= other := by
  simp only [bind, same]

/-- Leaves one note. -/
def note (note : Note) : Noted Unit := ⟨(), [note]⟩

/-- Reports an event. -/
def report (level : Level) (message : String) (fields : List (String × String)) : Noted Unit :=
  note (.event ⟨level, message, fields⟩)

/-- Reports an event of a diagnostic category. -/
def diagnose (category : Category) (message : String) (fields : List (String × String)) :
    Noted Unit :=
  note (.diagnostic category ⟨.info, message, fields⟩)

end Noted

end ThemeMotion.Trace
