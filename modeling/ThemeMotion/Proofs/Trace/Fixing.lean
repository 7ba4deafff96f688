import ThemeMotion.Proofs.Trace.Asking
import ThemeMotion.Trace.Diagnostics

/-!
# Categories are fixed once

A process asks its diagnostics to enable categories, and asks whether a category is enabled. It
does so itself, and the work that it has done asks as well, between the events that are reported.
Whatever the calls are, the first of them fixes the categories for good: nothing that a later
call asks for has an effect, and every answer, the first one included, follows the set that was
fixed then (`answerAll_unset`).

The environment is a text that does not change while the process runs.
-/

namespace ThemeMotion.Trace

/-- What a process does: it calls its diagnostics, or it has work done that leaves notes. -/
inductive Activity where
  | direct (call : Call)
  | work (notes : List Note)

/-- The calls of an activity, those within the work included. -/
def Activity.calls : Activity → List Call
  | .direct call => [call]
  | .work notes => Trace.calls notes

/-- The events that notes come to, when the calls among them have the given answers. -/
def logged : List Note → List Bool → List Event
  | .event event :: rest, answers => event :: logged rest answers
  | .diagnostic _ event :: rest, answer :: answers =>
    (if answer then [event] else []) ++ logged rest answers
  | .enable _ refusal :: rest, answer :: answers =>
    (if answer then [] else [refusal]) ++ logged rest answers
  | _, _ => []

namespace Diagnostics

/-- The answer to a call, and the diagnostics then. -/
def answer (diagnostics : Diagnostics) : Call → Bool × Diagnostics
  | .enable text => diagnostics.enable text
  | .ask category => diagnostics.isEnabled category

/-- Calls with their answers, when they are made one after the other. -/
def answerAll (diagnostics : Diagnostics) : List Call → List (Call × Bool)
  | [] => []
  | call :: rest =>
    (call, (diagnostics.answer call).1) :: (diagnostics.answer call).2.answerAll rest

/-- The calls of notes with their answers, when the notes are taken one after the other. -/
def answerNotes (diagnostics : Diagnostics) : List Note → List (Call × Bool)
  | [] => []
  | note :: rest =>
    (note.call?.map fun call => (call, (diagnostics.answer call).1)).toList ++
      (diagnostics.take note).2.answerNotes rest

/-- All calls of a process with their answers, in the order in which they are made. -/
def history (diagnostics : Diagnostics) : List Activity → List (Call × Bool)
  | [] => []
  | .direct call :: rest =>
    (call, (diagnostics.answer call).1) :: (diagnostics.answer call).2.history rest
  | .work notes :: rest =>
    diagnostics.answerNotes notes ++ (diagnostics.takeAll notes).2.history rest

/-- The diagnostics after calls. -/
def afterCalls (diagnostics : Diagnostics) (made : List Call) : Diagnostics :=
  made.foldl (fun present call => (present.answer call).2) diagnostics

section Calls

variable (diagnostics : Diagnostics)

/-- Taking a note makes its call, and nothing else bears on the diagnostics. -/
theorem take_next (note : Note) :
    (diagnostics.take note).2 = diagnostics.afterCalls note.call?.toList := by
  cases note <;> rfl

/-- Taking notes makes their calls. -/
theorem takeAll_next (notes : List Note) :
    (diagnostics.takeAll notes).2 = diagnostics.afterCalls (calls notes) := by
  induction notes generalizing diagnostics with
  | nil => rfl
  | cons note rest inductionHypothesis =>
    rw [takeAll, inductionHypothesis, take_next, calls, calls, List.filterMap_cons]
    cases note.call? <;> rfl

/-- The calls of notes are answered as if they were made by themselves. -/
theorem answerNotes_eq (notes : List Note) :
    diagnostics.answerNotes notes = diagnostics.answerAll (calls notes) := by
  induction notes generalizing diagnostics with
  | nil => rfl
  | cons note rest inductionHypothesis =>
    rw [answerNotes, inductionHypothesis, take_next, calls, calls, List.filterMap_cons]
    cases note.call? <;> rfl

/-- The events that notes come to follow the answers to their calls. -/
theorem takeAll_logged (notes : List Note) : (diagnostics.takeAll notes).1 =
    logged notes ((diagnostics.answerNotes notes).map Prod.snd) := by
  induction notes generalizing diagnostics with
  | nil => rfl
  | cons note rest inductionHypothesis =>
    have joined : (diagnostics.takeAll (note :: rest)).1 =
        (diagnostics.take note).1 ++ ((diagnostics.take note).2.takeAll rest).1 := rfl
    rw [joined, inductionHypothesis]
    cases note <;> rfl

/-- Calls that are made in two runs are answered one run after the other. -/
theorem answerAll_append (first second : List Call) :
    diagnostics.answerAll (first ++ second) =
      diagnostics.answerAll first ++ (diagnostics.afterCalls first).answerAll second := by
  induction first generalizing diagnostics with
  | nil => rfl
  | cons call rest inductionHypothesis =>
    rw [List.cons_append, answerAll, answerAll, inductionHypothesis]
    rfl

/-- Activities are answered as their calls are, whoever makes them. -/
theorem history_eq (activities : List Activity) : diagnostics.history activities =
    diagnostics.answerAll (activities.flatMap Activity.calls) := by
  induction activities generalizing diagnostics with
  | nil => rfl
  | cons activity rest inductionHypothesis =>
    rw [List.flatMap_cons, answerAll_append]
    cases activity with
    | direct call =>
      rw [history, inductionHypothesis]
      rfl
    | work notes =>
      rw [history, inductionHypothesis, answerNotes_eq, takeAll_next, Activity.calls]

/-- Every call has an answer. -/
theorem answerAll_calls (made : List Call) : (diagnostics.answerAll made).map Prod.fst = made := by
  induction made generalizing diagnostics with
  | nil => rfl
  | cons call rest inductionHypothesis => rw [answerAll, List.map_cons, inductionHypothesis]

end Calls

/-- The text that names the categories when calls are made from the start: the one with which the
first call enables them, or else that of the environment. -/
def settledText (environment : String) : List Call → String
  | .enable text :: _ => text
  | _ => environment

/-- The answer to a call under fixed categories. Categories are enabled by the first call alone. -/
def answerUnder (enabled : List String) (isFirst : Bool) : Call → Bool
  | .enable _ => isFirst
  | .ask category => covers enabled category

/-- Once categories are fixed, calls are answered by them and change nothing. -/
theorem answerAll_fixed (environment : String) (enabled : List String) (made : List Call) :
    (Diagnostics.mk environment (some enabled)).answerAll made =
      made.map fun call => (call, answerUnder enabled false call) := by
  induction made with
  | nil => rfl
  | cons call rest inductionHypothesis =>
    have kept : (Diagnostics.mk environment (some enabled)).answer call =
        (answerUnder enabled false call, ⟨environment, some enabled⟩) := by
      cases call <;> rfl
    rw [answerAll, kept, inductionHypothesis, List.map_cons]

/-- The first call fixes the categories, and all calls are answered by them. -/
theorem answerAll_unset (environment : String) (first : Call) (rest : List Call) :
    let enabled := categories (settledText environment (first :: rest))
    (unset environment).answerAll (first :: rest) =
      (first, answerUnder enabled true first) ::
        rest.map fun call => (call, answerUnder enabled false call) := by
  intro enabled
  have fixed : (unset environment).answer first =
      (answerUnder enabled true first, ⟨environment, some enabled⟩) := by
    cases first <;> rfl
  rw [answerAll, fixed, answerAll_fixed]

/-- What a call is answered depends on its place and on the categories that were fixed first. -/
theorem answerAll_position (environment : String) (made : List Call) (position : Nat) (call : Call)
    (answered : Bool)
    (present : ((unset environment).answerAll made)[position]? = some (call, answered)) :
    answered = answerUnder (categories (settledText environment made)) (position == 0) call := by
  cases made with
  | nil => cases present
  | cons first rest =>
    rw [answerAll_unset] at present
    cases position with
    | zero =>
      cases present
      rfl
    | succ position =>
      rw [List.getElem?_cons_succ, List.getElem?_map, Option.map_eq_some_iff] at present
      obtain ⟨later, _, same⟩ := present
      cases same
      rfl

/-- A text lists a category between its commas. Blanks around an entry and the case of ASCII
letters do not matter, and an empty entry is none. -/
def Lists (text category : String) : Prop :=
  ∃ entry ∈ Text.fields ',' text.toList, Text.trim entry ≠ [] ∧
    Text.lower (Text.trim entry) = Text.lower category.toList

/-- The categories of a text are those that it lists. -/
theorem mem_categories_iff (text category : String) :
    String.ofList (Text.lower category.toList) ∈ categories text ↔ Lists text category := by
  simp only [categories, List.mem_map, List.mem_filter]
  constructor
  · rintro ⟨lowered, ⟨⟨entry, member, rfl⟩, filled⟩, same⟩
    refine ⟨entry, member, ?_, String.ofList_injective same⟩
    intro empty
    rw [empty] at filled
    exact absurd filled (by decide)
  · rintro ⟨entry, member, filled, same⟩
    refine ⟨_, ⟨⟨entry, member, rfl⟩, ?_⟩, congrArg String.ofList same⟩
    simpa [Text.lower] using filled

/-- Fixed categories cover those that their text lists, and every one when it lists all. -/
theorem covers_iff (text category : String) :
    covers (categories text) category = true ↔ Lists text "all" ∨ Lists text category := by
  have every : String.ofList (Text.lower "all".toList) = everything := by decide
  rw [covers, Bool.or_eq_true, List.contains_iff_mem, List.contains_iff_mem, mem_categories_iff,
    ← mem_categories_iff text "all", every]

end Diagnostics

open Diagnostics in
/-- Categories are fixed once in a process, whatever the process does itself, whatever work it has
done, and whatever the environment asks for. The calls that are answered are those of all
activities, in order. To enable categories succeeds exactly when it is the very first call. Every
question is answered by the one set that the first call fixes, which is the enabled text when that
call enables one and the environment otherwise: a category is enabled when it is listed there, or
when all are.

Work takes part by the calls among its notes, and reports what their answers say. A document that
is added asks for the category of parsing, a choice of a trigger for that of selectors, and an
animation for its own as often as it has groups; the settings of themes enable what they name
before anything is loaded. -/
theorem categories_fixed_once (environment : String) (activities : List Activity) :
    let history := (unset environment).history activities
    let settled := settledText environment (activities.flatMap Activity.calls)
    (history.map Prod.fst = activities.flatMap Activity.calls ∧
      (∀ (position : Nat) text answered, history[position]? = some (.enable text, answered) →
        (answered = true ↔ position = 0)) ∧
      ∀ (position : Nat) category answered, history[position]? = some (.ask category, answered) →
        (answered = true ↔ Lists settled "all" ∨ Lists settled category)) ∧
    (∀ (diagnostics : Diagnostics) (notes : List Note),
      (diagnostics.takeAll notes).1 =
        logged notes ((diagnostics.answerNotes notes).map Prod.snd)) ∧
    (∀ (registry : Registry) (source name : String),
      calls (registry.addText source name).notes =
        match (registry.addText source name).value.1 with
        | .ok _ => [.ask "parser"]
        | .error _ => []) ∧
    (∀ {Node : Type} (registry : Registry) (tree : StyleTree Node) (sender : Node)
      (signal : String), calls (registry.best? tree sender signal).notes = [Call.ask "selector"]) ∧
    (∀ {Node : Type} [DecidableEq Node] (trigger : Trigger) (tree : ActorTree Node)
      (sender : Node) (defaults : Defaults), calls (trigger.animation tree sender defaults).notes =
        List.replicate (trigger.animation tree sender defaults).value.size
          (Call.ask "animation")) ∧
    ∀ (settings : Settings) (files : FileSource), calls (settings.loadThemes files).notes =
      settings.categories.toList.map Call.enable ++
        calls (settings.loadPaths files (.empty, .empty) settings.paths).notes := by
  intro history settled
  have known : history = (unset environment).answerAll (activities.flatMap Activity.calls) :=
    history_eq _ activities
  refine ⟨⟨?_, ?_, ?_⟩, takeAll_logged, calls_addText, ?_, ?_, calls_loadThemes⟩
  · rw [known, answerAll_calls]
  · intro position text answered present
    rw [known] at present
    rw [answerAll_position environment _ position _ answered present]
    exact beq_iff_eq
  · intro position category answered present
    rw [known] at present
    rw [answerAll_position environment _ position _ answered present]
    exact covers_iff settled category
  · intro Node registry tree sender signal
    exact calls_best? registry tree sender signal
  · intro Node _ trigger tree sender defaults
    exact calls_animation tree sender trigger defaults

/-- Work asks first and so fixes what the environment names; a later request for all categories is
refused and changes no answer. -/
theorem work_fixes_environment :
    let activities := [.work [.diagnostic .selector ⟨.info, "chosen", []⟩],
      .direct (.enable "all"), .direct (.ask "PARSER")]
    let history := (Diagnostics.unset "selector, Parser").history activities
    history[1]? = some (.enable "all", false) ∧ (false = true ↔ 1 = 0) ∧
    history[2]? = some (.ask "PARSER", true) ∧
    (true = true ↔ Diagnostics.Lists "selector, Parser" "all" ∨
      Diagnostics.Lists "selector, Parser" "PARSER") := by
  intro activities history
  have refused : history[1]? = some (.enable "all", false) := by decide
  have answered : history[2]? = some (.ask "PARSER", true) := by decide
  obtain ⟨⟨_, enabled, asked⟩, _⟩ := categories_fixed_once "selector, Parser" activities
  exact ⟨refused, enabled 1 "all" false refused, answered, asked 2 "PARSER" true answered⟩

end ThemeMotion.Trace
