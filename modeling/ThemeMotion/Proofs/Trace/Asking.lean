import ThemeMotion.Proofs.Animation.Gathering
import ThemeMotion.Theme.Load

/-!
# What work asks of the diagnostics

The notes of a computation are events and calls to the diagnostics. A document that is added
asks whether the diagnostics of parsing are enabled, and so does every choice of a trigger for
those of selectors and every group of an animation for its own; loading first requests the
categories that the settings name. Everything else that is noted is an event.

How calls are answered is not described here.
-/

namespace ThemeMotion.Trace

/-- What is asked of the diagnostics. -/
inductive Call where
  | enable (text : String)
  | ask (category : String)
deriving DecidableEq, Repr

/-- The call that a note makes, where it makes one. -/
def Note.call? : Note → Option Call
  | .event _ => none
  | .diagnostic category _ => some (.ask category.name)
  | .enable text _ => some (.enable text)

/-- The calls of notes, in order. -/
def calls (notes : List Note) : List Call := notes.filterMap Note.call?

namespace Noted

variable {α β : Type}

/-- The calls that a computation makes. -/
def calls (computation : Noted α) : List Call := Trace.calls computation.notes

@[simp] theorem calls_pure (value : α) : (pure value : Noted α).calls = [] := rfl

@[simp] theorem calls_bind (first : Noted α) (next : α → Noted β) :
    (first >>= next).calls = first.calls ++ (next first.value).calls := by
  rw [calls, notes_bind, Trace.calls, List.filterMap_append]
  rfl

@[simp] theorem calls_report (level : Level) (message : String) (fields : List (String × String)) :
    (report level message fields).calls = [] := rfl

@[simp] theorem calls_diagnose (category : Category) (message : String)
    (fields : List (String × String)) :
    (diagnose category message fields).calls = [.ask category.name] := rfl

/-- Computations that make no calls make none together. -/
theorem calls_mapM (compute : α → Noted β) (quiet : ∀ input, (compute input).calls = [])
    (inputs : List α) : (inputs.mapM compute).calls = [] := by
  induction inputs with
  | nil => rfl
  | cons input rest inductionHypothesis =>
    rw [List.mapM_cons, calls_bind, calls_bind, quiet, inductionHypothesis]
    rfl

end Noted

section Registry

variable (registry : Registry)

/-- A document that is added asks once, and a refused one does not ask. -/
theorem calls_addText (source name : String) : (registry.addText source name).calls =
    match (registry.addText source name).value.1 with
    | .ok _ => [.ask "parser"]
    | .error _ => [] := by
  unfold Registry.addText
  cases Document.read ⟨name, registry.triggers⟩ source <;> rfl

/-- Every choice of a trigger asks once, whether one is found or not. -/
theorem calls_best? {Node : Type} (tree : StyleTree Node) (sender : Node) (signal : String) :
    (registry.best? tree sender signal).calls = [.ask "selector"] := by
  unfold Registry.best?
  cases bestBy? (Registry.answerScore? tree sender signal) registry.triggers <;> rfl

end Registry

/-- Loading requests the categories of the settings ahead of everything else. -/
theorem calls_loadThemes (settings : Settings) (files : FileSource) :
    (settings.loadThemes files).calls = settings.categories.toList.map Call.enable ++
      (settings.loadPaths files (.empty, .empty) settings.paths).calls := by
  have requested : settings.requestDiagnostics.calls =
      settings.categories.toList.map Call.enable := by
    unfold Settings.requestDiagnostics
    cases settings.categories <;> rfl
  unfold Settings.loadThemes
  rw [Noted.calls_bind, requested, Noted.calls_bind]
  cases (settings.loadPaths files (.empty, .empty) settings.paths).value with
  | error failure => rw [Noted.calls_pure, List.append_nil]
  | ok loaded =>
    refine congrArg (_ ++ ·) ?_
    exact List.append_nil _

section Animation

variable {Node : Type} [DecidableEq Node] (tree : ActorTree Node) (sender : Node)

/-- The values of a slot are found without a call. -/
theorem calls_given? (slot : Slot Node) (text : Option String) (defaults : List DefaultValue) :
    (slot.given? tree sender text defaults).calls = [] := by
  have explicit : (slot.explicit? text).calls = [] := by
    unfold Slot.explicit?
    cases text with
    | none => rfl
    | some text =>
      dsimp only
      cases coerce text slot.type <;> rfl
  have default : (slot.default? tree sender defaults).calls = [] := by
    unfold Slot.default?
    cases slot.bestDefault? tree sender defaults with
    | none => rfl
    | some entry =>
      dsimp only
      cases entry.value.transform? slot.type <;> rfl
  unfold Slot.given?
  rw [Noted.calls_bind, explicit, List.nil_append]
  cases (slot.explicit? text).value with
  | none => exact default
  | some value => rfl

/-- A transition is made without a call. -/
theorem calls_transition? (property : PropertyTarget) (actor : Node) (timeline : Timeline)
    (defaults : Defaults) :
    (property.transition? tree sender actor timeline defaults).calls = [] := by
  unfold PropertyTarget.transition?
  cases tree.propertyType? actor property.name with
  | none => rfl
  | some type =>
    let slot : Slot Node := ⟨actor, property.name, type⟩
    have start : (slot.start? tree sender property.fromText defaults.initial).calls = [] := by
      unfold Slot.start?
      rw [Noted.calls_bind, calls_given?, List.nil_append]
      cases (slot.given? tree sender property.fromText defaults.initial).value <;> rfl
    show (slot.start? tree sender property.fromText defaults.initial >>= _).calls = []
    rw [Noted.calls_bind, start, List.nil_append]
    cases (slot.start? tree sender property.fromText defaults.initial).value with
    | none => rfl
    | some value =>
      show (slot.given? tree sender property.toText defaults.final >>= _).calls = []
      rw [Noted.calls_bind, calls_given?]
      rfl

/-- The targets of a trigger are visited without a call. -/
theorem calls_visits (trigger : Trigger) (defaults : Defaults) :
    (trigger.visits tree sender defaults).calls = [] := by
  have visit (target : Target) (actor : Node) :
      (target.visit tree sender defaults actor).calls = [] := by
    unfold Target.visit
    rw [Noted.calls_bind, Noted.calls_mapM _ fun property =>
      calls_transition? tree sender property actor target.timeline defaults]
    rfl
  have visits (target : Target) : (target.visits tree sender defaults).calls = [] := by
    have resolved : (target.resolve tree sender).calls = [] := by
      unfold Target.resolve
      cases target.selector <;> rfl
    unfold Target.visits
    rw [Noted.calls_bind, resolved, Noted.calls_mapM _ (visit target)]
    rfl
  unfold Trigger.visits
  rw [Noted.calls_bind, Noted.calls_mapM _ visits]
  rfl

/-- Attaching shares asks once for each that is not empty. -/
theorem calls_attachShares (shares : List (Share Node)) (animation : Animation Node) :
    (shares.foldlM (fun (state : Animation Node) share => state.attachShare tree share)
        animation).calls =
      List.replicate (shares.filter (·.2 ≠ [])).length (Call.ask "animation") := by
  induction shares generalizing animation with
  | nil => rfl
  | cons share rest inductionHypothesis =>
    rw [List.foldlM_cons, Noted.calls_bind, inductionHypothesis]
    obtain ⟨actor, transitions⟩ := share
    cases transitions with
    | nil => rfl
    | cons first others => exact List.replicate_succ.symm

/-- An animation asks once for each of its groups. -/
theorem calls_animation (trigger : Trigger) (defaults : Defaults) :
    (trigger.animation tree sender defaults).calls = List.replicate
      (trigger.animation tree sender defaults).value.size (Call.ask "animation") := by
  have apart : ((Share.gather (trigger.visits tree sender defaults).value).map Prod.fst).Nodup := by
    rw [Share.gather_eq, Share.sorted, List.map_map]
    exact (List.map_id _).symm ▸ eraseDups_nodup _
  have groups := Animation.attachShare_groups tree _ (Animation.empty trigger.id) apart
    fun _ _ => List.not_mem_nil
  unfold Trigger.animation
  rw [Noted.calls_bind, calls_visits, calls_attachShares, Noted.value_bind, Noted.value_foldlM,
    groups, Animation.size, Animation.empty, List.nil_append, List.nil_append, List.length_map]

end Animation

end ThemeMotion.Trace
