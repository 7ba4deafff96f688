import Mathlib.Data.List.Basic
import ThemeMotion.Proofs.Animation.Repeating
import ThemeMotion.Proofs.Stage.Walking

/-!
# What defaults can change

The host gives fallback values in two lists, one for starts and one for ends, and the actors
of a tree have values of their own. Each of the three can change no more than it is for.
The list for ends decides about ends alone: actors, groups, properties, types, starts and
timelines are the same without it. The entries for a property decide about that property
alone, although a property without a start is left out and an actor without transitions has
no group. And where the text of a start is admitted, neither the list for starts nor the
values of actors have a part in the transition.

Two builds are compared in each case. How the entries of a list are ranked is taken as it is.
-/

namespace ThemeMotion

variable {Node : Type} [DecidableEq Node]

/-- The entries of a list of defaults that are meant for a property. -/
def entriesFor (property : String) (defaults : List DefaultValue) : List DefaultValue :=
  defaults.filter (·.property == property)

namespace Slot

variable (slot : Slot Node) (tree : ActorTree Node) (sender : Node) (text : Option String)

/-- Only the entries for its property decide which value a slot is given. -/
theorem given?_entries {first second : List DefaultValue}
    (same : entriesFor slot.property first = entriesFor slot.property second) :
    slot.given? tree sender text first = slot.given? tree sender text second := by
  have best : slot.bestDefault? tree sender first = slot.bestDefault? tree sender second := by
    unfold entriesFor at same
    unfold bestDefault?
    rw [same]
  unfold given? default?
  rw [best]

/-- Only the entries for its property decide where a slot starts. -/
theorem start?_entries {first second : List DefaultValue}
    (same : entriesFor slot.property first = entriesFor slot.property second) :
    slot.start? tree sender text first = slot.start? tree sender text second := by
  unfold start?
  rw [slot.given?_entries tree sender text same]

/-- A text that the type admits is where a slot starts. -/
theorem start?_written {written : String} {value : Value}
    (admitted : coerce written slot.type = .ok value) (defaults : List DefaultValue) :
    (slot.start? tree sender (some written) defaults).value = some value := by
  have explicit : (slot.explicit? (some written)).value = some value := by
    unfold explicit?
    simp only [admitted]
    rfl
  simp only [start?, given?, Trace.Noted.value_bind, explicit, Trace.Noted.value_pure]

end Slot

/-- A transition without its end. -/
def Transition.opened (transition : Transition) : Transition := { transition with finish := none }

/-- The value that the text of an element's own start gives at an actor. -/
def PropertyTarget.written? (property : PropertyTarget) (tree : ActorTree Node) (actor : Node) :
    Option Value := do
  let type ← tree.propertyType? actor property.name
  let text ← property.fromText
  (coerce text type).toOption

/-- A tree of actors with other values. -/
def ActorTree.withValues (tree : ActorTree Node) (values : Node → String → Option Value) :
    ActorTree Node :=
  { tree with property? := values }

namespace PropertyTarget

variable (property : PropertyTarget) (tree : ActorTree Node) (sender actor : Node)
  (timeline : Timeline)

/-- An element gives a transition where the actor has the property and there is a start. -/
theorem transition?_value (defaults : Defaults) :
    (property.transition? tree sender actor timeline defaults).value =
      (tree.propertyType? actor property.name).bind fun type =>
        let slot : Slot Node := ⟨actor, property.name, type⟩
        (slot.start? tree sender property.fromText defaults.initial).value.map fun start =>
          ⟨property.name, type, start,
            (slot.given? tree sender property.toText defaults.final).value, timeline⟩ := by
  unfold transition?
  cases tree.propertyType? actor property.name with
  | none => rfl
  | some type =>
    simp only [Trace.Noted.value_bind, Option.bind_some]
    split
    · next missing => rw [missing]; rfl
    · next start found => rw [found]; rfl

/-- The list for ends decides about nothing but the end of a transition. -/
theorem transition?_opened (initial final other : List DefaultValue) :
    (property.transition? tree sender actor timeline ⟨initial, final⟩).value.map Transition.opened =
      (property.transition? tree sender actor timeline ⟨initial, other⟩).value.map
        Transition.opened := by
  simp only [transition?_value, Option.map_bind, Function.comp_def, Option.map_map,
    Transition.opened]

/-- Only the entries for its property decide about a transition. -/
theorem transition?_entries {defaults other : Defaults}
    (initial : entriesFor property.name defaults.initial = entriesFor property.name other.initial)
    (final : entriesFor property.name defaults.final = entriesFor property.name other.final) :
    (property.transition? tree sender actor timeline defaults).value =
      (property.transition? tree sender actor timeline other).value := by
  rw [transition?_value, transition?_value]
  congr 1
  funext type
  let slot : Slot Node := ⟨actor, property.name, type⟩
  show (slot.start? tree sender _ _).value.map (fun start => Transition.mk _ _ start
    (slot.given? tree sender _ _).value _) = _
  rw [slot.start?_entries tree sender property.fromText initial,
    slot.given?_entries tree sender property.toText final]

/-- An element whose own text gives its start has one transition, whatever the list for
starts and the values of the actors are. -/
theorem transition?_written {value : Value} (written : property.written? tree actor = some value)
    (final : List DefaultValue) :
    ∃ transition, transition.property = property.name ∧ transition.start = value ∧
      ∀ initial values,
        (property.transition? (tree.withValues values) sender actor timeline
          ⟨initial, final⟩).value = some transition := by
  obtain ⟨type, declared, written⟩ := Option.bind_eq_some_iff.mp written
  obtain ⟨text, given, admitted⟩ := Option.bind_eq_some_iff.mp written
  have admitted : coerce text type = .ok value := by
    cases read : coerce text type with
    | error refusal =>
      rw [read] at admitted
      cases admitted
    | ok other =>
      rw [read] at admitted
      exact congrArg _ (Option.some.inj admitted)
  let slot : Slot Node := ⟨actor, property.name, type⟩
  refine ⟨⟨property.name, type, value, (slot.given? tree sender property.toText final).value,
    timeline⟩, rfl, rfl, ?_⟩
  intro initial values
  have started := slot.start?_written (tree.withValues values) sender admitted initial
  have unchanged : (tree.withValues values).propertyType? actor property.name = some type := declared
  rw [transition?_value, unchanged, given, Option.bind_some]
  show (slot.start? _ _ _ _).value.map _ = _
  rw [started]
  rfl

end PropertyTarget

section Resolving

variable (tree : ActorTree Node) (values : Node → String → Option Value)

omit [DecidableEq Node] in
/-- A walk visits actors whatever values they have. -/
theorem ActorTree.walk_withValues (keep : Node → Bool) (pending : List Node) :
    (tree.withValues values).walk keep pending = tree.walk keep pending := by
  fun_induction tree.walk keep pending with
  | case1 => rw [walk]
  | case2 node pending others kept inductionHypothesis =>
    rw [walk, if_pos kept]
    exact congrArg (node :: ·) inductionHypothesis
  | case3 node pending others passed inductionHypothesis =>
    rw [walk, if_neg passed]
    exact inductionHypothesis

omit [DecidableEq Node] in
/-- A target has the same actors whatever values they have. -/
theorem Target.resolve_withValues (target : Target) (sender : Node) :
    (target.resolve (tree.withValues values) sender).value = (target.resolve tree sender).value := by
  cases selecting : target.selector with
  | none =>
    unfold resolve
    rw [selecting]
  | some selector =>
    rw [target.resolve_selector _ sender selecting, target.resolve_selector _ sender selecting]
    exact tree.walk_withValues values _ _

/-- The same elements reach an actor whatever values the actors have. -/
theorem Trigger.reaching_withValues (trigger : Trigger) (sender actor : Node) :
    trigger.reaching (tree.withValues values) sender actor = trigger.reaching tree sender actor := by
  simp only [reaching, Target.resolve_withValues]

end Resolving

/-- The transitions of an actor in an animation; none without a group. -/
def Animation.transitionsOf (animation : Animation Node) (actor : Node) : List Transition :=
  ((animation.group? actor).map (·.transitions)).getD []

/-- The transitions of a name are those of the elements of that name. -/
theorem transitions_named (tree : ActorTree Node) (sender actor : Node) (defaults : Defaults)
    (elements : List (Target × PropertyTarget)) (name : String) :
    (elements.filterMap fun element =>
        (element.2.transition? tree sender actor element.1.timeline defaults).value).filter
          (·.property = name) =
      (elements.filter (·.2.name = name)).filterMap fun element =>
        (element.2.transition? tree sender actor element.1.timeline defaults).value := by
  induction elements with
  | nil => rfl
  | cons element rest inductionHypothesis =>
    have named := element.2.transition?_named tree sender actor defaults element.1.timeline
    cases made : (element.2.transition? tree sender actor element.1.timeline defaults).value with
    | none =>
      rw [List.filterMap_cons, made, inductionHypothesis, List.filter_cons]
      split
      · rw [List.filterMap_cons, made]
      · rfl
    | some transition =>
      rw [made] at named
      have same : transition.property = element.2.name := by
        obtain ⟨_, _, same⟩ := Option.map_eq_some_iff.mp named.symm
        exact same.symm
      rw [List.filterMap_cons, made, List.filter_cons, List.filter_cons, same, inductionHypothesis]
      split
      · rw [List.filterMap_cons, made]
      · rfl

namespace Trigger

variable (trigger : Trigger) (tree : ActorTree Node) (sender actor : Node) (defaults : Defaults)

/-- The moves of an actor are the transitions of the elements that reach it. -/
theorem movesOf_reaching : movesOf actor (trigger.moves tree sender defaults) =
    (trigger.reaching tree sender actor).filterMap fun element =>
      (element.2.transition? tree sender actor element.1.timeline defaults).value := by
  rw [movesOf_eq_contributions, contributions_reaching]

/-- The transitions of an actor in an animation are its moves. Without moves there is no group;
with moves the actor has been resolved and has one. -/
theorem animation_transitionsOf : (trigger.animation tree sender defaults).value.transitionsOf actor =
    movesOf actor (trigger.moves tree sender defaults) := by
  rw [animation_value]
  unfold Animation.transitionsOf Animation.group?
  by_cases moved : movesOf actor (trigger.moves tree sender defaults) = []
  · rw [List.lookup_eq_none_iff.mpr]
    · exact moved.symm
    · intro entry member
      obtain ⟨other, kept, rfl⟩ := List.mem_map.mp member
      have differs : movesOf other (trigger.moves tree sender defaults) ≠ [] := by
        simpa using (List.mem_filter.mp kept).2
      rw [bne_iff_ne]
      rintro rfl
      exact differs moved
  · have reached := trigger.moved_resolved tree sender defaults actor
      ((movesOf_ne_nil_iff actor _).mp moved)
    rw [List.lookup_graph]
    · rfl
    · rw [List.mem_filter, List.mem_eraseDups]
      exact ⟨reached, by simpa using moved⟩

/-- Without their ends, the moves of an actor do not depend on the list for ends. -/
theorem movesOf_opened (initial final other : List DefaultValue) :
    (movesOf actor (trigger.moves tree sender ⟨initial, final⟩)).map Transition.opened =
      (movesOf actor (trigger.moves tree sender ⟨initial, other⟩)).map Transition.opened := by
  rw [movesOf_reaching, movesOf_reaching, List.map_filterMap, List.map_filterMap]
  congr 1
  funext element
  exact element.2.transition?_opened tree sender actor element.1.timeline initial final other

omit [DecidableEq Node] in
/-- The timeline of a group does not depend on the ends of its transitions. -/
theorem group_opened {first second : List Transition}
    (same : first.map Transition.opened = second.map Transition.opened) :
    (TransitionGroup.ofTransitions first).timeline =
      (TransitionGroup.ofTransitions second).timeline := by
  have timelines (transitions : List Transition) :
      transitions.map (·.timeline) = (transitions.map Transition.opened).map (·.timeline) := by
    rw [List.map_map]
    rfl
  simp only [TransitionGroup.ofTransitions_timeline]
  rw [timelines, same, ← timelines]

/-- Without the ends of transitions, the groups of an animation do not depend on the list for
ends. -/
theorem groups_opened (initial final other : List DefaultValue) :
    let content := fun (entry : Node × TransitionGroup) =>
      (entry.1, entry.2.transitions.map Transition.opened, entry.2.timeline)
    (trigger.animation tree sender ⟨initial, final⟩).value.groups.map content =
      (trigger.animation tree sender ⟨initial, other⟩).value.groups.map content := by
  intro content
  have opened (actor : Node) := trigger.movesOf_opened tree sender actor initial final other
  have moved (actor : Node) : movesOf actor (trigger.moves tree sender ⟨initial, final⟩) = [] ↔
      movesOf actor (trigger.moves tree sender ⟨initial, other⟩) = [] := by
    rw [← List.map_eq_nil_iff, opened, List.map_eq_nil_iff]
  rw [animation_value, animation_value, List.map_map, List.map_map]
  simp only [ne_eq, moved]
  refine List.map_congr_left fun actor _ => ?_
  simp only [content, Function.comp_apply, TransitionGroup.ofTransitions_transitions, opened actor,
    group_opened (opened actor)]

/-- The transitions that an actor has for a property stem from the elements of its name. -/
theorem animation_named (name : String) :
    ((trigger.animation tree sender defaults).value.transitionsOf actor).filter
        (·.property = name) =
      ((trigger.reaching tree sender actor).filter (·.2.name = name)).filterMap fun element =>
        (element.2.transition? tree sender actor element.1.timeline defaults).value := by
  rw [animation_transitionsOf, movesOf_reaching, transitions_named]

/-- Two builds of an animation differ only as far as the defaults have a part in it.

With other defaults for ends, the animation has the same groups for the same actors in the
same order, under the same timelines, and position by position the same transitions but for
their ends. With other defaults whose entries for one property are the same, every actor has
the same transitions for this property. And an element whose own text gives its start at an
actor that it reaches has one transition, which the actor has with any defaults for starts
and any values of the actors; where all elements of a name are of this kind, the actor has
the same transitions for the property with any of these. -/
theorem defaults_influence :
    (∀ initial final other : List DefaultValue,
      let content := fun (entry : Node × TransitionGroup) =>
        (entry.1, entry.2.transitions.map Transition.opened, entry.2.timeline)
      let animation := (trigger.animation tree sender ⟨initial, final⟩).value
      let another := (trigger.animation tree sender ⟨initial, other⟩).value
      animation.id = another.id ∧
        animation.groups.map content = another.groups.map content) ∧
    (∀ (defaults other : Defaults) (name : String),
      entriesFor name defaults.initial = entriesFor name other.initial →
      entriesFor name defaults.final = entriesFor name other.final →
      ∀ actor,
        ((trigger.animation tree sender defaults).value.transitionsOf actor).filter
            (·.property = name) =
          ((trigger.animation tree sender other).value.transitionsOf actor).filter
            (·.property = name)) ∧
    (∀ (final : List DefaultValue) (actor : Node),
      ∀ element ∈ trigger.reaching tree sender actor,
        ∀ value, element.2.written? tree actor = some value →
          ∃ transition, transition.property = element.2.name ∧ transition.start = value ∧
            ∀ initial values,
              (element.2.transition? (tree.withValues values) sender actor element.1.timeline
                ⟨initial, final⟩).value = some transition ∧
              transition ∈ (trigger.animation (tree.withValues values) sender
                ⟨initial, final⟩).value.transitionsOf actor) ∧
    ∀ (final : List DefaultValue) (actor : Node) (name : String),
      (∀ element ∈ trigger.reaching tree sender actor, element.2.name = name →
        (element.2.written? tree actor).isSome) →
      ∀ initial other values changed,
        ((trigger.animation (tree.withValues values) sender
            ⟨initial, final⟩).value.transitionsOf actor).filter (·.property = name) =
          ((trigger.animation (tree.withValues changed) sender
            ⟨other, final⟩).value.transitionsOf actor).filter (·.property = name) := by
  refine ⟨?_, ?_, ?_, ?_⟩
  · intro initial final other
    refine ⟨?_, trigger.groups_opened tree sender initial final other⟩
    rw [animation_value, animation_value]
  · intro defaults other name initial final actor
    rw [animation_named, animation_named]
    refine List.filterMap_congr fun element member => ?_
    obtain rfl : element.2.name = name := of_decide_eq_true (List.mem_filter.mp member).2
    exact element.2.transition?_entries tree sender actor element.1.timeline initial final
  · intro final actor element reaches value written
    obtain ⟨transition, named, starts, made⟩ :=
      element.2.transition?_written tree sender actor element.1.timeline written final
    refine ⟨transition, named, starts, fun initial values => ⟨made initial values, ?_⟩⟩
    rw [animation_transitionsOf, movesOf_reaching, reaching_withValues]
    exact List.mem_filterMap.mpr ⟨element, reaches, made initial values⟩
  · intro final actor name written initial other values changed
    rw [animation_named, animation_named, reaching_withValues, reaching_withValues]
    refine List.filterMap_congr fun element member => ?_
    obtain ⟨reaches, named⟩ := List.mem_filter.mp member
    obtain ⟨value, given⟩ :=
      Option.isSome_iff_exists.mp (written element reaches (of_decide_eq_true named))
    obtain ⟨transition, _, _, made⟩ :=
      element.2.transition?_written tree sender actor element.1.timeline given final
    rw [made initial values, made other changed]

end Trigger

/-- A stage that is a panel with an opacity and with a width that has no value. -/
def panelStage : Stage :=
  .ofRoot (((Actor.ofTypes ["Panel"]).declare "opacity" (.holding .int (.int 7))).declare "width"
    (.unset .int))

/-- A target that gives the start of the opacity and the end of the width. -/
def panelTarget : Target :=
  ⟨none, .sender, ⟨0, 100, .standard, 0⟩,
    [⟨"opacity", some "0", none⟩, ⟨"width", none, some "9"⟩]⟩

/-- A trigger with that target. -/
def panelTrigger : Trigger where
  id := "open"
  sender := ⟨.universal, [], 0, .unknown⟩
  signal := "show"
  targets := [panelTarget]
  file := "panel.xml"

/-- A start for the width. -/
def widthDefaults : Defaults := ⟨[⟨none, "width", .int 2⟩], []⟩

/-- The same start for the width, and one for the opacity before it. -/
def panelDefaults : Defaults := ⟨[⟨none, "opacity", .int 5⟩, ⟨none, "width", .int 2⟩], []⟩

/-- A default for the opacity does not change the move of the width, and neither it nor the
value of the panel changes the move of the opacity, which starts from its own text. -/
theorem panel_moves_alike :
    (panelTrigger.animation panelStage.tree 0 widthDefaults).value.transitionsOf 0 =
      [⟨"opacity", .int, .int 0, none, ⟨0, 100, .standard, 0⟩⟩,
        ⟨"width", .int, .int 2, some (.int 9), ⟨0, 100, .standard, 0⟩⟩] ∧
    entriesFor "width" widthDefaults.initial = entriesFor "width" panelDefaults.initial ∧
    entriesFor "width" widthDefaults.final = entriesFor "width" panelDefaults.final ∧
    ((panelTrigger.animation panelStage.tree 0 widthDefaults).value.transitionsOf 0).filter
        (·.property = "width") =
      ((panelTrigger.animation panelStage.tree 0 panelDefaults).value.transitionsOf 0).filter
        (·.property = "width") ∧
    (panelTarget, ⟨"opacity", some "0", none⟩) ∈ panelTrigger.reaching panelStage.tree 0 0 ∧
    (⟨"opacity", some "0", none⟩ : PropertyTarget).written? panelStage.tree 0 = some (.int 0) ∧
    (∃ transition, transition.property = "opacity" ∧ transition.start = .int 0 ∧
      ∀ initial values, transition ∈ (panelTrigger.animation (panelStage.tree.withValues values) 0
        ⟨initial, []⟩).value.transitionsOf 0) ∧
    (∀ element ∈ panelTrigger.reaching panelStage.tree 0 0, element.2.name = "opacity" →
      (element.2.written? panelStage.tree 0).isSome) ∧
    ∀ initial other values changed,
      ((panelTrigger.animation (panelStage.tree.withValues values) 0
          ⟨initial, []⟩).value.transitionsOf 0).filter (·.property = "opacity") =
        ((panelTrigger.animation (panelStage.tree.withValues changed) 0
          ⟨other, []⟩).value.transitionsOf 0).filter (·.property = "opacity") := by
  obtain ⟨-, entries, single, whole⟩ :=
    Trigger.defaults_influence panelTrigger panelStage.tree 0
  have moved : (panelTrigger.animation panelStage.tree 0 widthDefaults).value.transitionsOf 0 =
      [⟨"opacity", .int, .int 0, none, ⟨0, 100, .standard, 0⟩⟩,
        ⟨"width", .int, .int 2, some (.int 9), ⟨0, 100, .standard, 0⟩⟩] := by decide
  have initial : entriesFor "width" widthDefaults.initial =
      entriesFor "width" panelDefaults.initial := by decide
  have reaches : (panelTarget, ⟨"opacity", some "0", none⟩) ∈
      panelTrigger.reaching panelStage.tree 0 0 := by decide
  have written : (⟨"opacity", some "0", none⟩ : PropertyTarget).written? panelStage.tree 0 =
      some (.int 0) := by decide
  have allWritten : ∀ element ∈ panelTrigger.reaching panelStage.tree 0 0,
      element.2.name = "opacity" → (element.2.written? panelStage.tree 0).isSome := by
    decide
  obtain ⟨transition, named, starts, made⟩ := single [] 0 _ reaches (.int 0) written
  exact ⟨moved, initial, rfl, entries widthDefaults panelDefaults "width" initial rfl 0, reaches,
    written, ⟨transition, named, starts, fun initial values => (made initial values).2⟩, allWritten,
    whole [] 0 "opacity" allWritten⟩

end ThemeMotion
