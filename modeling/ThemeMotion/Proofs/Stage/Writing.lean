import ThemeMotion.Proofs.Keyed
import ThemeMotion.Proofs.Stage.Growing
import ThemeMotion.Proofs.Value.Typing

/-!
# Writing properties

A property is declared while an actor is built, and it keeps its declared type for as long
as the actor is on a stage. What is stored in it is always a value of that type: a value that
is written is transformed first, and refused when it has no form of the type.

A write bears on one property of one actor. `Rewritten` says what a stage and its successor
have in common; a refused write leaves the stage as it is. Actors are taken as hosts build
them, detail by detail.
-/

namespace ThemeMotion

/-- A property is well typed when its value, if it has one, is of its type. -/
def Property.WellTyped (property : Property) : Prop :=
  ∀ value, property.value = some value → value.hasType property.type = true

/-- A property that starts with a value is well typed, whatever the value is. -/
theorem Property.holding_wellTyped (type : ValueType) (value : Value) :
    (holding type value).WellTyped := by
  intro stored transformed
  exact (Value.hasType_iff stored type).mpr (Value.transform?_inhabits transformed)

/-- A property without a value is well typed. -/
theorem Property.unset_wellTyped (type : ValueType) : (unset type).WellTyped := nofun

namespace Actor

/-- The properties of a sound actor are well typed, and no name is declared twice. -/
structure Sound (actor : Actor) : Prop where
  apart : (actor.properties.map Prod.fst).Nodup
  typed : ∀ name property, (name, property) ∈ actor.properties → property.WellTyped

/-- A detail that a host gives to an actor. -/
inductive Detail where
  | supertype (name : String)
  | name (name : String)
  | styleClass (name : String)
  | pseudoClass (name : String)
  | property (name : String) (type : ValueType) (value : Value)
  | unsetProperty (name : String) (type : ValueType)

/-- An actor with one more detail. -/
def detailed (actor : Actor) : Detail → Actor
  | .supertype name => { actor with typeNames := actor.typeNames ++ [name] }
  | .name name => { actor with name := some name }
  | .styleClass name => { actor with classes := actor.classes ++ [name] }
  | .pseudoClass name => { actor with pseudoClasses := actor.pseudoClasses ++ [name] }
  | .property name type value => actor.declare name (.holding type value)
  | .unsetProperty name type => actor.declare name (.unset type)

/-- An actor of a type that is built detail by detail. -/
def build (typeName : String) (details : List Detail) : Actor :=
  details.foldl detailed (.ofTypes [typeName])

section Keeping

variable {actor : Actor}

/-- An actor stays sound when a well-typed property is declared. -/
theorem Sound.declare (sound : actor.Sound) (name : String) {property : Property}
    (typed : property.WellTyped) : (actor.declare name property).Sound := by
  constructor
  · show ((Keyed.put name property actor.properties).map Prod.fst).Nodup
    rw [Keyed.keys_put]
    split
    · exact sound.apart
    · next fresh =>
      refine List.nodup_append.mpr ⟨sound.apart, List.pairwise_singleton _ _, ?_⟩
      rintro other declared same member rfl
      exact fresh (List.mem_singleton.mp member ▸ declared)
  · intro other declared member
    rcases Keyed.mem_put member with same | present
    · obtain ⟨_, rfl⟩ := Prod.mk.inj same
      exact typed
    · exact sound.typed other declared present

/-- An actor stays sound with every detail. -/
theorem Sound.detailed (sound : actor.Sound) (detail : Detail) : (actor.detailed detail).Sound := by
  cases detail with
  | property name type value => exact sound.declare name (Property.holding_wellTyped type value)
  | unsetProperty name type => exact sound.declare name (Property.unset_wellTyped type)
  | _ => exact ⟨sound.apart, sound.typed⟩

/-- An actor stays sound when a pseudo-class is switched. -/
theorem Sound.setPseudoClass (sound : actor.Sound) (pseudoClass : String) (on : Bool) :
    (actor.setPseudoClass pseudoClass on).Sound :=
  ⟨sound.apart, sound.typed⟩

/-- Every actor that a host builds is sound. -/
theorem build_sound (typeName : String) (details : List Detail) :
    (build typeName details).Sound := by
  suffices general : ∀ actor : Actor, actor.Sound → (details.foldl Actor.detailed actor).Sound from
    general _ ⟨List.nodup_nil, nofun⟩
  intro actor sound
  induction details generalizing actor with
  | nil => exact sound
  | cons detail rest inductionHypothesis => exact inductionHypothesis _ (sound.detailed detail)

end Keeping

section Writing

variable (actor : Actor) (name : String) (value : Value)

/-- A write replaces the value of a declared property by the form that it has in the type of
the property. -/
theorem setProperty_ok_iff (changed : Actor) : actor.setProperty name value = .ok changed ↔
    ∃ property stored, actor.property? name = some property ∧
      value.transform? property.type = some stored ∧
      changed = actor.declare name ⟨property.type, some stored⟩ := by
  unfold setProperty
  cases found : actor.property? name with
  | none => simp
  | some property =>
    cases transformed : value.transform? property.type with
    | none => simp [transformed]
    | some stored => simp [transformed, eq_comm]

/-- A write is refused where no such property is declared, or where the value has no form of
its type. -/
theorem setProperty_error_iff (refusal : ValueError) :
    actor.setProperty name value = .error refusal ↔
      (actor.property? name = none ∧ refusal = .unknownProperty name) ∨
      ∃ property, actor.property? name = some property ∧
        value.transform? property.type = none ∧ refusal = .typeMismatch name property.type := by
  unfold setProperty
  cases found : actor.property? name with
  | none => simp [eq_comm]
  | some property =>
    cases transformed : value.transform? property.type with
    | none => simp [transformed, eq_comm]
    | some stored => simp [transformed]

end Writing

/-- An actor without its properties. -/
def bare (actor : Actor) : Actor := { actor with properties := [] }

end Actor

namespace Stage

section Actors

variable (stage : Stage)

/-- A change of one node changes the actor of that node and no other. -/
theorem actor?_update (node : Nat) (change : Actor → Actor) (other : Nat) :
    (stage.update node change).actor? other =
      if other = node then (stage.actor? other).map change else stage.actor? other := by
  cases node with
  | zero => cases other <;> rfl
  | succ index =>
    cases other with
    | zero => rfl
    | succ other =>
      show ((stage.added.modify index (Prod.map id change))[other]?).map Prod.snd = _
      rw [List.getElem?_modify]
      by_cases here : index = other
      · subst here
        cases found : stage.added[index]? <;> simp [actor?, found]
      · have elsewhere : other ≠ index := Ne.symm here
        simp [here, elsewhere, actor?]

/-- An added actor is that of its own node, and all others keep theirs. -/
theorem actor?_addChild {grown : Stage} {parent child : Nat} {actor : Actor}
    (adding : stage.addChild? parent actor = some (grown, child)) (node : Nat) :
    grown.actor? node = if node = child then some actor else stage.actor? node := by
  unfold addChild? at adding
  split at adding
  · cases adding
    cases node with
    | zero => simp [actor?, size]
    | succ index =>
      rcases Nat.lt_trichotomy index stage.added.length with earlier | rfl | later
      · simp [actor?, size, Nat.ne_of_lt earlier, List.getElem?_append_left earlier]
      · simp [actor?, size]
      · have past : (stage.added ++ [(parent, actor)]).length ≤ index := by
          rw [List.length_append]
          exact later
        simp [actor?, size, Nat.ne_of_gt later, List.getElem?_eq_none past,
          List.getElem?_eq_none (Nat.le_of_lt later)]
  · cases adding

/-- The properties that are declared after a change of one node. -/
theorem declared?_update (node : Nat) (change : Actor → Actor) (other : Nat) (key : String) :
    (stage.update node change).declared? other key =
      if other = node then stage.actor? other >>= fun actor => (change actor).property? key
      else stage.declared? other key := by
  unfold declared?
  rw [actor?_update]
  split
  · cases stage.actor? other <;> rfl
  · rfl

end Actors

/-- The stages that hosts come to: a root is set, actors are added, pseudo-classes are
switched and properties are written. The actors are built detail by detail. -/
inductive Reached : Stage → Prop where
  | root (typeName : String) (details : List Actor.Detail) :
    Reached (ofRoot (.build typeName details))
  | addChild {stage : Stage} (reached : Reached stage) (parent : Nat) (typeName : String)
    (details : List Actor.Detail) :
    Reached (stage.after (.addChild parent (.build typeName details)))
  | setPseudoClass {stage : Stage} (reached : Reached stage) (node : Nat) (pseudoClass : String)
    (on : Bool) : Reached (stage.after (.setPseudoClass node pseudoClass on))
  | setProperty {stage : Stage} (reached : Reached stage) (node : Nat) (name : String)
    (value : Value) : Reached (stage.after (.setProperty node name value))

/-- All actors of a stage are sound. -/
def Sound (stage : Stage) : Prop :=
  ∀ node actor, stage.actor? node = some actor → actor.Sound

/-- What a change can do: nothing when it is refused, and else what it says. -/
theorem after_cases (stage : Stage) (change : Change) :
    stage.after change = stage ∨
    (∃ parent actor child, change = .addChild parent actor ∧
      stage.addChild? parent actor = some (stage.after change, child)) ∨
    (∃ node pseudoClass on, change = .setPseudoClass node pseudoClass on ∧
      stage.after change = stage.update node (·.setPseudoClass pseudoClass on)) ∨
    ∃ node name value, change = .setProperty node name value ∧
      stage.setProperty node name value = .ok (stage.after change) := by
  cases change with
  | addChild parent actor =>
    cases adding : stage.addChild? parent actor with
    | none => exact .inl (by rw [after, adding]; rfl)
    | some entry =>
      refine .inr (.inl ⟨parent, actor, entry.2, rfl, ?_⟩)
      rw [after, adding]
      rfl
  | setPseudoClass node pseudoClass on =>
    exact .inr (.inr (.inl ⟨node, pseudoClass, on, rfl, rfl⟩))
  | setProperty node name value =>
    cases written : stage.setProperty node name value with
    | error refusal => exact .inl (by rw [after, written]; rfl)
    | ok changed =>
      refine .inr (.inr (.inr ⟨node, name, value, rfl, ?_⟩))
      rw [after, written]
      rfl

/-- A write is a write to the actor of the node. -/
theorem setProperty_ok_iff (stage : Stage) (node : Nat) (name : String) (value : Value)
    (changed : Stage) : stage.setProperty node name value = .ok changed ↔
      ∃ actor next, stage.actor? node = some actor ∧ actor.setProperty name value = .ok next ∧
        changed = stage.update node fun _ => next := by
  unfold setProperty
  cases present : stage.actor? node with
  | none => simp
  | some actor =>
    cases given : actor.setProperty name value with
    | error refusal => simp [given, Except.map]
    | ok next => simp [given, Except.map, eq_comm]

/-- A write is refused where there is no actor, or by the actor. -/
theorem setProperty_error_iff (stage : Stage) (node : Nat) (name : String) (value : Value)
    (refusal : ValueError) : stage.setProperty node name value = .error refusal ↔
      (stage.actor? node = none ∧ refusal = .unknownProperty name) ∨
      ∃ actor, stage.actor? node = some actor ∧ actor.setProperty name value = .error refusal := by
  unfold setProperty
  cases present : stage.actor? node with
  | none => simp [eq_comm]
  | some actor => cases given : actor.setProperty name value <;> simp [given, Except.map]

section Sound

variable {stage : Stage}

/-- A stage stays sound when one of its actors gives way to a sound one. -/
theorem Sound.update (sound : stage.Sound) {node : Nat} {change : Actor → Actor}
    (keeps : ∀ actor, stage.actor? node = some actor → (change actor).Sound) :
    (stage.update node change).Sound := by
  intro other actor found
  rw [actor?_update] at found
  split at found
  · next same =>
    subst same
    obtain ⟨before, present, rfl⟩ := Option.map_eq_some_iff.mp found
    exact keeps before present
  · exact sound other actor found

/-- A stage stays sound when a property is written. -/
theorem Sound.setProperty (sound : stage.Sound) {node : Nat} {name : String} {value : Value}
    {changed : Stage} (written : stage.setProperty node name value = .ok changed) :
    changed.Sound := by
  obtain ⟨actor, next, present, given, rfl⟩ := (stage.setProperty_ok_iff _ _ _ _).mp written
  obtain ⟨property, stored, _, transformed, rfl⟩ := (actor.setProperty_ok_iff _ _ _).mp given
  have typed : (⟨property.type, some stored⟩ : Property).WellTyped := by
    rintro _ ⟨⟩
    exact (Value.hasType_iff stored property.type).mpr (Value.transform?_inhabits transformed)
  exact sound.update fun _ _ => (sound node actor present).declare name typed

/-- A stage stays sound with every change, if an actor that is added is sound. -/
theorem Sound.after (sound : stage.Sound) (change : Change)
    (built : ∀ parent actor, change = .addChild parent actor → actor.Sound) :
    (stage.after change).Sound := by
  rcases stage.after_cases change with
    same | ⟨parent, actor, child, added, adding⟩ | ⟨node, pseudoClass, on, _, switched⟩ |
      ⟨node, name, value, _, written⟩
  · rwa [same]
  · intro node other found
    rw [stage.actor?_addChild adding] at found
    split at found
    · exact Option.some.inj found ▸ built parent actor added
    · exact sound node other found
  · rw [switched]
    exact sound.update fun actor present => (sound node actor present).setPseudoClass pseudoClass on
  · exact sound.setProperty written

/-- Every stage that hosts come to is sound. -/
theorem Reached.sound (reached : Reached stage) : stage.Sound := by
  induction reached with
  | root typeName details =>
    intro node actor found
    cases node with
    | zero => exact Option.some.inj found ▸ Actor.build_sound typeName details
    | succ index => exact nomatch found
  | addChild _ parent typeName details sound =>
    refine sound.after _ ?_
    rintro _ _ ⟨⟩
    exact Actor.build_sound typeName details
  | setPseudoClass _ node pseudoClass on sound => exact sound.after _ nofun
  | setProperty _ node name value sound => exact sound.after _ nofun

end Sound

/-- A stage has come from another one by writing a property of a node: nothing else is
different. -/
structure Rewritten (stage changed : Stage) (node : Nat) (name : String) (property : Property) :
    Prop where
  size : changed.size = stage.size
  parents : ∀ other, changed.parent? other = stage.parent? other
  /-- Types, names, classes and pseudo-classes are the same. -/
  details : ∀ other, (changed.actor? other).map Actor.bare = (stage.actor? other).map Actor.bare
  others : ∀ other key, other ≠ node ∨ key ≠ name →
    changed.declared? other key = stage.declared? other key
  written : changed.declared? node name = some property

section Writing

variable {stage : Stage} (node : Nat) (name : String) (value : Value)

/-- A write that succeeds finds a property whose type has a form of the value, and stores this
form. -/
theorem setProperty_rewritten {changed : Stage}
    (written : stage.setProperty node name value = .ok changed) :
    ∃ property stored, stage.declared? node name = some property ∧
      value.transform? property.type = some stored ∧
      stage.Rewritten changed node name ⟨property.type, some stored⟩ := by
  obtain ⟨actor, next, present, given, rfl⟩ :=
    (stage.setProperty_ok_iff node name value changed).mp written
  obtain ⟨property, stored, found, transformed, rfl⟩ :=
    (actor.setProperty_ok_iff name value next).mp given
  have declared : stage.declared? node name = some property := by
    rw [declared?, present]
    exact found
  refine ⟨property, stored, declared, transformed, ?_⟩
  constructor
  · exact stage.size_update node _
  · exact stage.parent?_update node _
  · intro other
    rw [actor?_update]
    split
    · next same =>
      subst same
      rw [present]
      rfl
    · rfl
  · intro other key apart
    rw [declared?_update]
    split
    · next same =>
      subst same
      have different : key ≠ name := apart.resolve_left (absurd rfl)
      rw [declared?, present]
      exact (Keyed.lookup_put name key _ actor.properties).trans (if_neg different)
    · rfl
  · rw [declared?_update, if_pos rfl, present]
    exact (Keyed.lookup_put name name _ actor.properties).trans (if_pos rfl)

/-- A write succeeds exactly when the node declares the property and the type of the property
has a form of the value. -/
theorem setProperty_succeeds_iff :
    (∃ changed, stage.setProperty node name value = .ok changed) ↔
      ∃ property stored, stage.declared? node name = some property ∧
        value.transform? property.type = some stored := by
  constructor
  · rintro ⟨changed, written⟩
    obtain ⟨property, stored, declared, transformed, _⟩ :=
      setProperty_rewritten node name value written
    exact ⟨property, stored, declared, transformed⟩
  · rintro ⟨property, stored, declared, transformed⟩
    obtain ⟨actor, present, found⟩ := Option.bind_eq_some_iff.mp declared
    have given := (actor.setProperty_ok_iff name value _).mpr
      ⟨property, stored, found, transformed, rfl⟩
    exact ⟨_, (stage.setProperty_ok_iff node name value _).mpr ⟨actor, _, present, given, rfl⟩⟩

/-- A refusal says whether the property is missing or the value has no form of its type. -/
theorem setProperty_refusal {refusal : ValueError}
    (refused : stage.setProperty node name value = .error refusal) :
    refusal = match stage.tree.propertyType? node name with
      | none => .unknownProperty name
      | some type => .typeMismatch name type := by
  show refusal = match (stage.actor? node >>= (·.property? name)).map (·.type) with
    | none => .unknownProperty name
    | some type => .typeMismatch name type
  rcases (stage.setProperty_error_iff node name value refusal).mp refused with
    ⟨absent, rfl⟩ | ⟨actor, present, given⟩
  · simp [absent]
  · rcases (actor.setProperty_error_iff name value refusal).mp given with
      ⟨missing, rfl⟩ | ⟨property, found, _, rfl⟩
    · simp [present, missing]
    · simp [present, found]

end Writing

section Types

variable (stage : Stage) (change : Change)

/-- A change leaves the declared types of all actors that are there, for a property is written
with the type that it had. -/
theorem propertyType?_after {node : Nat} (inside : node < stage.size) (name : String) :
    (stage.after change).tree.propertyType? node name = stage.tree.propertyType? node name := by
  show ((stage.after change).declared? node name).map (·.type) =
    (stage.declared? node name).map (·.type)
  rcases stage.after_cases change with
    same | ⟨parent, actor, child, _, adding⟩ | ⟨other, pseudoClass, on, _, switched⟩ |
      ⟨other, key, value, _, written⟩
  · rw [same]
  · have before : node ≠ child := (addChild?_number adding).1 ▸ Nat.ne_of_lt inside
    rw [declared?, stage.actor?_addChild adding, if_neg before]
    rfl
  · rw [switched, declared?_update]
    split <;> rfl
  · obtain ⟨property, stored, declared, _, rewritten⟩ :=
      setProperty_rewritten other key value written
    by_cases here : node = other ∧ name = key
    · obtain ⟨rfl, rfl⟩ := here
      rw [rewritten.written, declared]
      rfl
    · rw [rewritten.others node name (Decidable.not_and_iff_not_or_not.mp here)]

/-- No change removes an actor. -/
theorem size_after : stage.size ≤ (stage.after change).size := by
  rcases stage.after_cases change with
    same | ⟨parent, actor, child, _, adding⟩ | ⟨other, pseudoClass, on, _, switched⟩ |
      ⟨other, key, value, _, written⟩
  · exact Nat.le_of_eq (congrArg size same.symm)
  · rw [(addChild?_number adding).2]
    exact Nat.le_succ _
  · have same : (stage.after change).size = stage.size := by rw [switched, size_update]
    exact Nat.le_of_eq same.symm
  · obtain ⟨_, _, _, _, rewritten⟩ := setProperty_rewritten other key value written
    exact Nat.le_of_eq rewritten.size.symm

/-- Changes leave the declared types of all actors that are there. -/
theorem propertyType?_run (changes : List Change) {node : Nat} (inside : node < stage.size)
    (name : String) :
    (stage.run changes).tree.propertyType? node name = stage.tree.propertyType? node name := by
  induction changes generalizing stage with
  | nil => rfl
  | cons change rest inductionHypothesis =>
    have later := inductionHypothesis (stage.after change)
      (Nat.lt_of_lt_of_le inside (stage.size_after change))
    exact later.trans (stage.propertyType?_after change inside name)

end Types

/-- The properties of every stage that hosts come to are well typed, and no change alters a
declared type. A write succeeds exactly when the node declares the property and its type has
a form of the value; then this form is what the property holds, and nothing else is
different. A write that is refused leaves the stage as it is, and the refusal tells a missing
property from a value without a form. -/
theorem writing_exact (stage : Stage) (reached : Reached stage) :
    (∀ node actor, stage.actor? node = some actor → actor.Sound) ∧
    (∀ changes node name, node < stage.size →
      (stage.run changes).tree.propertyType? node name = stage.tree.propertyType? node name) ∧
    ∀ node name value,
      ((∃ changed, stage.setProperty node name value = .ok changed) ↔
        ∃ type stored, stage.tree.propertyType? node name = some type ∧
          value.transform? type = some stored) ∧
      (∀ changed, stage.setProperty node name value = .ok changed →
        stage.after (.setProperty node name value) = changed ∧
        ∃ type stored, stage.tree.propertyType? node name = some type ∧
          value.transform? type = some stored ∧
          stage.Rewritten changed node name ⟨type, some stored⟩) ∧
      ∀ refusal, stage.setProperty node name value = .error refusal →
        stage.after (.setProperty node name value) = stage ∧
        refusal = match stage.tree.propertyType? node name with
          | none => .unknownProperty name
          | some type => .typeMismatch name type := by
  have typeOf (node : Nat) (name : String) (property : Property)
      (declared : stage.declared? node name = some property) :
      stage.tree.propertyType? node name = some property.type :=
    congrArg (Option.map fun property : Property => property.type) declared
  refine ⟨reached.sound,
    fun changes node name inside => stage.propertyType?_run changes inside name, ?_⟩
  intro node name value
  refine ⟨?_, ?_, ?_⟩
  · rw [setProperty_succeeds_iff]
    constructor
    · rintro ⟨property, stored, declared, transformed⟩
      exact ⟨property.type, stored, typeOf node name property declared, transformed⟩
    · rintro ⟨type, stored, typed, transformed⟩
      obtain ⟨property, declared, rfl⟩ := Option.map_eq_some_iff.mp typed
      exact ⟨property, stored, declared, transformed⟩
  · intro changed written
    obtain ⟨property, stored, declared, transformed, rewritten⟩ :=
      setProperty_rewritten node name value written
    refine ⟨?_, property.type, stored, typeOf node name property declared, transformed, rewritten⟩
    rw [after, written]
    rfl
  · intro refusal refused
    refine ⟨?_, setProperty_refusal node name value refused⟩
    rw [after, refused]
    rfl

/-- A stage with a button that has an opacity and a label, of which the label has no value. -/
def buttonStage : Stage :=
  (ofRoot (.build "Box" [])).after (.addChild 0 (.build "Button"
    [.supertype "Widget", .name "save", .property "opacity" .uint (.int 255),
      .unsetProperty "label" .string]))

/-- An integer is stored in the opacity as it is stored in a property of that type, a negative
one is refused, and so is a property that is not declared. -/
theorem writing_opacity :
    Reached buttonStage ∧ 1 < buttonStage.size ∧
      (∃ changed, buttonStage.setProperty 1 "opacity" (.int 12) = .ok changed ∧
        changed.tree.property? 1 "opacity" = some (.uint 12) ∧
        changed.tree.property? 1 "label" = buttonStage.tree.property? 1 "label" ∧
        changed.tree.propertyType? 1 "opacity" = some .uint) ∧
      (∃ refusal, buttonStage.setProperty 1 "opacity" (.int (-1)) = .error refusal ∧
        refusal = .typeMismatch "opacity" .uint ∧
        buttonStage.after (.setProperty 1 "opacity" (.int (-1))) = buttonStage) := by
  have reached : Reached buttonStage := .addChild (.root "Box" []) 0 "Button" _
  have inside : 1 < buttonStage.size := by decide
  obtain ⟨_, types, writes⟩ := buttonStage.writing_exact reached
  have typed : buttonStage.tree.propertyType? 1 "opacity" = some .uint := by decide
  refine ⟨reached, inside, ?_, ?_⟩
  · obtain ⟨succeeds, success, _⟩ := writes 1 "opacity" (.int 12)
    obtain ⟨changed, written⟩ := succeeds.mpr ⟨.uint, .uint 12, typed, by decide⟩
    obtain ⟨became, type, stored, typed', transformed, rewritten⟩ := success changed written
    obtain rfl := Option.some.inj (typed.symm.trans typed')
    obtain rfl : stored = .uint 12 := Option.some.inj (transformed.symm.trans (by decide))
    have label := rewritten.others 1 "label" (.inr (by decide))
    refine ⟨changed, written, congrArg (Option.bind · Property.value) rewritten.written,
      congrArg (Option.bind · Property.value) label, ?_⟩
    exact became ▸ (types [.setProperty 1 "opacity" (.int 12)] 1 "opacity" inside).trans typed
  · obtain ⟨succeeds, _, failure⟩ := writes 1 "opacity" (.int (-1))
    cases refused : buttonStage.setProperty 1 "opacity" (.int (-1)) with
    | ok changed =>
      obtain ⟨type, stored, typed', transformed⟩ := succeeds.mp ⟨changed, refused⟩
      obtain rfl := Option.some.inj (typed.symm.trans typed')
      have noForm : (Value.int (-1)).transform? .uint = none := by decide
      exact nomatch noForm.symm.trans transformed
    | error refusal =>
      obtain ⟨unchanged, told⟩ := failure refusal refused
      rw [typed] at told
      exact ⟨refusal, rfl, told, unchanged⟩

end Stage

end ThemeMotion
