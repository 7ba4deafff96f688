import ThemeMotion.Proofs.Theme.Acceptance
import ThemeMotion.Theme.Registry

/-!
# Adding documents to a registry

What a registry holds bears on the reading of a document in one way only: an id that is
registered keeps out the document that declares it again. So a document is added to a
registry exactly when it is added to no triggers at all and clashes with none of those
that are registered, and what it adds is the same in both cases.

The theorems are about the answers and the registries, not about what is noted on the
way. Which fault a refused document is refused for depends on the registry, and nothing
is said about it.
-/

namespace ThemeMotion

/-- Triggers that were declared before bear on the reading of a document only through
their ids. -/
theorem Document.read_upon_iff (file source : String) (committed triggers : List Trigger) :
    Document.read ⟨file, committed⟩ source = .ok triggers ↔
      Document.read ⟨file, []⟩ source = .ok triggers ∧
        ∀ trigger ∈ triggers, trigger.id ∉ committed.map (·.id) := by
  simp only [Document.read_exact]
  constructor
  · rintro ⟨declares, apart, fresh⟩
    exact ⟨⟨declares, apart, fun _ _ => List.not_mem_nil⟩, fresh⟩
  · rintro ⟨⟨declares, apart, _⟩, fresh⟩
    exact ⟨declares, apart, fresh⟩

namespace Registry

/-- A document as it is handed to a registry. -/
structure Source where
  text : String
  name : String

variable (registry : Registry) (source : Source)

/-- The answer to adding a document, and the registry after it. -/
def outcome : Except LoadError Nat × Registry := (registry.addText source.text source.name).value

/-- The registry after adding a document, whether it was accepted or not. -/
def next : Registry := (registry.outcome source).2

/-- A document is accepted when the answer is a number of triggers. -/
def Accepts : Prop := ∃ count, (registry.outcome source).1 = .ok count

/-- A registry with nothing but the triggers of one document, or with none when the
document is refused. -/
def alone : Registry := empty.next source

/-- None of the triggers has an id that is registered. -/
def Lacks (triggers : List Trigger) : Prop :=
  ∀ trigger ∈ triggers, trigger.id ∉ registry.triggers.map (·.id)

/-- Adding a document reads it upon the triggers that are registered and appends what it
declares. -/
theorem outcome_eq : registry.outcome source =
    match Document.read ⟨source.name, registry.triggers⟩ source.text with
    | .error malformed => (.error (.malformed malformed), registry)
    | .ok triggers => (.ok triggers.length, ⟨registry.triggers ++ triggers⟩) := by
  unfold outcome addText
  cases Document.read ⟨source.name, registry.triggers⟩ source.text <;> rfl

/-- A document that can be read is added with all of its triggers. -/
theorem outcome_read {triggers : List Trigger}
    (accepted : Document.read ⟨source.name, registry.triggers⟩ source.text = .ok triggers) :
    registry.outcome source = (.ok triggers.length, ⟨registry.triggers ++ triggers⟩) := by
  rw [outcome_eq, accepted]

/-- A document is accepted exactly when it can be read upon the registered triggers. -/
theorem accepts_iff_read : registry.Accepts source ↔
    ∃ triggers, Document.read ⟨source.name, registry.triggers⟩ source.text = .ok triggers := by
  unfold Accepts
  rw [outcome_eq]
  cases Document.read ⟨source.name, registry.triggers⟩ source.text <;> simp

/-- A document that is refused changes nothing. -/
theorem next_refused (refused : ¬ registry.Accepts source) : registry.next source = registry := by
  rw [accepts_iff_read] at refused
  unfold next
  rw [outcome_eq]
  cases reading : Document.read ⟨source.name, registry.triggers⟩ source.text with
  | error malformed => rfl
  | ok triggers => exact absurd ⟨triggers, reading⟩ refused

/-- What a document that can be read upon no triggers leaves alone. -/
theorem alone_read {triggers : List Trigger}
    (accepted : Document.read ⟨source.name, []⟩ source.text = .ok triggers) :
    alone source = ⟨triggers⟩ := by
  unfold alone next
  rw [outcome_read empty source accepted]
  rfl

/-- A registry accepts a document exactly when no triggers at all would and none of its
ids is registered. -/
theorem accepts_iff :
    registry.Accepts source ↔ empty.Accepts source ∧ registry.Lacks (alone source).triggers := by
  simp only [accepts_iff_read, Document.read_upon_iff _ _ registry.triggers]
  constructor
  · rintro ⟨triggers, reading, lacking⟩
    rw [alone_read source reading]
    exact ⟨⟨triggers, reading⟩, lacking⟩
  · rintro ⟨⟨triggers, reading⟩, lacking⟩
    rw [alone_read source reading] at lacking
    exact ⟨triggers, reading, lacking⟩

/-- An accepted document adds what it leaves alone, behind what is registered. -/
theorem outcome_accepted (accepted : registry.Accepts source) :
    registry.outcome source =
      (.ok (alone source).size, ⟨registry.triggers ++ (alone source).triggers⟩) := by
  obtain ⟨triggers, reading⟩ := (registry.accepts_iff_read source).mp accepted
  have upon := (Document.read_upon_iff _ _ _ _).mp reading
  rw [alone_read source upon.1, outcome_read registry source reading]
  rfl

/-- When ids are not registered and clash with no id of a document, they are not
registered after adding it either. -/
theorem lacks_next {triggers : List Trigger} (lacking : registry.Lacks triggers)
    (separate : (alone source).Lacks triggers) : (registry.next source).Lacks triggers := by
  by_cases accepted : registry.Accepts source
  · intro trigger member
    unfold next
    rw [outcome_accepted registry source accepted, List.map_append, List.mem_append, not_or]
    exact ⟨lacking trigger member, separate trigger member⟩
  · rwa [next_refused registry source accepted]

/-- A document that clashes with nothing changes no acceptance of another one that does
not clash with it. -/
theorem accepts_next_iff (other : Source) (lacking : registry.Lacks (alone other).triggers)
    (separate : (alone source).Lacks (alone other).triggers) :
    (registry.next source).Accepts other ↔ registry.Accepts other := by
  rw [accepts_iff, accepts_iff registry]
  exact and_congr_right fun _ =>
    ⟨fun _ => lacking, fun _ => lacks_next registry source lacking separate⟩

/-- A document that clashes with nothing adds what it leaves alone, which is nothing when
it is refused. -/
theorem next_lacking (lacking : registry.Lacks (alone source).triggers) :
    (registry.next source).triggers = registry.triggers ++ (alone source).triggers := by
  by_cases accepted : empty.Accepts source
  · have upon := (registry.accepts_iff source).mpr ⟨accepted, lacking⟩
    unfold next
    rw [outcome_accepted registry source upon]
  · have refused : ¬ registry.Accepts source := fun upon =>
      accepted ((registry.accepts_iff source).mp upon).1
    have nothing : alone source = empty := next_refused empty source accepted
    rw [next_refused registry source refused, nothing]
    exact (List.append_nil _).symm

/-- Clashing is mutual. -/
theorem lacks_symm {first second : Registry} (separate : first.Lacks second.triggers) :
    second.Lacks first.triggers := by
  intro trigger member declared
  obtain ⟨other, present, same⟩ := List.mem_map.mp declared
  exact separate other present (same ▸ List.mem_map_of_mem member)

/-- Adding a document depends on what is registered only through clashes of ids, and it
is all or nothing. It is accepted exactly when it is accepted on its own and none of its
ids is registered. Then its triggers come behind those that are registered, and the
answer is their number; else the registry is as before. Two documents that clash neither
with one another nor with what is registered are both accepted in one order exactly when
they are in the other, and the triggers are the same up to their order. -/
theorem merging_exact :
    (registry.Accepts source ↔
      empty.Accepts source ∧ registry.Lacks (alone source).triggers) ∧
    (registry.Accepts source → registry.outcome source =
      (.ok (alone source).size, ⟨registry.triggers ++ (alone source).triggers⟩)) ∧
    (¬ registry.Accepts source → registry.next source = registry) ∧
    ∀ other : Source, registry.Lacks (alone source).triggers →
      registry.Lacks (alone other).triggers → (alone source).Lacks (alone other).triggers →
      ((registry.Accepts source ∧ (registry.next source).Accepts other) ↔
        registry.Accepts other ∧ (registry.next other).Accepts source) ∧
      ((registry.next source).next other).triggers.Perm
        ((registry.next other).next source).triggers := by
  refine ⟨registry.accepts_iff source, registry.outcome_accepted source,
    registry.next_refused source, ?_⟩
  intro other lacking otherLacking separate
  have otherSeparate := lacks_symm separate
  constructor
  · rw [accepts_next_iff registry source other otherLacking separate,
      accepts_next_iff registry other source lacking otherSeparate]
    exact and_comm
  · rw [next_lacking (registry.next source) other
        (lacks_next registry source otherLacking separate),
      next_lacking (registry.next other) source
        (lacks_next registry other lacking otherSeparate),
      next_lacking registry source lacking, next_lacking registry other otherLacking,
      List.append_assoc, List.append_assoc]
    exact List.Perm.append_left _ List.perm_append_comm

instance (triggers : List Trigger) : Decidable (registry.Lacks triggers) :=
  inferInstanceAs (Decidable (∀ trigger ∈ triggers, trigger.id ∉ registry.triggers.map (·.id)))

/-- A document with one trigger that answers the signals of buttons. -/
def buttonDocument (id : String) : Source :=
  ⟨"<animations><trigger id='" ++ id ++ "' sender='button' signal='pressed'/></animations>",
    id ++ ".xml"⟩

/-- Three documents with one trigger each clash nowhere, and the last two of them may be
added in either order. -/
theorem merging_three_buttons :
    let rest := alone (buttonDocument "rest")
    let enter := buttonDocument "enter"
    let leave := buttonDocument "leave"
    rest.Lacks (alone enter).triggers ∧ rest.Lacks (alone leave).triggers ∧
      (alone enter).Lacks (alone leave).triggers ∧
      ((rest.next enter).next leave).size = 3 ∧
      ((rest.next enter).next leave).triggers.Perm ((rest.next leave).next enter).triggers := by
  intro rest enter leave
  have lacksEnter : rest.Lacks (alone enter).triggers := by decide +kernel
  have lacksLeave : rest.Lacks (alone leave).triggers := by decide +kernel
  have separate : (alone enter).Lacks (alone leave).triggers := by decide +kernel
  have orders := (merging_exact rest enter).2.2.2 leave lacksEnter lacksLeave separate
  exact ⟨lacksEnter, lacksLeave, separate, by decide +kernel, orders.2⟩

end Registry

end ThemeMotion
