import ThemeMotion.Proofs.Theme.Choosing
import ThemeMotion.Proofs.Theme.Provenance

/-!
# Reloading a file

A file is reloaded by removing its triggers and adding its document again. When all triggers
of the file stem from that document, nothing is lost: the same triggers are registered in
another order, in which the file's own come last. Ids find what they found before, and
signals are answered with the same score. A document that is added to a registry without
triggers of its file can be taken back.

Which of several triggers of the same score answers a signal may change, since that depends
on the order.
-/

namespace ThemeMotion.Registry

deriving instance DecidableEq for Source

/-- The triggers of a file, in the order of registration. -/
def ofFile (registry : Registry) (file : String) : List Trigger :=
  registry.triggers.filter (·.file == file)

/-- In the registry that requests lead to, the triggers of a file stem from one addition of a
document: the document is in force, and no other document of the file that is in force
declares any. -/
def StemFrom (requests : List Request) (source : Source) : Prop :=
  ∃ earlier later, inForce requests = earlier ++ source :: later ∧
    ∀ other ∈ earlier ++ later, other.name = source.name → (alone other).triggers = []

section Finding

variable {registry : Registry} (apart : (registry.triggers.map (·.id)).Nodup)
include apart

/-- Where ids tell triggers apart, an id finds the trigger that has it. -/
theorem find?_eq_some_iff {id : String} {trigger : Trigger} :
    registry.find? id = some trigger ↔ trigger ∈ registry.triggers ∧ trigger.id = id := by
  constructor
  · intro found
    exact ⟨List.mem_of_find?_eq_some found, by simpa using List.find?_some found⟩
  · rintro ⟨registered, rfl⟩
    exact registry.find?_of_mem apart registered

/-- What an id finds does not depend on the order of registration. -/
theorem find?_perm {other : Registry} (perm : other.triggers.Perm registry.triggers)
    (id : String) : other.find? id = registry.find? id := by
  have apart' : (other.triggers.map (·.id)).Nodup := (perm.map _).nodup_iff.mpr apart
  apply Option.ext
  intro trigger
  rw [find?_eq_some_iff apart, find?_eq_some_iff apart', perm.mem_iff]

end Finding

section Removing

variable (registry : Registry)

/-- What is not of a file and what is of it make up the registry. -/
theorem removed_append_perm (file : String) :
    ((registry.removeFile file).2.triggers ++ registry.ofFile file).Perm registry.triggers := by
  have split := List.filter_append_perm (fun trigger => trigger.file != file) registry.triggers
  have own : registry.ofFile file =
      registry.triggers.filter fun trigger => !(trigger.file != file) :=
    List.filter_congr fun trigger _ => (Bool.not_not (trigger.file == file)).symm
  rw [own]
  exact split

/-- Removing a file answers the number of its triggers. -/
theorem removeFile_count (file : String) :
    (registry.removeFile file).1 = (registry.ofFile file).length := by
  have whole := (registry.removed_append_perm file).length_eq
  rw [List.length_append] at whole
  have answer : (registry.removeFile file).1 =
      registry.triggers.length - (registry.removeFile file).2.triggers.length := rfl
  omega

/-- Adding a document to a registry without triggers of its file and removing the file again
changes nothing. -/
theorem removeFile_next (source : Source) (absent : registry.ofFile source.name = [])
    (accepted : registry.Accepts source) :
    (registry.next source).removeFile source.name = ((alone source).size, registry) := by
  have foreign : registry.triggers.filter (·.file != source.name) = registry.triggers := by
    apply List.filter_eq_self.mpr
    intro trigger member
    simpa using List.filter_eq_nil_iff.mp absent trigger member
  have own : (alone source).triggers.filter (·.file != source.name) = [] := by
    apply List.filter_eq_nil_iff.mpr
    intro trigger member
    simp [alone_file source trigger member]
  rw [next, outcome_accepted registry source accepted]
  simp [removeFile, size, List.filter_append, foreign, own]

end Removing

/-- The triggers of a file that stem from a document are those that the document leaves
alone, since nothing before or behind the document bears the name of its file. -/
theorem StemFrom.ofFile_eq {requests : List Request} {source : Source}
    (stem : StemFrom requests source) :
    (empty.run requests).ofFile source.name = (alone source).triggers := by
  obtain ⟨earlier, later, inForce_eq, others⟩ := stem
  have silent (documents : List Source) (among : ∀ other ∈ documents, other ∈ earlier ++ later) :
      (ofDocuments (documents.filter (·.name == source.name))).triggers = [] := by
    apply List.flatMap_eq_nil_iff.mpr
    intro other member
    obtain ⟨member, named⟩ := List.mem_filter.mp member
    exact others other (among other member) (beq_iff_eq.mp named)
  have before := silent earlier fun other member => List.mem_append_left _ member
  have behind := silent later fun other member => List.mem_append_right _ member
  rw [run_inForce, inForce_eq]
  refine (ofDocuments_filter _ (· == source.name)).symm.trans ?_
  simp only [ofDocuments, List.filter_append, List.filter_cons, beq_self_eq_true, if_true,
    List.flatMap_append, List.flatMap_cons] at before behind ⊢
  rw [before, behind, List.nil_append, List.append_nil]

/-- A document from which the triggers of its file stem is accepted on its own. -/
theorem StemFrom.accepted {requests : List Request} {source : Source}
    (stem : StemFrom requests source) : empty.Accepts source := by
  obtain ⟨earlier, later, inForce_eq, _⟩ := stem
  exact inForce_sound requests source (inForce_eq ▸ List.mem_append_right _ List.mem_cons_self)

/-- Where ids tell triggers apart, a document whose triggers are those of its file is accepted
again once they are removed, and its triggers come last: none of their ids is left to clash
with. -/
theorem outcome_removed {registry : Registry} {source : Source}
    (apart : (registry.triggers.map (·.id)).Nodup)
    (own : registry.ofFile source.name = (alone source).triggers)
    (accepted : empty.Accepts source) :
    (registry.removeFile source.name).2.outcome source =
      (.ok (registry.removeFile source.name).1,
        ⟨(registry.removeFile source.name).2.triggers ++ registry.ofFile source.name⟩) := by
  have split := registry.removed_append_perm source.name
  have separate := (split.map (·.id)).nodup_iff.mpr apart
  rw [List.map_append, List.nodup_append] at separate
  obtain ⟨_, _, foreign⟩ := separate
  have lacking : (registry.removeFile source.name).2.Lacks (alone source).triggers := by
    intro trigger member present
    rw [← own] at member
    exact foreign _ present _ (List.mem_map_of_mem member) rfl
  have again := (accepts_iff _ source).mpr ⟨accepted, lacking⟩
  rw [outcome_accepted _ source again, removeFile_count, own]
  rfl

/-- Reloading is lossless. In a registry that requests lead to, let the triggers of a file
stem from a document. Removing the file removes just these triggers, keeps the others in
their order and answers how many were removed; adding the document again succeeds with the
same number and leads to the same triggers in another order. Every id finds the trigger that
it found before, and for every tree, sender and signal the winning score is the same. If
there are no triggers of the file at first, a document that is accepted under its name is
taken back without a trace by removing the file. -/
theorem reloading_lossless (requests : List Request) (source : Source) :
    let registry := empty.run requests
    let removed := registry.removeFile source.name
    let reloaded := removed.2.next source
    (StemFrom requests source →
      removed.2.triggers = registry.triggers.filter (·.file != source.name) ∧
      removed.1 = (registry.ofFile source.name).length ∧
      removed.2.outcome source =
        (.ok removed.1, ⟨removed.2.triggers ++ registry.ofFile source.name⟩) ∧
      reloaded.triggers.Perm registry.triggers ∧
      (∀ id, reloaded.find? id = registry.find? id) ∧
      ∀ (Node : Type) (tree : StyleTree Node) (sender : Node) (signal : String),
        reloaded.winningScore? tree sender signal = registry.winningScore? tree sender signal) ∧
    (registry.ofFile source.name = [] → registry.Accepts source →
      (registry.next source).removeFile source.name = ((alone source).size, registry)) := by
  intro registry removed reloaded
  refine ⟨?_, registry.removeFile_next source⟩
  intro stem
  have apart := (requests_keep_well_formed empty requests empty_well_formed).apart
  have added : removed.2.outcome source =
      (.ok removed.1, ⟨removed.2.triggers ++ registry.ofFile source.name⟩) :=
    outcome_removed apart stem.ofFile_eq stem.accepted
  have perm : reloaded.triggers.Perm registry.triggers := by
    have last : reloaded = ⟨removed.2.triggers ++ registry.ofFile source.name⟩ :=
      congrArg Prod.snd added
    rw [last]
    exact registry.removed_append_perm source.name
  exact ⟨rfl, registry.removeFile_count source.name, added, perm, find?_perm apart perm,
    fun _ tree sender signal => winningScore?_perm tree sender signal perm⟩

/-- Requests that add three documents and remove the first of them. -/
def buttonRequests : List Request :=
  [.addText (buttonDocument "rest"), .addText (buttonDocument "enter"),
    .addText (buttonDocument "leave"), .removeFile "rest.xml"]

/-- The second document is reloaded behind the third one, and the first one could be added
and taken back again. -/
theorem reloading_enter :
    let registry := empty.run buttonRequests
    let enter := buttonDocument "enter"
    let rest := buttonDocument "rest"
    StemFrom buttonRequests enter ∧ registry.ofFile rest.name = [] ∧ registry.Accepts rest ∧
      ((registry.removeFile enter.name).2.next enter).triggers =
        (alone (buttonDocument "leave")).triggers ++ (alone enter).triggers ∧
      ((registry.removeFile enter.name).2.next enter).find? "enter" = registry.find? "enter" ∧
      (registry.next rest).removeFile rest.name = (1, registry) := by
  intro registry enter rest
  have stem : StemFrom buttonRequests enter :=
    ⟨[], [buttonDocument "leave"], by decide +kernel, by decide +kernel⟩
  have absent : registry.ofFile rest.name = [] := by decide +kernel
  have accepted : registry.Accepts rest := ⟨1, by decide +kernel⟩
  obtain ⟨_, _, added, _, found, _⟩ := (reloading_lossless buttonRequests enter).1 stem
  have restored := (reloading_lossless buttonRequests rest).2 absent accepted
  refine ⟨stem, absent, accepted, ?_, found "enter", restored.trans ?_⟩
  · refine Eq.trans (congrArg (fun outcome => outcome.2.triggers) added) ?_
    decide +kernel
  · refine congrArg (·, registry) ?_
    decide +kernel

end ThemeMotion.Registry
