import ThemeMotion.Proofs.Selector.Chain
import ThemeMotion.Proofs.Theme.Merging

/-!
# What every registry satisfies

A registry is changed by requests only. Whatever they are, whatever files they find and
whether they succeed or fail, the triggers that are registered have different ids, and
each of them is as a document of its file may declare it.

The conditions on one trigger follow from the grammar of documents; that the ids differ
follows from the acceptance of documents, which takes the registered triggers into
account. `after_well_formed` carries both over one request, and
`requests_keep_well_formed` over any number of them.
-/

namespace ThemeMotion

/-- A property has a name, and its texts are not empty where they are given. -/
structure PropertyTarget.WellFormed (property : PropertyTarget) : Prop where
  named : property.name ≠ ""
  starting : ∀ text, property.fromText = some text → text ≠ ""
  ending : ∀ text, property.toText = some text → text ≠ ""

/-- A target as a document of the file declares it. -/
structure Target.WellFormed (file : String) (target : Target) : Prop where
  selected : ∀ selector, target.selector = some selector → selector.chain.WellFormed file
  repeated : -1 ≤ target.timeline.repetition.toInt
  changing : ∀ property ∈ target.properties, property.WellFormed

/-- A trigger as a document of its file declares it. -/
structure Trigger.WellFormed (trigger : Trigger) : Prop where
  identified : HasIdForm trigger.id
  signalled : trigger.signal ≠ ""
  sent : trigger.sender.chain.WellFormed trigger.file
  aimed : ∀ target ∈ trigger.targets, target.WellFormed trigger.file

/-- A registry whose triggers can be told apart by their ids and are well formed. -/
structure Registry.WellFormed (registry : Registry) : Prop where
  apart : (registry.triggers.map (·.id)).Nodup
  each : ∀ trigger ∈ registry.triggers, trigger.WellFormed

namespace Document

/-- A selector that a tag declares is well formed for the file of the tag. -/
theorem reads_well_formed {file : String} {place : Place} {text : String} {selector : Selector}
    (reads : ReadsSelector file place text selector) : selector.chain.WellFormed file := by
  apply Selector.chain_well_formed
  unfold ReadsSelector Selector.parseAt Selector.ofPieces at reads
  cases pieces : Selector.read [] none (Piece.scan text) with
  | error fault =>
    rw [pieces] at reads
    cases reads
  | ok reading =>
    rw [pieces] at reads
    cases reads
    rfl

/-- What is repeated is an item wherever it stands. -/
theorem repeated_mem {β : Type} {Item : List Mark → β → Prop} {content : List Mark}
    {items : List β} (repeated : Repeated Item content items) :
    ∀ item ∈ items, ∃ block, Item block item := by
  induction repeated with
  | nil => nofun
  | cons first others inductionHypothesis =>
    intro item member
    rcases List.mem_cons.mp member with rfl | later
    · exact ⟨_, first⟩
    · exact inductionHypothesis item later

/-- A `property` element declares a well-formed property. -/
theorem property_well_formed {block : List Mark} {property : PropertyTarget}
    (declares : IsProperty block property) : property.WellFormed := by
  obtain ⟨opens, named⟩ := declares
  exact ⟨value_filled opens.proper named, fun _ => value_filled opens.proper,
    fun _ => value_filled opens.proper⟩

/-- A timeline repeats forever or a number of times. -/
theorem timeline_repeats {attributes : List Markup.Attribute} {timeline : Timeline}
    (gives : GivesTimeline attributes timeline) : -1 ≤ timeline.repetition.toInt := by
  have repeated := gives.repeated
  cases given : value? attributes "repeat" with
  | none =>
    rw [given] at repeated
    have standard : timeline.repetition = 0 := repeated
    rw [standard]
    decide
  | some text =>
    rw [given] at repeated
    obtain ⟨_, _, _, bound⟩ : ReadsRepetition text timeline.repetition := repeated
    exact bound

/-- An `apply` element under a timeline that repeats rightly declares a well-formed
target. -/
theorem apply_well_formed {file : String} {timeline : Timeline} {block : List Mark}
    {target : Target} (bound : -1 ≤ timeline.repetition.toInt)
    (declares : IsApply file timeline block target) : target.WellFormed file := by
  obtain @⟨place, tag, attributes, selector, origin, content, properties, opens, gives, holds⟩ :=
    declares
  refine ⟨?_, bound, ?_⟩
  · rintro selector rfl
    have selected := gives.selected
    cases given : value? attributes "to" with
    | none =>
      rw [given] at selected
      cases selected
    | some text =>
      rw [given] at selected
      obtain ⟨read, same, reads⟩ := selected
      cases same
      exact reads_well_formed reads
  · intro property member
    obtain ⟨_, declared⟩ := repeated_mem holds property member
    exact property_well_formed declared

/-- A `trigger` element declares a well-formed trigger of its file. -/
theorem trigger_well_formed {file : String} {block : List Mark} {trigger : Trigger}
    (declares : IsTrigger file block trigger) : trigger.WellFormed := by
  obtain ⟨opens, gives, holds⟩ := declares
  obtain ⟨text, _, reads⟩ := gives.sent
  refine ⟨gives.wellFormed, value_filled opens.proper gives.signalled, reads_well_formed reads, ?_⟩
  intro target member
  obtain ⟨targets, among, member⟩ := List.mem_flatten.mp member
  obtain ⟨_, ⟨_, timed, applied⟩⟩ := repeated_mem holds targets among
  obtain ⟨_, declared⟩ := repeated_mem applied target member
  exact apply_well_formed (timeline_repeats timed) declared

/-- A document declares well-formed triggers of its file. -/
theorem document_well_formed {file : String} {row : List Mark} {triggers : List Trigger}
    (declares : IsDocument file row triggers) : ∀ trigger ∈ triggers, trigger.WellFormed := by
  obtain ⟨_, holds⟩ := declares
  intro trigger member
  obtain ⟨_, declared⟩ := repeated_mem holds trigger member
  exact trigger_well_formed declared

/-- The triggers of an accepted document are well formed. -/
theorem read_well_formed {context : Context} {source : String} {triggers : List Trigger}
    (accepted : read context source = .ok triggers) :
    ∀ trigger ∈ triggers, trigger.WellFormed := by
  exact document_well_formed ((read_exact context source triggers).mp accepted).1

end Document

namespace Registry

/-- A request that changes a registry. The files are as the request finds them. -/
inductive Request where
  | addText (source : Source)
  | addFile (files : FileSource) (path : String)
  | addDirectory (files : FileSource) (directory extension : String)
  | removeFile (file : String)
  | clear

/-- The registry after a request, whatever was answered. -/
def after (registry : Registry) : Request → Registry
  | .addText source => registry.next source
  | .addFile files path => (registry.addFile files path).value.2
  | .addDirectory files directory extension =>
    (registry.addDirectory files directory extension).value.2
  | .removeFile file => (registry.removeFile file).2
  | .clear => registry.clear

/-- The registry after requests, one after the other. -/
def run (registry : Registry) (requests : List Request) : Registry :=
  requests.foldl after registry

/-- Before anything is added, there is nothing to be wrong. -/
theorem empty_well_formed : empty.WellFormed := ⟨List.nodup_nil, nofun⟩

/-- A registry stays well formed when a document is added or refused. -/
theorem next_well_formed (registry : Registry) (source : Source)
    (wellFormed : registry.WellFormed) : (registry.next source).WellFormed := by
  unfold next
  rw [outcome_eq]
  cases reading : Document.read ⟨source.name, registry.triggers⟩ source.text with
  | error malformed => exact wellFormed
  | ok triggers =>
    obtain ⟨_, distinct⟩ := (Document.read_exact _ _ _).mp reading
    constructor
    · rw [List.map_append, List.nodup_append]
      refine ⟨wellFormed.apart, distinct.apart, ?_⟩
      rintro id registered other declared rfl
      obtain ⟨trigger, member, rfl⟩ := List.mem_map.mp declared
      exact distinct.fresh trigger member registered
    · intro trigger member
      rcases List.mem_append.mp member with registered | declared
      · exact wellFormed.each trigger registered
      · exact Document.read_well_formed reading trigger declared

/-- A registry stays well formed when the triggers of a file are removed. -/
theorem removed_well_formed (registry : Registry) (file : String)
    (wellFormed : registry.WellFormed) : (registry.removeFile file).2.WellFormed := by
  have fewer : (registry.removeFile file).2.triggers.Sublist registry.triggers :=
    List.filter_sublist
  exact ⟨wellFormed.apart.sublist (fewer.map _),
    fun trigger member => wellFormed.each trigger (fewer.subset member)⟩

section Files

variable {Kept : Registry → Prop}
  (document : ∀ registry source, Kept registry → Kept (registry.next source))
  (files : FileSource) (registry : Registry) (kept : Kept registry)

include document kept

/-- What every document keeps is kept by a file: its text is added as a document, unless
it cannot be read. -/
theorem file_keeps (path : String) : Kept (registry.addFile files path).value.2 := by
  unfold addFile
  cases files.read path with
  | error fault => exact kept
  | ok text => exact document registry ⟨text, path⟩ kept

/-- What every document keeps is kept by files that are added one after the other.

Induction on the paths. Whether a file is added or skipped, the rest of them is added to
the registry that it leaves. -/
theorem files_keep (paths : List String) : Kept (registry.addFiles files paths).value.2 := by
  induction paths generalizing registry with
  | nil => exact kept
  | cons path rest inductionHypothesis =>
    have others := inductionHypothesis _ (file_keeps document files registry kept path)
    unfold addFiles
    rw [Trace.Noted.value_bind]
    generalize (registry.addFile files path).value = outcome at others
    obtain ⟨answer, next⟩ := outcome
    cases answer <;> exact others

/-- What every document keeps is kept by a directory. -/
theorem directory_keeps (directory extension : String) :
    Kept (registry.addDirectory files directory extension).value.2 := by
  unfold addDirectory
  cases files.list directory with
  | error fault => exact kept
  | ok names =>
    exact files_keep document files registry kept (candidates files directory extension names)

end Files

/-- A well-formed registry is well formed after any request. -/
theorem after_well_formed (registry : Registry) (request : Request)
    (wellFormed : registry.WellFormed) : (registry.after request).WellFormed := by
  cases request with
  | addText source => exact next_well_formed registry source wellFormed
  | addFile files path => exact file_keeps next_well_formed files registry wellFormed path
  | addDirectory files directory extension =>
    exact directory_keeps next_well_formed files registry wellFormed directory extension
  | removeFile file => exact removed_well_formed registry file wellFormed
  | clear => exact empty_well_formed

/-- A registry that is well formed is well formed after any number of requests. -/
theorem requests_keep_well_formed (registry : Registry) (requests : List Request)
    (wellFormed : registry.WellFormed) : (registry.run requests).WellFormed := by
  induction requests generalizing registry with
  | nil => exact wellFormed
  | cons request rest inductionHypothesis =>
    exact inductionHypothesis (registry.after request)
      (after_well_formed registry request wellFormed)

/-- Every registry that requests can lead to is well formed: its triggers have different
ids of the proper form, signals and names that are not empty, texts of values that are
not empty where they are given, repetitions from minus one on, and selectors whose links
are joined rightly and stem from the file of the trigger. -/
theorem run_well_formed (requests : List Request) : (empty.run requests).WellFormed :=
  requests_keep_well_formed empty requests empty_well_formed

end Registry

end ThemeMotion
