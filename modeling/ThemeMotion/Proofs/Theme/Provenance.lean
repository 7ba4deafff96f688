import ThemeMotion.Proofs.Theme.Invariant

/-!
# Where registered triggers come from

A document is in force from the request that adds it until a request that removes the
triggers of its file, or all triggers. A registry that requests lead to holds the triggers
of the documents in force, one document behind the other, and nothing else. Documents that
are refused and files that cannot be read are never in force.

Which documents are in force is told from the requests and the answers to them alone. The
same document may be in force more than once if it declares no triggers.
-/

namespace ThemeMotion

/-- The triggers of a document bear the name of its file. -/
theorem Document.declared_file {file : String} {row : List Mark} {triggers : List Trigger}
    (declares : IsDocument file row triggers) : ∀ trigger ∈ triggers, trigger.file = file := by
  obtain ⟨_, holds⟩ := declares
  intro trigger member
  obtain ⟨_, declared⟩ := repeated_mem holds trigger member
  cases declared
  rfl

namespace Registry

/-- What a document leaves alone bears its name. -/
theorem alone_file (source : Source) : ∀ trigger ∈ (alone source).triggers,
    trigger.file = source.name := by
  by_cases accepted : empty.Accepts source
  · obtain ⟨triggers, reading⟩ := (empty.accepts_iff_read source).mp accepted
    rw [alone_read source reading]
    exact Document.declared_file ((Document.read_exact _ _ _).mp reading).1
  · have nothing : alone source = empty := next_refused empty source accepted
    rw [nothing]
    nofun

/-- The registry of documents: their triggers, one document behind the other. -/
def ofDocuments (documents : List Source) : Registry :=
  ⟨documents.flatMap fun document => (alone document).triggers⟩

/-- One more document comes last. -/
theorem ofDocuments_concat (documents : List Source) (source : Source) :
    ofDocuments (documents ++ [source]) =
      ⟨(ofDocuments documents).triggers ++ (alone source).triggers⟩ := by
  simp [ofDocuments]

/-- Of the documents whose names satisfy a condition, the triggers are those whose files
satisfy it. -/
theorem ofDocuments_filter (documents : List Source) (keep : String → Bool) :
    (ofDocuments (documents.filter fun document => keep document.name)).triggers =
      (ofDocuments documents).triggers.filter fun trigger => keep trigger.file := by
  induction documents with
  | nil => rfl
  | cons document rest inductionHypothesis =>
    have others : (alone document).triggers.filter (fun trigger => keep trigger.file) =
        if keep document.name then (alone document).triggers else [] := by
      rw [List.filter_congr fun trigger member =>
        congrArg keep (alone_file document trigger member)]
      cases keep document.name <;> simp
    simp only [ofDocuments, List.flatMap_cons, List.filter_append] at inductionHypothesis ⊢
    rw [others, ← inductionHypothesis]
    cases kept : keep document.name <;> simp [kept]

/-- The documents in force when one more is offered. -/
def enlist (documents : List Source) (source : Source) : List Source :=
  match ((ofDocuments documents).outcome source).1 with
  | .ok _ => documents ++ [source]
  | .error _ => documents

/-- The document in a file, which bears the path as its name. -/
def document? (files : FileSource) (path : String) : Option Source :=
  (files.read path).toOption.map fun text => ⟨text, path⟩

/-- The theme files of a directory, none when it cannot be listed. -/
def themeFiles (files : FileSource) (directory extension : String) : List String :=
  match files.list directory with
  | .error _ => []
  | .ok names => candidates files directory extension names

/-- The documents in force after a request. -/
def inForceAfter (documents : List Source) : Request → List Source
  | .addText source => enlist documents source
  | .addFile files path => (document? files path).toList.foldl enlist documents
  | .addDirectory files directory extension =>
    ((themeFiles files directory extension).filterMap (document? files)).foldl enlist documents
  | .removeFile file => documents.filter (·.name != file)
  | .clear => []

/-- The documents in force after requests, in the order in which they were added. -/
def inForce (requests : List Request) : List Source := requests.foldl inForceAfter []

section Enlisting

variable {documents : List Source} {source : Source}

/-- An accepted document is in force behind the others. -/
theorem enlist_accepted (accepted : (ofDocuments documents).Accepts source) :
    enlist documents source = documents ++ [source] := by
  obtain ⟨count, answer⟩ := accepted
  rw [enlist, answer]

/-- A refused document changes nothing. -/
theorem enlist_refused (refused : ¬ (ofDocuments documents).Accepts source) :
    enlist documents source = documents := by
  unfold enlist
  split
  · next count answer => exact absurd ⟨count, answer⟩ refused
  · rfl

variable (documents source)

/-- Documents that are in force are registered. -/
theorem next_ofDocuments :
    (ofDocuments documents).next source = ofDocuments (enlist documents source) := by
  by_cases accepted : (ofDocuments documents).Accepts source
  · rw [enlist_accepted accepted, ofDocuments_concat, next, outcome_accepted _ _ accepted]
  · rw [enlist_refused accepted, next_refused _ _ accepted]

/-- Documents that are offered one after the other are registered when they are in force. -/
theorem nexts_ofDocuments (offered : List Source) :
    offered.foldl next (ofDocuments documents) = ofDocuments (offered.foldl enlist documents) := by
  induction offered generalizing documents with
  | nil => rfl
  | cons source rest inductionHypothesis =>
    rw [List.foldl_cons, List.foldl_cons, next_ofDocuments, inductionHypothesis]

/-- Only documents that are accepted on their own come to be in force. -/
theorem enlist_sound (sound : ∀ document ∈ documents, empty.Accepts document) :
    ∀ document ∈ enlist documents source, empty.Accepts document := by
  by_cases accepted : (ofDocuments documents).Accepts source
  · rw [enlist_accepted accepted]
    intro document member
    rcases List.mem_append.mp member with earlier | last
    · exact sound document earlier
    · obtain rfl := List.mem_singleton.mp last
      exact ((accepts_iff _ _).mp accepted).1
  · rwa [enlist_refused accepted]

/-- The same holds for documents that are offered one after the other. -/
theorem foldl_enlist_sound (offered : List Source)
    (sound : ∀ document ∈ documents, empty.Accepts document) :
    ∀ document ∈ offered.foldl enlist documents, empty.Accepts document := by
  induction offered generalizing documents with
  | nil => exact sound
  | cons source rest inductionHypothesis =>
    exact inductionHypothesis _ (enlist_sound documents source sound)

end Enlisting

section Files

variable (registry : Registry) (files : FileSource)

/-- Adding a file is adding the document in it, if there is one. -/
theorem addFile_value (path : String) : (registry.addFile files path).value =
    match files.read path with
    | .error fault => (.error (.unreadable path fault), registry)
    | .ok text => registry.outcome ⟨text, path⟩ := by
  unfold addFile
  cases files.read path <;> rfl

/-- The registry after adding a file. -/
theorem addFile_next (path : String) : (registry.addFile files path).value.2 =
    (document? files path).toList.foldl next registry := by
  rw [addFile_value]
  unfold document?
  cases files.read path <;> rfl

/-- The first of some files is added before the others, which are added to what it leaves. -/
theorem addFiles_cons (path : String) (rest : List String) :
    (registry.addFiles files (path :: rest)).value =
      let (answer, next) := (registry.addFile files path).value
      let (load, last) := (next.addFiles files rest).value
      match answer with
      | .ok count => (⟨(path, count) :: load.loaded, load.failed⟩, last)
      | .error error => (⟨load.loaded, (path, error) :: load.failed⟩, last) := by
  rw [addFiles, Trace.Noted.value_bind]
  generalize (registry.addFile files path).value = outcome
  obtain ⟨answer, next⟩ := outcome
  cases answer <;> rfl

/-- The registry after adding files one after the other. -/
theorem addFiles_next (paths : List String) : (registry.addFiles files paths).value.2 =
    (paths.filterMap (document? files)).foldl next registry := by
  induction paths generalizing registry with
  | nil => rfl
  | cons path rest inductionHypothesis =>
    have offered : (path :: rest).filterMap (document? files) =
        (document? files path).toList ++ rest.filterMap (document? files) := by
      rw [List.filterMap_cons]
      cases document? files path <;> rfl
    rw [offered, List.foldl_append, ← addFile_next, ← inductionHypothesis, addFiles_cons]
    generalize (registry.addFile files path).value = outcome
    obtain ⟨answer, next⟩ := outcome
    cases answer <;> rfl

/-- The registry after adding a directory is the one after adding its theme files. -/
theorem addDirectory_next (directory extension : String) :
    (registry.addDirectory files directory extension).value.2 =
      (registry.addFiles files (themeFiles files directory extension)).value.2 := by
  unfold addDirectory themeFiles
  cases files.list directory <;> rfl

end Files

/-- What is registered after a request is what is in force after it. -/
theorem after_inForce (documents : List Source) (request : Request) :
    (ofDocuments documents).after request = ofDocuments (inForceAfter documents request) := by
  cases request with
  | addText source => exact next_ofDocuments documents source
  | addFile files path =>
    exact (addFile_next _ files path).trans (nexts_ofDocuments documents _)
  | addDirectory files directory extension =>
    calc ((ofDocuments documents).addDirectory files directory extension).value.2
      _ = ((ofDocuments documents).addFiles files (themeFiles files directory extension)).value.2 :=
        addDirectory_next _ files directory extension
      _ = _ := (addFiles_next _ files _).trans (nexts_ofDocuments documents _)
  | removeFile file =>
    exact congrArg Registry.mk (ofDocuments_filter documents (· != file)).symm
  | clear => rfl

/-- Every document that is in force after a request is accepted on its own. -/
theorem inForceAfter_sound (documents : List Source) (request : Request)
    (sound : ∀ document ∈ documents, empty.Accepts document) :
    ∀ document ∈ inForceAfter documents request, empty.Accepts document := by
  cases request with
  | addText source => exact enlist_sound documents source sound
  | addFile files path => exact foldl_enlist_sound documents _ sound
  | addDirectory files directory extension => exact foldl_enlist_sound documents _ sound
  | removeFile file => exact fun document member => sound document (List.mem_of_mem_filter member)
  | clear => nofun

/-- A registry that requests lead to holds the triggers of the documents in force, in the
order in which the documents were added.

Induction on the requests for any documents in force, since later requests start from those
that earlier ones left. -/
theorem run_inForce (requests : List Request) :
    empty.run requests = ofDocuments (inForce requests) := by
  suffices general : ∀ documents : List Source,
      (ofDocuments documents).run requests =
        ofDocuments (requests.foldl inForceAfter documents) from
    general []
  intro documents
  induction requests generalizing documents with
  | nil => rfl
  | cons request rest inductionHypothesis =>
    rw [List.foldl_cons, ← inductionHypothesis, ← after_inForce]
    rfl

/-- Every document in force is accepted on its own. -/
theorem inForce_sound (requests : List Request) :
    ∀ document ∈ inForce requests, empty.Accepts document := by
  suffices general : ∀ documents : List Source, (∀ document ∈ documents, empty.Accepts document) →
      ∀ document ∈ requests.foldl inForceAfter documents, empty.Accepts document from
    general [] nofun
  intro documents sound
  induction requests generalizing documents with
  | nil => exact sound
  | cons request rest inductionHypothesis =>
    exact inductionHypothesis _ (inForceAfter_sound documents request sound)

end Registry

end ThemeMotion
