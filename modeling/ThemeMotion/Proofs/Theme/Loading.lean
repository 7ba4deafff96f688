import Mathlib.Data.List.Forall2
import ThemeMotion.Files.Folder
import ThemeMotion.Proofs.Theme.Provenance
import ThemeMotion.Theme.Load

/-!
# Two ways of loading themes

Loading may leave out the files that fail or stop at the first of them. Either way the theme
paths come down to files that are added one after the other, wherever they were found: a path
that is no directory stands for itself, and a directory for its theme files in the order of
their names. So both ways see the same files, each upon the same triggers, and part only at
the first failure.

A directory that cannot be listed stops the loading in either case and is left aside here.
What is noted on the way is not described.
-/

namespace ThemeMotion

namespace Registry

/-- What became of a file that was to be added: its path, and why it was left out, if it
was. -/
abbrev Verdict := String × Option LoadError

/-- Why a file was left out, if it was. -/
def refusal? : Except LoadError Nat → Option LoadError
  | .ok _ => none
  | .error error => some error

/-- The files that were added. -/
def loadedPaths (verdicts : List Verdict) : List String :=
  (verdicts.filter (·.2.isNone)).map Prod.fst

/-- The files that were left out, with the reasons. -/
def failures (verdicts : List Verdict) : List (String × LoadError) :=
  verdicts.filterMap fun verdict => verdict.2.map fun error => (verdict.1, error)

/-- The triggers that files declare, one file behind the other. -/
def declared (files : FileSource) (paths : List String) : List Trigger :=
  (ofDocuments (paths.filterMap (document? files))).triggers

/-- Each verdict is the answer to adding the file to a registry and the triggers of the files
that were added to it before. -/
def Settles (registry : Registry) (files : FileSource) (verdicts : List Verdict) : Prop :=
  ∀ earlier path refused later, verdicts = earlier ++ (path, refused) :: later →
    let present : Registry := ⟨registry.triggers ++ declared files (loadedPaths earlier)⟩
    refusal? (present.addFile files path).value.1 = refused

/-- The first verdict decides about the first file. -/
theorem loadedPaths_cons (verdict : Verdict) (verdicts : List Verdict) :
    loadedPaths (verdict :: verdicts) = loadedPaths [verdict] ++ loadedPaths verdicts := by
  unfold loadedPaths
  rw [← List.map_append, ← List.filter_append]
  rfl

/-- Files declare their triggers one behind the other. -/
theorem declared_append (files : FileSource) (first second : List String) :
    declared files (first ++ second) = declared files first ++ declared files second := by
  simp [declared, ofDocuments]

section Adding

variable (registry : Registry) (files : FileSource)

/-- A file that is added leaves the triggers that it declares behind those that are
registered, and one that is left out leaves none. -/
theorem addFile_declared (path : String) : (registry.addFile files path).value.2.triggers =
    registry.triggers ++ declared files
      (loadedPaths [(path, refusal? (registry.addFile files path).value.1)]) := by
  rw [addFile_value]
  cases reading : files.read path with
  | error fault => exact (List.append_nil _).symm
  | ok text =>
    have found : document? files path = some ⟨text, path⟩ := by rw [document?, reading]; rfl
    show (registry.outcome ⟨text, path⟩).2.triggers = registry.triggers ++ declared files
      (loadedPaths [(path, refusal? (registry.outcome ⟨text, path⟩).1)])
    by_cases accepted : registry.Accepts ⟨text, path⟩
    · have own : declared files [path] = (alone ⟨text, path⟩).triggers := by
        simp [declared, ofDocuments, found]
      rw [outcome_accepted registry _ accepted, ← own]
      rfl
    · have same : (registry.outcome ⟨text, path⟩).2 = registry :=
        next_refused registry ⟨text, path⟩ accepted
      cases answer : (registry.outcome ⟨text, path⟩).1 with
      | ok count => exact absurd ⟨count, answer⟩ accepted
      | error error =>
        rw [same]
        exact (List.append_nil _).symm

/-- The first verdict is given upon the registry, and the others upon what the first file
leaves. -/
theorem settles_cons (path : String) (verdicts : List Verdict)
    (settles : (registry.addFile files path).value.2.Settles files verdicts) :
    registry.Settles files
      ((path, refusal? (registry.addFile files path).value.1) :: verdicts) := by
  intro earlier other refused later split
  cases earlier with
  | nil =>
    obtain ⟨same, _⟩ := List.cons.inj split
    obtain ⟨rfl, rfl⟩ := Prod.mk.inj same
    have nothing : declared files (loadedPaths []) = [] := rfl
    rw [nothing, List.append_nil]
  | cons first earlier =>
    obtain ⟨rfl, rest⟩ := List.cons.inj split
    have next := settles earlier other refused later rest
    have present : (registry.addFile files path).value.2.triggers ++
          declared files (loadedPaths earlier) =
        registry.triggers ++ declared files (loadedPaths
          ((path, refusal? (registry.addFile files path).value.1) :: earlier)) := by
      rw [addFile_declared, List.append_assoc, ← declared_append, ← loadedPaths_cons]
    rwa [present] at next

/-- Files that are added one after the other are each loaded or left out by their verdicts,
and the triggers of those that were loaded are registered in their order.

Induction on the files for every registry, since the verdicts on the later ones are given upon
what the first one leaves. -/
theorem addFiles_settles (paths : List String) :
    let added := (registry.addFiles files paths).value
    ∃ verdicts, verdicts.map Prod.fst = paths ∧ registry.Settles files verdicts ∧
      added.1.loaded.map Prod.fst = loadedPaths verdicts ∧ added.1.failed = failures verdicts ∧
      added.2.triggers = registry.triggers ++ declared files (loadedPaths verdicts) := by
  induction paths generalizing registry with
  | nil =>
    refine ⟨[], rfl, ?_, rfl, rfl, (List.append_nil _).symm⟩
    intro earlier path refused later split
    simp at split
  | cons path rest inductionHypothesis =>
    obtain ⟨verdicts, named, settles, loaded, failed, registered⟩ :=
      inductionHypothesis (registry.addFile files path).value.2
    have first := registry.addFile_declared files path
    refine ⟨_, ?_, registry.settles_cons files path verdicts settles, ?_⟩
    · rw [List.map_cons, named]
    · rw [addFiles_cons]
      rw [first, List.append_assoc, ← declared_append] at registered
      generalize (registry.addFile files path).value = outcome at loaded failed registered
      obtain ⟨answer, next⟩ := outcome
      cases answer with
      | ok count => exact ⟨congrArg (path :: ·) loaded, failed, registered⟩
      | error error => exact ⟨loaded, congrArg ((path, error) :: ·) failed, registered⟩

/-- Adding two lists of files is adding the one and then the other. -/
theorem addFiles_append (first second : List String) :
    (registry.addFiles files (first ++ second)).value =
      let (load, next) := (registry.addFiles files first).value
      let (load', last) := (next.addFiles files second).value
      (⟨load.loaded ++ load'.loaded, load.failed ++ load'.failed⟩, last) := by
  induction first generalizing registry with
  | nil => rfl
  | cons path rest inductionHypothesis =>
    rw [List.cons_append, addFiles_cons, addFiles_cons]
    generalize (registry.addFile files path).value = outcome
    obtain ⟨answer, next⟩ := outcome
    simp only [inductionHypothesis next]
    cases answer <;> rfl

end Adding

/-- The names in a directory that are chosen as theme files: those with the extension that
are regular files, in order. -/
structure Chosen (files : FileSource) (directory extension : String)
    (names chosen : List String) : Prop where
  themes : chosen.Perm (names.filter fun name =>
    hasExtension extension name && files.isFile (Path.join directory name))
  ordered : chosen.Pairwise (· ≤ ·)

/-- The candidates in a directory are its theme files. -/
theorem candidates_chosen (files : FileSource) (directory extension : String)
    (names : List String) : ∃ chosen, Chosen files directory extension names chosen ∧
      candidates files directory extension names = chosen.map (Path.join directory) := by
  let isTheme (name : String) : Bool := files.isFile (Path.join directory name)
  let sorted := (names.filter (hasExtension extension)).mergeSort fun first second => first ≤ second
  have order : sorted.Pairwise (· ≤ ·) := by
    have sorts : sorted.Pairwise fun first second => decide (first ≤ second) :=
      List.pairwise_mergeSort (fun _ _ _ => by simpa using String.le_trans)
        (fun _ _ => by simpa using String.le_total _ _) _
    simpa only [decide_eq_true_eq] using sorts
  refine ⟨sorted.filter isTheme, ⟨?_, order.sublist List.filter_sublist⟩, ?_⟩
  · have perm := (List.mergeSort_perm (names.filter (hasExtension extension))
      (fun first second => first ≤ second)).filter isTheme
    rw [List.filter_filter] at perm
    exact perm.trans (List.Perm.of_eq (List.filter_congr fun _ _ => Bool.and_comm _ _))
  · exact List.filter_map

/-- There is only one choice of theme files. -/
theorem Chosen.unique {files : FileSource} {directory extension : String}
    {names chosen chosen' : List String} (first : Chosen files directory extension names chosen)
    (second : Chosen files directory extension names chosen') : chosen = chosen' :=
  (first.themes.trans second.themes.symm).eq_of_pairwise
    (fun _ _ _ _ => String.le_antisymm) first.ordered second.ordered

end Registry

namespace Settings

open Registry (Chosen Settles declared failures loadedPaths themeFiles)

/-- The files that a theme path stands for: itself, unless it is a directory, and else the
theme files of the directory. -/
inductive StandsFor (settings : Settings) (files : FileSource) : String → List String → Prop where
  | file {path : String} (plain : files.isDirectory path = false) :
    StandsFor settings files path [path]
  | directory {path : String} {names chosen : List String}
    (isDirectory : files.isDirectory path = true) (listed : files.list path = .ok names)
    (choice : Chosen files path settings.extension names chosen) :
    StandsFor settings files path (chosen.map (Path.join path))

/-- The files that are added for a theme path. -/
def filesAt (settings : Settings) (files : FileSource) (path : String) : List String :=
  if files.isDirectory path then themeFiles files path settings.extension else [path]

/-- What the loading comes to when files were added to what was loaded before. -/
def settle (settings : Settings) (loading : Loading) (added : DirectoryLoad × Registry) :
    Except LoadFailure Loading :=
  match settings.failFast, added.1.failed with
  | true, (file, error) :: _ => .error (.file file error)
  | _, _ => .ok (added.2, loading.2.add added.1)

section Paths

variable (settings : Settings) (files : FileSource) (loading : Loading)

/-- The files that are added for a theme path are those that it stands for. -/
theorem standsFor_filesAt {path : String}
    (listed : files.isDirectory path = true → ∃ names, files.list path = .ok names) :
    settings.StandsFor files path (settings.filesAt files path) := by
  unfold filesAt themeFiles
  cases isDirectory : files.isDirectory path with
  | false => exact .file isDirectory
  | true =>
    obtain ⟨names, names_eq⟩ := listed isDirectory
    obtain ⟨chosen, choice, candidates_eq⟩ :=
      Registry.candidates_chosen files path settings.extension names
    rw [if_pos rfl, names_eq]
    simp only [candidates_eq]
    exact .directory isDirectory names_eq choice

/-- A theme path stands for no other files. -/
theorem StandsFor.filesAt_eq {settings : Settings} {files : FileSource} {path : String}
    {part : List String} (stands : settings.StandsFor files path part) :
    settings.filesAt files path = part := by
  cases stands with
  | file plain => rw [filesAt, plain, if_neg Bool.false_ne_true]
  | @directory names chosen isDirectory listed choice =>
    obtain ⟨chosen', choice', candidates_eq⟩ :=
      Registry.candidates_chosen files path settings.extension names
    rw [filesAt, isDirectory, if_pos rfl, themeFiles, listed]
    exact candidates_eq.trans (congrArg _ (choice'.unique choice))

/-- The files that are added for theme paths are those that the paths stand for, one path
behind the other. -/
theorem flatMap_filesAt {settings : Settings} {files : FileSource} {paths : List String}
    {parts : List (List String)} (stand : List.Forall₂ (settings.StandsFor files) paths parts) :
    paths.flatMap (settings.filesAt files) = parts.flatten := by
  induction stand with
  | nil => rfl
  | cons stands _ inductionHypothesis =>
    rw [List.flatMap_cons, List.flatten_cons, stands.filesAt_eq, inductionHypothesis]

/-- A file and a directory are loaded alike: the files that the path stands for are added, and
the first of those that fail stops the loading if it is to stop. -/
theorem loadPath_value {path : String}
    (listed : files.isDirectory path = true → ∃ names, files.list path = .ok names) :
    (settings.loadPath files loading path).value =
      settings.settle loading (loading.1.addFiles files (settings.filesAt files path)).value := by
  unfold loadPath filesAt
  cases isDirectory : files.isDirectory path with
  | false =>
    unfold loadFile
    rw [if_neg Bool.false_ne_true, if_neg Bool.false_ne_true, Trace.Noted.value_bind,
      Registry.addFiles_cons]
    generalize (loading.1.addFile files path).value = outcome
    obtain ⟨answer, next⟩ := outcome
    cases answer <;> cases failFast : settings.failFast <;>
      simp [settle, failFast, Registry.addFiles]
  | true =>
    obtain ⟨names, names_eq⟩ := listed isDirectory
    unfold loadDirectory Registry.addDirectory themeFiles
    simp only [names_eq, if_true, Trace.Noted.value_bind, Trace.Noted.value_pure]
    generalize (loading.1.addFiles files _).value = added
    obtain ⟨⟨loaded, failed⟩, next⟩ := added
    cases failFast : settings.failFast <;> cases failed <;> simp [settle, failFast]

/-- Adding files in two steps settles like adding them at once. -/
theorem settle_append (first second : List String) :
    settings.settle loading (loading.1.addFiles files (first ++ second)).value =
      match settings.settle loading (loading.1.addFiles files first).value with
      | .error failure => .error failure
      | .ok next => settings.settle next (next.1.addFiles files second).value := by
  rw [Registry.addFiles_append]
  generalize (loading.1.addFiles files first).value = added
  obtain ⟨⟨loaded, failed⟩, next⟩ := added
  generalize rest : (next.addFiles files second).value = added
  obtain ⟨⟨loaded', failed'⟩, last⟩ := added
  cases failFast : settings.failFast <;> cases failed <;> cases failed' <;>
    simp [settle, failFast, rest, LoadReport.add]

/-- Loading paths one after the other is adding all files that they stand for. -/
theorem loadPaths_value (paths : List String)
    (listed : ∀ path ∈ paths, files.isDirectory path = true →
      ∃ names, files.list path = .ok names) :
    (settings.loadPaths files loading paths).value = settings.settle loading
      (loading.1.addFiles files (paths.flatMap (settings.filesAt files))).value := by
  induction paths generalizing loading with
  | nil => cases failFast : settings.failFast <;> simp [loadPaths, settle, failFast,
      Registry.addFiles, LoadReport.add]
  | cons path rest inductionHypothesis =>
    rw [loadPaths, Trace.Noted.value_bind, List.flatMap_cons, settle_append,
      ← loadPath_value settings files loading (listed path List.mem_cons_self)]
    cases (settings.loadPath files loading path).value with
    | error failure => rfl
    | ok next =>
      exact inductionHypothesis next fun other member =>
        listed other (List.mem_cons_of_mem _ member)

/-- The themes are loaded into an empty registry. -/
theorem loadThemes_value
    (listed : ∀ path ∈ settings.paths, files.isDirectory path = true →
      ∃ names, files.list path = .ok names) :
    (settings.loadThemes files).value = settings.settle (.empty, .empty)
      (Registry.empty.addFiles files (settings.paths.flatMap (settings.filesAt files))).value := by
  rw [← loadPaths_value settings files (.empty, .empty) settings.paths listed]
  unfold loadThemes
  rw [Trace.Noted.value_bind, Trace.Noted.value_bind]
  cases (settings.loadPaths files (.empty, .empty) settings.paths).value <;> rfl

end Paths

/-- Both ways of loading agree. Let every directory among the theme paths be listed. When
failures are left out, the loading succeeds, and there is a verdict on each of the files that
the theme paths stand for, in their order: a file is loaded or it has failed, by what adding
it to the triggers of the files loaded before it answers. The triggers of the files that
were loaded are registered, and nothing else. When failures stop the loading, the result is
the same if there are none, and else the first of them. -/
theorem loading_agrees (settings : Settings) (files : FileSource)
    (listed : ∀ path ∈ settings.paths, files.isDirectory path = true →
      ∃ names, files.list path = .ok names) :
    ∃ engine report parts verdicts,
      ({ settings with failFast := false }.loadThemes files).value = .ok (engine, report) ∧
      List.Forall₂ (settings.StandsFor files) settings.paths parts ∧
      verdicts.map Prod.fst = parts.flatten ∧ Registry.empty.Settles files verdicts ∧
      report.loaded = loadedPaths verdicts ∧ report.failed = failures verdicts ∧
      engine.triggers = declared files report.loaded ∧
      ({ settings with failFast := true }.loadThemes files).value =
        match report.failed with
        | [] => .ok (engine, report)
        | (file, error) :: _ => .error (.file file error) := by
  let all := settings.paths.flatMap (settings.filesAt files)
  obtain ⟨verdicts, named, settles, loaded, failed, registered⟩ :=
    Registry.empty.addFiles_settles files all
  generalize added_eq : (Registry.empty.addFiles files all).value = added
    at loaded failed registered
  have lenient := loadThemes_value { settings with failFast := false } files listed
  have strict := loadThemes_value { settings with failFast := true } files listed
  refine ⟨added.2, LoadReport.empty.add added.1, settings.paths.map (settings.filesAt files),
    verdicts, ?_, ?_, ?_, settles, loaded, failed, ?_, ?_⟩
  · exact lenient.trans (congrArg _ added_eq)
  · rw [List.forall₂_map_right_iff, List.forall₂_same]
    exact fun path member => settings.standsFor_filesAt files (listed path member)
  · exact named
  · exact registered.trans (congrArg (declared files) loaded.symm)
  · refine (strict.trans (congrArg _ added_eq)).trans ?_
    obtain ⟨⟨_, refused⟩, engine⟩ := added
    cases refused <;> rfl

/-- A folder with a directory that lists a broken theme before a sound one, and a theme beside
the directory. -/
def themeFolder : Folder :=
  ⟨[(["themes"], .directory),
    (["themes", "b.xml"], .text "<animations><bogus/></animations>"),
    (["themes", "a.xml"],
      .text "<animations><trigger id='a' sender='Button' signal='clicked'/></animations>"),
    (["extra.xml"],
      .text "<animations><trigger id='extra' sender='Button' signal='hovered'/></animations>")]⟩

/-- Settings that name the directory and twice the theme beside it. -/
def themeSettings : Settings := { standard with paths := ["themes", "extra.xml", "extra.xml"] }

/-- The broken theme is left out, and so is the theme that is named twice, the second time.
When failures stop the loading, it stops at the broken theme. -/
theorem loading_broken_theme :
    let files := themeFolder.source
    (∀ path ∈ themeSettings.paths, files.isDirectory path = true →
      ∃ names, files.list path = .ok names) ∧
    ∃ engine report,
      ({ themeSettings with failFast := false }.loadThemes files).value = .ok (engine, report) ∧
      report.loaded = ["themes/a.xml", "extra.xml"] ∧
      report.failed.map Prod.fst = ["themes/b.xml", "extra.xml"] ∧
      ∃ error, ({ themeSettings with failFast := true }.loadThemes files).value =
        .error (.file "themes/b.xml" error) := by
  intro files
  have directory : files.list "themes" = .ok ["b.xml", "a.xml"] := by decide
  have listed : ∀ path ∈ themeSettings.paths, files.isDirectory path = true →
      ∃ names, files.list path = .ok names := by
    intro path member isDirectory
    obtain rfl : path = "themes" := by
      revert path
      decide
    exact ⟨_, directory⟩
  have choice : Chosen files "themes" "xml" ["b.xml", "a.xml"] ["a.xml", "b.xml"] :=
    ⟨by decide, by decide⟩
  have themes : themeSettings.StandsFor files "themes"
      (["a.xml", "b.xml"].map (Path.join "themes")) :=
    .directory (by decide) directory choice
  have extra : themeSettings.StandsFor files "extra.xml" ["extra.xml"] := .file (by decide)
  have all : themeSettings.paths.flatMap (themeSettings.filesAt files) =
      ["themes/a.xml", "themes/b.xml", "extra.xml", "extra.xml"] :=
    (flatMap_filesAt (.cons themes (.cons extra (.cons extra .nil)))).trans (by decide)
  obtain ⟨engine, report, _, _, lenient, _, _, _, _, _, _, strict⟩ :=
    loading_agrees themeSettings files listed
  have computed := (loadThemes_value { themeSettings with failFast := false } files listed).trans
    (congrArg (fun paths => settle { themeSettings with failFast := false } (.empty, .empty)
      (Registry.empty.addFiles files paths).value) all)
  have report_eq : some (report.loaded, report.failed.map Prod.fst) =
      some (["themes/a.xml", "extra.xml"], ["themes/b.xml", "extra.xml"]) := by
    refine (congrArg (fun answer => answer.toOption.map fun loading : Loading =>
      (loading.2.loaded, loading.2.failed.map Prod.fst)) (lenient.symm.trans computed)).trans ?_
    decide +kernel
  obtain ⟨loaded, failed⟩ := Prod.mk.inj (Option.some.inj report_eq)
  refine ⟨listed, engine, report, lenient, loaded, failed, ?_⟩
  rw [strict]
  cases refused : report.failed with
  | nil => simp [refused] at failed
  | cons first rest =>
    obtain ⟨file, error⟩ := first
    rw [refused, List.map_cons] at failed
    obtain ⟨rfl, _⟩ := List.cons.inj failed
    exact ⟨error, rfl⟩

end Settings

end ThemeMotion
