import Mathlib.Algebra.Order.Ring.Nat
import ThemeMotion.Proofs.Text.Fields
import ThemeMotion.Proofs.Theme.Loading

/-!
# Adding what a directory lists

A host may list the entries of a directory in any order. The theme files among them are
sorted by their names before they are added, so the registry, the report and even the notes
are the same for every listing. The order matters otherwise: a file is accepted or left out
upon the triggers of the files before it.

Adding a directory is described as a fold over the sorted files, with what a single file can
do as its step. What a document declares is not described.
-/

namespace ThemeMotion

namespace Path

variable {name : String}

/-- What follows the last point of a name is its extension, unless the point comes first. -/
theorem extension?_split {stem last : List Char} (split : name.toList = stem ++ '.' :: last)
    (plain : '.' ∉ last) :
    extension? name = if stem = [] then none else some (String.ofList last) := by
  obtain ⟨before, earlier, cut⟩ : ∃ before earlier,
      (Text.fields '.' stem).reverse = before :: earlier :=
    List.exists_cons_of_ne_nil (by simpa using Text.fields_ne_nil '.' stem)
  have blank : (before.isEmpty && earlier.isEmpty) = true ↔ stem = [] := by
    rw [← @Text.fields_eq_blank_iff '.', ← List.reverse_inj, cut]
    simp
  unfold extension?
  rw [split, Text.fields_append, Text.fields_plain plain, List.reverse_concat, cut]
  dsimp only
  by_cases first : stem = []
  · rw [if_pos first, if_pos (blank.mpr first)]
  · rw [if_neg first, if_neg (mt blank.mp first)]

/-- A name has an extension where a point parts it from what comes before. -/
theorem extension?_eq_some_iff (written : String) : extension? name = some written ↔
    ∃ stem, stem ≠ [] ∧ name.toList = stem ++ '.' :: written.toList ∧
      '.' ∉ written.toList := by
  constructor
  · intro found
    by_cases parted : '.' ∈ name.toList
    · obtain ⟨stem, last, split, plain⟩ := Text.exists_last_separator parted
      rw [extension?_split split plain] at found
      split at found
      · cases found
      · next parting =>
        obtain rfl := Option.some.inj found
        rw [String.toList_ofList]
        exact ⟨stem, parting, split, plain⟩
    · unfold extension? at found
      rw [Text.fields_plain parted] at found
      cases found
  · rintro ⟨stem, parting, split, plain⟩
    rw [extension?_split split plain, if_neg parting, String.ofList_toList]

end Path

namespace Registry

/-- A name has a requested extension where it ends in a point and the letters of the
extension, in either case, and something comes before the point. -/
theorem hasExtension_iff (extension name : String) : hasExtension extension name = true ↔
    ∃ stem written, stem ≠ [] ∧ name.toList = stem ++ '.' :: written ∧ '.' ∉ written ∧
      Text.lower written = Text.lower extension.toList := by
  unfold hasExtension Text.sameIgnoringCase
  rw [Option.any_eq_true]
  simp only [Path.extension?_eq_some_iff, beq_iff_eq]
  constructor
  · rintro ⟨written, ⟨stem, parting, split, plain⟩, same⟩
    exact ⟨stem, written.toList, parting, split, plain, same⟩
  · rintro ⟨stem, written, parting, split, plain, same⟩
    refine ⟨String.ofList written, ⟨stem, parting, ?_, ?_⟩, ?_⟩ <;>
      rwa [String.toList_ofList]

/-- One more file is added, and the report says what became of it. -/
def addNext (files : FileSource) (state : DirectoryLoad × Registry) (path : String) :
    DirectoryLoad × Registry :=
  match (state.2.addFile files path).value with
  | (.ok count, next) => (⟨state.1.loaded ++ [(path, count)], state.1.failed⟩, next)
  | (.error error, next) => (⟨state.1.loaded, state.1.failed ++ [(path, error)]⟩, next)

section Steps

variable (files : FileSource)

/-- What adding a file can do: it is refused and nothing changes, or its triggers come behind
the others and the answer is their number. -/
theorem addFile_cases (registry : Registry) (path : String) :
    (∃ error, (registry.addFile files path).value = (.error error, registry)) ∨
    ∃ added : List Trigger, (registry.addFile files path).value =
      (.ok added.length, ⟨registry.triggers ++ added⟩) := by
  rw [addFile_value]
  cases files.read path with
  | error fault => exact .inl ⟨_, rfl⟩
  | ok text =>
    dsimp only
    rw [outcome_eq]
    cases Document.read ⟨path, registry.triggers⟩ text with
    | error malformed => exact .inl ⟨_, rfl⟩
    | ok triggers => exact .inr ⟨triggers, rfl⟩

/-- A step of the fold, by what became of the file. -/
theorem addNext_cases (state : DirectoryLoad × Registry) (path : String) :
    (∃ error, (state.2.addFile files path).value.1 = .error error ∧
      addNext files state path =
        (⟨state.1.loaded, state.1.failed ++ [(path, error)]⟩, state.2)) ∨
    ∃ added : List Trigger, (state.2.addFile files path).value.1 = .ok added.length ∧
      addNext files state path =
        (⟨state.1.loaded ++ [(path, added.length)], state.1.failed⟩,
          ⟨state.2.triggers ++ added⟩) := by
  unfold addNext
  rcases addFile_cases files state.2 path with ⟨error, refused⟩ | ⟨added, accepted⟩
  · exact .inl ⟨error, by rw [refused], by rw [refused]⟩
  · exact .inr ⟨added, by rw [accepted], by rw [accepted]⟩

/-- Files that are added one after the other are folded into the report and the registry. -/
theorem foldl_addNext (paths : List String) (load : DirectoryLoad) (registry : Registry) :
    paths.foldl (addNext files) (load, registry) =
      let (more, last) := (registry.addFiles files paths).value
      (⟨load.loaded ++ more.loaded, load.failed ++ more.failed⟩, last) := by
  induction paths generalizing load registry with
  | nil => simp [addFiles]
  | cons path rest inductionHypothesis =>
    have step : addNext files (load, registry) path =
        match (registry.addFile files path).value with
        | (.ok count, next) => (⟨load.loaded ++ [(path, count)], load.failed⟩, next)
        | (.error error, next) => (⟨load.loaded, load.failed ++ [(path, error)]⟩, next) := rfl
    rw [List.foldl_cons, addFiles_cons, step]
    generalize (registry.addFile files path).value = outcome
    obtain ⟨answer, next⟩ := outcome
    cases answer with
    | ok count => simp [inductionHypothesis]
    | error error => simp [inductionHypothesis]

/-- The registry grows by the numbers that the report says of the files that were loaded.

Induction on the files, for every state in which the fold may stand. -/
theorem foldl_addNext_size (paths : List String) (state : DirectoryLoad × Registry) :
    let last := paths.foldl (addNext files) state
    last.2.size + (state.1.loaded.map Prod.snd).sum =
      state.2.size + (last.1.loaded.map Prod.snd).sum := by
  induction paths generalizing state with
  | nil => rfl
  | cons path rest inductionHypothesis =>
    have later := inductionHypothesis (addNext files state path)
    rw [List.foldl_cons]
    rcases addNext_cases files state path with ⟨error, -, step⟩ | ⟨added, -, step⟩
    · rw [step] at later ⊢
      exact later
    · rw [step] at later ⊢
      simp only [size, List.map_append, List.sum_append, List.map_cons, List.map_nil,
        List.sum_singleton, List.length_append] at later ⊢
      omega

end Steps

section Listings

variable (registry : Registry) (files : FileSource)
  (listing : String → Except FileFault (List String))

/-- Files are added without asking for listings. -/
theorem addFiles_listing (paths : List String) :
    registry.addFiles { files with list := listing } paths = registry.addFiles files paths := by
  induction paths generalizing registry with
  | nil => rfl
  | cons path rest inductionHypothesis =>
    have same : registry.addFile { files with list := listing } path =
      registry.addFile files path := rfl
    simp only [addFiles, same, inductionHypothesis]

/-- The theme files of a directory do not depend on the order in which it is listed. -/
theorem candidates_perm {directory extension : String} {names listed : List String}
    (perm : listed.Perm names) :
    candidates files directory extension listed = candidates files directory extension names := by
  obtain ⟨chosen, choice, same⟩ := candidates_chosen files directory extension names
  obtain ⟨chosen', choice', same'⟩ := candidates_chosen files directory extension listed
  have alike : Chosen files directory extension names chosen' :=
    ⟨choice'.themes.trans (perm.filter _), choice'.ordered⟩
  rw [same, same', choice.unique alike]

end Listings

/-- Adding a directory. When it cannot be listed, the answer says so and the registry is as
before. Else there is one choice of its regular files with the extension in the order of
their names, and the outcome is that of adding them one after the other: each either has
failed and leaves the registry alone, or puts its triggers behind the others and is reported
with their number. So the registry grows by the sum of these numbers. With any other order of
the listing the outcome is the same, and so are the notes.

A name has the extension where it ends in a point and the letters of the extension, in
either case, and something comes before the point. -/
theorem directory_exact (registry : Registry) (files : FileSource)
    (directory extension : String) :
    (∀ name, hasExtension extension name = true ↔
      ∃ stem written, stem ≠ [] ∧ name.toList = stem ++ '.' :: written ∧ '.' ∉ written ∧
        Text.lower written = Text.lower extension.toList) ∧
    match files.list directory with
    | .error fault =>
      (registry.addDirectory files directory extension).value =
        (.error (.unreadable directory fault), registry)
    | .ok names =>
      ∃ chosen, Chosen files directory extension names chosen ∧
        (∀ other, Chosen files directory extension names other → other = chosen) ∧
        let last :=
          (chosen.map (Path.join directory)).foldl (addNext files) (⟨[], []⟩, registry)
        (registry.addDirectory files directory extension).value = (.ok last.1, last.2) ∧
        (∀ state path,
          (∃ error, (state.2.addFile files path).value.1 = .error error ∧
            addNext files state path =
              (⟨state.1.loaded, state.1.failed ++ [(path, error)]⟩, state.2)) ∨
          ∃ added : List Trigger, (state.2.addFile files path).value.1 = .ok added.length ∧
            addNext files state path =
              (⟨state.1.loaded ++ [(path, added.length)], state.1.failed⟩,
                ⟨state.2.triggers ++ added⟩)) ∧
        last.2.size = registry.size + (last.1.loaded.map Prod.snd).sum ∧
        ∀ listing listed, listing directory = .ok listed → listed.Perm names →
          registry.addDirectory { files with list := listing } directory extension =
            registry.addDirectory files directory extension := by
  refine ⟨hasExtension_iff extension, ?_⟩
  cases present : files.list directory with
  | error fault =>
    show (registry.addDirectory files directory extension).value = _
    unfold addDirectory
    rw [present]
    rfl
  | ok names =>
    obtain ⟨chosen, choice, sorted⟩ := candidates_chosen files directory extension names
    refine ⟨chosen, choice, fun other rival => rival.unique choice, ?_⟩
    intro last
    have folded : last = (registry.addFiles files (chosen.map (Path.join directory))).value := by
      simp only [last, foldl_addNext, List.nil_append]
    refine ⟨?_, addNext_cases files, ?_, ?_⟩
    · unfold addDirectory
      rw [present, folded, ← sorted]
      rfl
    · have grown := foldl_addNext_size files (chosen.map (Path.join directory))
        (⟨[], []⟩, registry)
      simpa using grown
    · intro listing listed relisted perm
      have same : candidates { files with list := listing } directory extension listed =
          candidates files directory extension names := candidates_perm files perm
      unfold addDirectory
      rw [present]
      simp only [relisted, same, addFiles_listing]

/-- A directory that lists three themes backwards. The first of them by name is broken, and the
other two declare the same id. A directory and a text file are listed with them. -/
def mixedFolder : Folder :=
  ⟨[(["themes"], .directory),
    (["themes", "c.xml"],
      .text "<animations><trigger id='glow' sender='Button' signal='hovered'/></animations>"),
    (["themes", "b.XML"],
      .text "<animations><trigger id='glow' sender='Button' signal='clicked'/></animations>"),
    (["themes", "a.xml"], .text "<animations><bogus/></animations>"),
    (["themes", "d.xml"], .directory),
    (["themes", "notes.txt"], .text "")]⟩

/-- The second theme by name is loaded, whichever of the two with the same id is listed
first. -/
theorem directory_lists_backwards :
    let files := mixedFolder.source
    let listing := fun path => (files.list path).map List.reverse
    ∃ load last, (empty.addDirectory files "themes" "xml").value = (.ok load, last) ∧
      load.loaded = [("themes/b.XML", 1)] ∧
      load.failed.map Prod.fst = ["themes/a.xml", "themes/c.xml"] ∧ last.size = 1 ∧
      empty.addDirectory { files with list := listing } "themes" "xml" =
        empty.addDirectory files "themes" "xml" := by
  intro files listing
  have present : files.list "themes" =
      .ok ["c.xml", "b.XML", "a.xml", "d.xml", "notes.txt"] := by decide
  have relisted : listing "themes" =
      .ok ["notes.txt", "d.xml", "a.xml", "b.XML", "c.xml"] := by decide
  obtain ⟨-, exactly⟩ := directory_exact empty files "themes" "xml"
  rw [present] at exactly
  obtain ⟨chosen, -, unique, value, -, grown, alike⟩ := exactly
  obtain rfl : ["a.xml", "b.XML", "c.xml"] = chosen :=
    unique _ ⟨by decide, by decide⟩
  let report := ((["a.xml", "b.XML", "c.xml"].map (Path.join "themes")).foldl (addNext files)
    (⟨[], []⟩, empty)).1
  have outcome : (report.loaded, report.failed.map Prod.fst) =
      ([("themes/b.XML", 1)], ["themes/a.xml", "themes/c.xml"]) := by decide +kernel
  obtain ⟨loaded, failed⟩ := Prod.mk.inj outcome
  have counted : (report.loaded.map Prod.snd).sum = 1 := by rw [loaded]; rfl
  exact ⟨_, _, value, loaded, failed, grown.trans ((Nat.zero_add _).trans counted),
    alike listing _ relisted (by decide)⟩

end Registry

end ThemeMotion
