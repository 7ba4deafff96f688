import ThemeMotion.Proofs.Theme.Grammar

/-!
# Taking the attributes of an element

An element takes its attributes by name, one after the other, and refuses what is left
over. `optional_exact` and `required_exact` say what one taking gives, in both
directions. The order of takings does not show in the values, since taking one name
leaves the values of the others. `leftover_empty_iff` does the accounting: nothing is
left over exactly when no key repeats and every key was asked for.

The last section puts this together for each element: its attributes are accepted, with
nothing left over, exactly when they are proper for the element and give what the draft
then holds. Which of several faults a refused element is given is not its subject.
-/

namespace ThemeMotion.Document

open Markup (Attribute)

section Outcome

variable {ε φ α β : Type}

/-- Two steps succeed exactly when the first does and the second does on its value. -/
theorem then_ok_iff (first : Except ε α) (next : α → Except ε β) (result : β) :
    (first >>= next) = .ok result ↔ ∃ value, first = .ok value ∧ next value = .ok result := by
  cases first with
  | error fault => simp [bind, Except.bind]
  | ok value => simp [bind, Except.bind]

/-- Rewording a fault changes no success. -/
theorem reworded_ok_iff (outcome : Except ε α) (reword : ε → φ) (value : α) :
    outcome.mapError reword = .ok value ↔ outcome = .ok value := by
  cases outcome with
  | error fault => exact ⟨nofun, nofun⟩
  | ok found =>
    show Except.ok found = Except.ok value ↔ _
    rw [Except.ok.injEq, Except.ok.injEq]

end Outcome

section Reader

variable {α β : Type}

/-- A sequence of readers succeeds through the value and the rest of the first. -/
theorem bind_ok_iff (first : AttributeReader α) (next : α → AttributeReader β)
    (attributes : List Attribute) (result : β × List Attribute) :
    (first >>= next) attributes = .ok result ↔
      ∃ value rest, first attributes = .ok (value, rest) ∧ next value rest = .ok result := by
  change (first attributes >>= fun answer => next answer.1 answer.2) = .ok result ↔ _
  rw [then_ok_iff, Prod.exists]

/-- A finished reader takes nothing. -/
theorem pure_ok_iff (value : α) (attributes : List Attribute)
    (result : α × List Attribute) :
    (pure value : AttributeReader α) attributes = .ok result ↔ (value, attributes) = result := by
  constructor
  · intro accepted
    cases accepted
    rfl
  · rintro rfl
    rfl

/-- A check takes nothing and lets pass exactly what it does not refuse. -/
theorem refuse_ok_iff (refused : Prop) [Decidable refused] (fault : DocumentFault)
    (next : AttributeReader α) (attributes : List Attribute) (result : α × List Attribute) :
    (if refused then (do throw fault; next) else next) attributes = .ok result ↔
      ¬ refused ∧ next attributes = .ok result := by
  by_cases holds : refused
  · simp only [holds, if_true, not_true, false_and, iff_false]
    intro accepted
    cases accepted
  · simp only [holds, if_false, not_false_iff, true_and]

/-- A rule for a text takes nothing. -/
theorem lift_ok_iff (outcome : Except DocumentFault α) (attributes : List Attribute)
    (value : α) (rest : List Attribute) :
    (liftM outcome : AttributeReader α) attributes = .ok (value, rest) ↔
      outcome = .ok value ∧ attributes = rest := by
  cases outcome with
  | error fault =>
    constructor
    · intro accepted
      cases accepted
    · rintro ⟨impossible, _⟩
      cases impossible
  | ok found =>
    constructor
    · intro accepted
      cases accepted
      exact ⟨rfl, rfl⟩
    · rintro ⟨same, rfl⟩
      cases same
      rfl

end Reader

/-- The attributes without the first of a name. -/
def without (attributes : List Attribute) (name : String) : List Attribute :=
  attributes.eraseP (·.key == name)

/-- What the reader of an optional attribute does, by the value that it finds. -/
theorem optional_eq (element : Scope) (name : String) (attributes : List Attribute) :
    AttributeReader.optional element name attributes =
      if value? attributes name = some "" then .error (.emptyAttribute element name)
      else .ok (value? attributes name, without attributes name) := by
  have taken : AttributeReader.take name attributes =
      .ok (value? attributes name, without attributes name) := rfl
  simp only [AttributeReader.optional, bind, StateT.bind, taken, Except.bind]
  by_cases empty : value? attributes name = some ""
  · rw [if_pos empty, empty]
    rfl
  · rw [if_neg empty]
    refine congrFun (?_ : _ = (pure (value? attributes name) : AttributeReader _)) _
    split
    · next found => exact absurd found empty
    · rfl

/-- An optional attribute is accepted exactly when it is absent or not empty. -/
theorem optional_exact (element : Scope) (name : String) (attributes : List Attribute)
    (value : Option String) (rest : List Attribute) :
    AttributeReader.optional element name attributes = .ok (value, rest) ↔
      value? attributes name = value ∧ value ≠ some "" ∧ without attributes name = rest := by
  rw [optional_eq]
  constructor
  · intro accepted
    split at accepted
    · cases accepted
    · next filled =>
      cases accepted
      exact ⟨rfl, filled, rfl⟩
  · rintro ⟨rfl, filled, rfl⟩
    rw [if_neg filled]

/-- A required attribute is accepted exactly when it is there and not empty. -/
theorem required_exact (element : Scope) (name : String) (attributes : List Attribute)
    (value : String) (rest : List Attribute) :
    AttributeReader.required element name attributes = .ok (value, rest) ↔
      value? attributes name = some value ∧ value ≠ "" ∧ without attributes name = rest := by
  simp only [AttributeReader.required, bind_ok_iff, optional_exact]
  constructor
  · rintro ⟨found, left, ⟨present, filled, rfl⟩, accepted⟩
    cases found with
    | none => cases accepted
    | some text =>
      cases accepted
      exact ⟨present, fun empty => filled (congrArg some empty), rfl⟩
  · rintro ⟨present, filled, rfl⟩
    exact ⟨some value, _, ⟨present, fun empty => filled (Option.some.inj empty), rfl⟩, rfl⟩

/-- Taking one name leaves the values of the others. -/
theorem value_without (attributes : List Attribute) (name other : String)
    (distinct : name ≠ other) :
    value? (without attributes name) other = value? attributes other := by
  induction attributes with
  | nil => rfl
  | cons entry rest inductionHypothesis =>
    unfold value? without at *
    by_cases taken : entry.key = name
    · have passed : (entry.key == other) = false := by simpa [taken] using distinct
      simp only [List.eraseP_cons, List.find?_cons, taken, beq_self_eq_true, cond_true] at passed ⊢
      rw [passed]
    · have kept : (entry.key == name) = false := by simpa using taken
      simp only [List.eraseP_cons, List.find?_cons, kept, cond_false]
      split
      · rfl
      · exact inductionHypothesis

/-- Taking a name removes its first occurrence from the keys. -/
theorem keys_without (attributes : List Attribute) (name : String) :
    (without attributes name).map (·.key) = (attributes.map (·.key)).erase name := by
  rw [List.erase_eq_eraseP', List.eraseP_map]
  rfl

/-- An attribute that is found is one of the attributes. -/
theorem value_mem (attributes : List Attribute) (name text : String)
    (found : value? attributes name = some text) :
    ∃ entry ∈ attributes, entry.key = name ∧ entry.value = text := by
  obtain ⟨entry, located, rfl⟩ := Option.map_eq_some_iff.mp found
  exact ⟨entry, List.mem_of_find?_eq_some located, by simpa using List.find?_some located, rfl⟩

/-- The values of proper attributes are not empty. -/
theorem value_filled {element : Scope} {attributes : List Attribute} {name text : String}
    (proper : Proper element attributes) (found : value? attributes name = some text) :
    text ≠ "" := by
  obtain ⟨entry, member, _, rfl⟩ := value_mem attributes name text found
  exact proper.filled entry member

/-- A name has a value exactly when it is the key of an attribute. -/
theorem value_present_iff (attributes : List Attribute) (name : String) :
    (∃ text, value? attributes name = some text) ↔ name ∈ attributes.map (·.key) := by
  constructor
  · rintro ⟨text, found⟩
    obtain ⟨entry, member, rfl, _⟩ := value_mem attributes name text found
    exact List.mem_map_of_mem member
  · intro member
    obtain ⟨entry, present, same⟩ := List.mem_map.mp member
    cases located : attributes.find? (·.key == name) with
    | none =>
      have absent := List.find?_eq_none.mp located entry present
      exact absurd (by simpa using same) absent
    | some first => exact ⟨first.value, by simp [value?, located]⟩

/-- Where no key repeats, every attribute is found under its key. -/
theorem value_of_mem (attributes : List Attribute) (entry : Attribute)
    (distinct : (attributes.map (·.key)).Nodup) (member : entry ∈ attributes) :
    value? attributes entry.key = some entry.value := by
  induction attributes with
  | nil => cases member
  | cons first rest inductionHypothesis =>
    obtain ⟨fresh, others⟩ := List.nodup_cons.mp distinct
    rcases List.mem_cons.mp member with rfl | later
    · simp [value?]
    · have different : first.key ≠ entry.key := by
        intro same
        exact fresh (List.mem_map.mpr ⟨entry, later, same.symm⟩)
      have passed : (first.key == entry.key) = false := by simpa using different
      unfold value? at *
      rw [List.find?_cons, passed]
      exact inductionHypothesis others later

/-- Nothing is left over after taking distinct names exactly when no key repeats and
every key is one of the names.

Induction on the names. Taking the first one removes one key; that key cannot be left,
since the other names do not cover it. -/
theorem leftover_empty_iff (names : List String) (attributes : List Attribute)
    (unique : names.Nodup) :
    names.foldl without attributes = [] ↔
      (attributes.map (·.key)).Nodup ∧ ∀ entry ∈ attributes, entry.key ∈ names := by
  induction names generalizing attributes with
  | nil =>
    constructor
    · rintro rfl
      exact ⟨List.nodup_nil, nofun⟩
    · rintro ⟨_, none⟩
      exact List.eq_nil_iff_forall_not_mem.mpr fun entry member => nomatch none entry member
  | cons name others inductionHypothesis =>
    obtain ⟨absent, distinct⟩ := List.nodup_cons.mp unique
    have covered (keys : List Attribute) (names : List String) :
        (∀ entry ∈ keys, entry.key ∈ names) ↔ ∀ key ∈ keys.map (·.key), key ∈ names := by
      simp only [List.mem_map, forall_exists_index, and_imp, forall_apply_eq_imp_iff₂]
    rw [List.foldl_cons, inductionHypothesis _ distinct, covered, covered, keys_without]
    generalize attributes.map (·.key) = keys
    constructor
    · rintro ⟨nodup, inside⟩
      have gone : name ∉ keys.erase name := fun member => absent (inside name member)
      by_cases present : name ∈ keys
      · have split := List.perm_cons_erase present
        refine ⟨split.nodup_iff.mpr (List.nodup_cons.mpr ⟨gone, nodup⟩), ?_⟩
        intro key member
        rcases List.mem_cons.mp (split.mem_iff.mp member) with rfl | kept
        · exact List.mem_cons_self
        · exact List.mem_cons_of_mem name (inside key kept)
      · rw [List.erase_of_not_mem present] at nodup inside
        exact ⟨nodup, fun key member => List.mem_cons_of_mem name (inside key member)⟩
    · rintro ⟨nodup, inside⟩
      refine ⟨nodup.erase name, ?_⟩
      intro key member
      obtain ⟨different, kept⟩ := nodup.mem_erase_iff.mp member
      exact (List.mem_cons.mp (inside key kept)).resolve_left different

/-- The attributes are proper for an element exactly when taking all its names in some
order leaves nothing, the required ones are there, and none is empty. -/
theorem proper_iff (element : Scope) (names : List String) (attributes : List Attribute)
    (unique : names.Nodup)
    (covers : ∀ name, name ∈ names ↔ name ∈ requiredNames element ++ optionalNames element) :
    Proper element attributes ↔
      (∀ name ∈ requiredNames element, ∃ text, value? attributes name = some text) ∧
        (∀ name ∈ names, value? attributes name ≠ some "") ∧
        names.foldl without attributes = [] := by
  rw [leftover_empty_iff names attributes unique]
  constructor
  · rintro ⟨distinct, known, present, filled⟩
    refine ⟨?_, ?_, distinct, fun entry member => (covers _).mpr (known entry member)⟩
    · intro name needed
      exact (value_present_iff attributes name).mpr (present name needed)
    · intro name _ empty
      obtain ⟨entry, member, _, blank⟩ := value_mem attributes name "" empty
      exact filled entry member blank
  · rintro ⟨present, filled, distinct, known⟩
    refine ⟨distinct, fun entry member => (covers _).mp (known entry member), ?_, ?_⟩
    · intro name needed
      exact (value_present_iff attributes name).mp (present name needed)
    · intro entry member blank
      have found := value_of_mem attributes entry distinct member
      exact filled entry.key (known entry member) (found.trans (congrArg some blank))

/-- The letters that are taken are the ASCII ones. -/
theorem alpha_iff (c : Char) : c.isAlpha = true ↔ IsLetter c := by
  have classes : c.isAlpha = (c.isUpper || c.isLower) := rfl
  have upper : c.isUpper = true ↔ 'A' ≤ c ∧ c ≤ 'Z' := decide_eq_true_iff
  have lower : c.isLower = true ↔ 'a' ≤ c ∧ c ≤ 'z' :=
    Bool.and_eq_true_iff.trans (and_congr decide_eq_true_iff decide_eq_true_iff)
  rw [classes, Bool.or_eq_true, upper, lower, IsLetter]

/-- Letters and digits are taken as one class. -/
theorem alphanum_iff (c : Char) : c.isAlphanum = true ↔ IsLetter c ∨ IsDigit c := by
  rw [Char.isAlphanum, Bool.or_eq_true, alpha_iff]
  simp only [Char.isDigit, Bool.and_eq_true, decide_eq_true_eq, IsDigit, Char.le_def, ge_iff_le]

/-- The ids that are taken are those of the form. Leading underscores are skipped, and
none of them is a letter, so what follows them begins where the form says. -/
theorem valid_id_iff (id : String) : Trigger.isValidId id = true ↔ HasIdForm id := by
  have rule (rest : List Char) :
      (rest.all fun c => c.isAlphanum || c == '_' || c == '-') = true ↔
        ∀ c ∈ rest, IsLetter c ∨ IsDigit c ∨ c = '_' ∨ c = '-' := by
    simp only [List.all_eq_true, Bool.or_eq_true, alphanum_iff, beq_iff_eq, or_assoc]
  constructor
  · intro valid
    unfold Trigger.isValidId at valid
    split at valid
    · cases valid
    · next letter rest behind =>
      obtain ⟨begins, continues⟩ := Bool.and_eq_true_iff.mp valid
      refine ⟨(id.toList.takeWhile (· == '_')).length, letter, rest, ?_,
        (alpha_iff letter).mp begins, (rule rest).mp continues⟩
      have skipped : id.toList.takeWhile (· == '_') =
          List.replicate (id.toList.takeWhile (· == '_')).length '_' := by
        rw [List.eq_replicate_iff]
        exact ⟨rfl, fun c member => by
          simpa using List.all_eq_true.mp List.all_takeWhile c member⟩
      rw [← skipped, ← behind, List.takeWhile_append_dropWhile]
  · rintro ⟨underscores, letter, rest, written, begins, continues⟩
    have solid : (letter == '_') = false := by
      rw [beq_eq_false_iff_ne]
      rintro rfl
      exact absurd ((alpha_iff '_').mpr begins) (by decide)
    have behind : id.toList.dropWhile (· == '_') = letter :: rest := by
      rw [written, List.dropWhile_append_of_pos (by simp), List.dropWhile_cons, solid]
      rfl
    unfold Trigger.isValidId
    rw [behind]
    exact Bool.and_eq_true_iff.mpr ⟨(alpha_iff letter).mpr begins, (rule rest).mpr continues⟩

/-- A number of milliseconds is read exactly when the text is an integer in range. -/
theorem milliseconds_exact (key text : String) (duration : UInt32) :
    milliseconds key text = .ok duration ↔ ReadsMilliseconds text duration := by
  unfold milliseconds ReadsMilliseconds
  simp only [← Word.uint32?_eq_some]
  cases read : Coerce.int? text.toList with
  | none => simp
  | some integer =>
    cases fits : Word.uint32? integer.toInt with
    | none => simp [fits]
    | some word => simp [fits]

/-- A repetition is read exactly when the text is an integer in range, from the
repetition without end upwards. -/
theorem repetition_exact (text : String) (count : Int32) :
    repetition text = .ok count ↔ ReadsRepetition text count := by
  have allowed (word : Int32) : Timeline.forever ≤ word ↔ -1 ≤ word.toInt := Int32.le_iff_toInt_le
  unfold repetition ReadsRepetition
  simp only [← Word.int32?_eq_some]
  cases read : Coerce.int? text.toList with
  | none => simp
  | some integer =>
    cases fits : Word.int32? integer.toInt with
    | none => simp [fits]
    | some word =>
      by_cases above : Timeline.forever ≤ word
      · have bound := (allowed word).mp above
        simp only [Option.bind_eq_bind, Option.bind_some, fits, if_pos above]
        constructor
        · intro accepted
          cases accepted
          exact ⟨integer, rfl, fits, bound⟩
        · rintro ⟨other, same, read, _⟩
          cases same
          cases fits.symm.trans read
          rfl
      · simp only [Option.bind_eq_bind, Option.bind_some, fits, if_neg above]
        constructor
        · intro accepted
          cases accepted
        · rintro ⟨other, same, read, inside⟩
          cases same
          cases fits.symm.trans read
          exact absurd ((allowed _).mpr inside) above

/-- A mode is read exactly when its text names one. -/
theorem mode_exact (text : String) (mode : ProgressMode) :
    Document.mode text = .ok mode ↔ ProgressMode.parse? text = some mode := by
  unfold Document.mode
  cases ProgressMode.parse? text <;> simp

/-- An origin is read exactly from its own word. -/
theorem origin_exact (text : String) (origin : Origin) :
    Document.origin text = .ok origin ↔ text = origin.display := by
  unfold Document.origin Origin.parse?
  by_cases sender : text = "sender"
  · subst sender
    cases origin <;> simp [Origin.display]
  · by_cases stage : text = "stage"
    · subst stage
      cases origin <;> simp [Origin.display]
    · cases origin <;> simp [Origin.display, sender, stage]

/-- A selector is read exactly as the selector of its text, declared at the tag. -/
theorem selector_exact (context : Context) (place : Place) (key text : String)
    (selector : Selector) :
    Document.selector context place key text = .ok selector ↔
      ReadsSelector context.file place text selector := by
  unfold Document.selector ReadsSelector
  rw [reworded_ok_iff]

/-- An attribute that may be left out is read by the rule of its text or has the
standard value. -/
theorem or_standard_exact {α : Type} (standard : α)
    (convert : String → Except DocumentFault α) (Reads : String → α → Prop)
    (exact : ∀ text value, convert text = .ok value ↔ Reads text value)
    (text : Option String) (value : α) :
    orStandard standard convert text = .ok value ↔ Given Reads standard text value := by
  cases text with
  | none =>
    constructor
    · intro accepted
      cases accepted
      rfl
    · rintro rfl
      rfl
  | some text => exact exact text value

section Opening

variable (draft opened : Draft) (context : Context) (place : Place) (attributes : List Attribute)

/-- A trigger is begun exactly when its attributes are proper and give it, and its id is
declared neither in the document so far nor elsewhere. -/
theorem open_trigger_exact :
    draft.openTrigger context place attributes = .ok (opened, []) ↔
      Proper .trigger attributes ∧
        ∃ id sender signal, GivesTrigger context.file place attributes id sender signal ∧
          draft.declares context id = false ∧
          opened = { draft with trigger := some ⟨id, sender, signal, [], context.file⟩ } := by
  have proper := proper_iff .trigger ["id", "sender", "signal"] attributes (by decide)
    (by simp [requiredNames, optionalNames])
  unfold Draft.openTrigger
  simp (disch := decide) only [bind_ok_iff, required_exact, lift_ok_iff, refuse_ok_iff,
    pure_ok_iff, and_assoc, exists_eq_left', exists_and_left, value_without, Prod.mk.injEq]
  constructor
  · rintro ⟨id, identified, idFilled, valid, fresh, text, written, textFilled, sender, read,
      signal, signalled, signalFilled, rfl, none⟩
    refine ⟨proper.mpr ⟨?_, ?_, none⟩, id, sender, signal, ⟨identified, ?_, ?_, signalled⟩,
      ?_, rfl⟩
    · simp [requiredNames, identified, written, signalled]
    · simp [identified, written, signalled, idFilled, textFilled, signalFilled]
    · exact (valid_id_iff id).mp (by simpa using valid)
    · exact ⟨text, written, (selector_exact context place "sender" text sender).mp read⟩
    · simpa using fresh
  · rintro ⟨wellFormed, id, sender, signal, ⟨identified, form, ⟨text, written, read⟩, signalled⟩,
      fresh, rfl⟩
    obtain ⟨_, _, none⟩ := proper.mp wellFormed
    exact ⟨id, identified, value_filled wellFormed identified,
      by simpa using (valid_id_iff id).mpr form, by simpa using fresh,
      text, written, value_filled wellFormed written,
      sender, (selector_exact context place "sender" text sender).mpr read,
      signal, signalled, value_filled wellFormed signalled, rfl, none⟩

/-- A timeline is begun exactly when its attributes are proper and give it. -/
theorem open_timeline_exact :
    draft.openTimeline attributes = .ok (opened, []) ↔
      Proper .timeline attributes ∧
        ∃ timeline, GivesTimeline attributes timeline ∧
          opened = { draft with timeline := some timeline } := by
  have proper := proper_iff .timeline ["delay", "duration", "mode", "repeat"] attributes
    (by decide) (fun name => by simpa [requiredNames, optionalNames] using or_left_comm)
  have delays := or_standard_exact 0 (milliseconds "delay") ReadsMilliseconds
    (milliseconds_exact "delay") (value? attributes "delay")
  have modes := or_standard_exact .standard mode _ mode_exact (value? attributes "mode")
  have counts := or_standard_exact 0 repetition _ repetition_exact (value? attributes "repeat")
  unfold Draft.openTimeline
  simp (disch := decide) only [bind_ok_iff, optional_exact, required_exact, lift_ok_iff,
    pure_ok_iff, and_assoc, exists_eq_left', exists_and_left, value_without, Prod.mk.injEq,
    delays, modes, counts, milliseconds_exact]
  constructor
  · rintro ⟨delayFilled, text, written, textFilled, modeFilled, repeatFilled, duration, lasting,
      delay, delayed, mode, shaped, count, repeated, rfl, none⟩
    refine ⟨proper.mpr ⟨?_, ?_, none⟩, ⟨delay, duration, mode, count⟩,
      ⟨⟨text, written, lasting⟩, delayed, shaped, repeated⟩, rfl⟩
    · simp [requiredNames, written]
    · simp [delayFilled, written, textFilled, modeFilled, repeatFilled]
  · rintro ⟨wellFormed, timeline, ⟨⟨text, written, lasting⟩, delayed, shaped, repeated⟩, rfl⟩
    obtain ⟨_, filled, none⟩ := proper.mp wellFormed
    exact ⟨filled "delay" (by decide), text, written, value_filled wellFormed written,
      filled "mode" (by decide), filled "repeat" (by decide), _, lasting, _, delayed, _, shaped, _,
      repeated, rfl, none⟩

/-- An application is begun exactly when its attributes are proper and give its target,
which takes over the timeline that is open. -/
theorem open_apply_exact :
    draft.openApply context place attributes = .ok (opened, []) ↔
      Proper .apply attributes ∧
        ∃ selector origin, GivesTarget context.file place attributes selector origin ∧
          opened = { draft with
            target := some ⟨selector, origin, draft.timeline.getD .standard, []⟩ } := by
  have proper := proper_iff .apply ["to", "origin"] attributes (by decide)
    (by simp [requiredNames, optionalNames])
  have selectors := or_standard_exact none
    (fun text => (selector context place "to" text).map some)
    (fun text given => ∃ read, given = some read ∧ ReadsSelector context.file place text read)
    (fun text given => by
      simp only [← selector_exact context place "to"]
      cases Document.selector context place "to" text <;> simp [Except.map, eq_comm])
    (value? attributes "to")
  have origins := or_standard_exact .standard origin _ origin_exact (value? attributes "origin")
  unfold Draft.openApply
  simp (disch := decide) only [bind_ok_iff, optional_exact, lift_ok_iff, pure_ok_iff, and_assoc,
    exists_eq_left', exists_and_left, value_without, Prod.mk.injEq, selectors, origins]
  constructor
  · rintro ⟨toFilled, selector, selected, originFilled, origin, sought, rfl, none⟩
    refine ⟨proper.mpr ⟨?_, ?_, none⟩, selector, origin, ⟨selected, sought⟩, rfl⟩
    · simp [requiredNames]
    · simp [toFilled, originFilled]
  · rintro ⟨wellFormed, selector, origin, ⟨selected, sought⟩, rfl⟩
    obtain ⟨_, filled, none⟩ := proper.mp wellFormed
    exact ⟨filled "to" (by decide), selector, selected, filled "origin" (by decide), origin,
      sought, rfl, none⟩

/-- A property is begun exactly when its attributes are proper and name it; it joins the
target that is open. -/
theorem open_property_exact :
    draft.openProperty attributes = .ok (opened, []) ↔
      Proper .property attributes ∧
        ∃ name, value? attributes "name" = some name ∧
          opened = { draft with
            target := draft.target.map fun target =>
              { target with properties := target.properties ++
                [⟨name, value? attributes "from", value? attributes "to"⟩] } } := by
  have proper := proper_iff .property ["name", "from", "to"] attributes (by decide)
    (by simp [requiredNames, optionalNames])
  unfold Draft.openProperty
  simp (disch := decide) only [bind_ok_iff, optional_exact, required_exact, pure_ok_iff,
    and_assoc, exists_eq_left', exists_and_left, value_without, Prod.mk.injEq]
  constructor
  · rintro ⟨name, named, nameFilled, fromFilled, toFilled, rfl, none⟩
    refine ⟨proper.mpr ⟨?_, ?_, none⟩, name, named, rfl⟩
    · simp [requiredNames, named]
    · simp [named, nameFilled, fromFilled, toFilled]
  · rintro ⟨wellFormed, name, named, rfl⟩
    obtain ⟨_, filled, none⟩ := proper.mp wellFormed
    exact ⟨name, named, value_filled wellFormed named, filled "from" (by decide),
      filled "to" (by decide), rfl, none⟩

end Opening

end ThemeMotion.Document
