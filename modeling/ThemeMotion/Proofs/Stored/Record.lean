import ThemeMotion.Proofs.Json.Roundtrip
import ThemeMotion.Stored.Record

/-!
# Records that read back

A record is read back by the names of its fields when they differ from one another, and a
tagged record gives its kind and the record of its other fields. Keys are told apart by their
letters, since a text is given back by its letters.
-/

namespace ThemeMotion.Stored

open Json (letters lettered ofMembers ofText)

/-- A text is given back by its letters. -/
theorem text?_letters (text : String) : Json.text? (letters text) = some text := by
  have every (characters : List Char) :
      (characters.map Letter.char).mapM Json.char? = some characters := by
    induction characters with
    | nil => rfl
    | cons c rest inductionHypothesis =>
      rw [List.map_cons, List.mapM_cons, inductionHypothesis]
      rfl
  rw [Json.text?, letters, every, Option.map_some, String.ofList_toList]

/-- Different texts have different letters. -/
theorem letters_inj {first second : String} : letters first = letters second ↔ first = second := by
  constructor
  · intro same
    have texts := congrArg Json.text? same
    rw [text?_letters, text?_letters] at texts
    exact Option.some.inj texts
  · rintro rfl
    rfl

/-- Every text is sound. -/
theorem isSound_ofText (depth : Nat) (text : String) : isSound depth (ofText text) = true := by
  rw [ofText, isSound, text?_letters]
  rfl

/-- A key that no field has, has no values. -/
theorem valuesOf_eq_nil {fields : List (String × Json)} {key : String}
    (absent : key ∉ fields.map Prod.fst) : valuesOf (lettered fields) key = [] := by
  unfold valuesOf lettered
  rw [List.map_eq_nil_iff, List.filter_eq_nil_iff]
  intro entry member same
  obtain ⟨field, among, rfl⟩ := List.mem_map.mp member
  exact absent (List.mem_map.mpr ⟨field, among, letters_inj.mp (beq_iff_eq.mp same)⟩)

/-- The values of a key are found field by field. -/
theorem valuesOf_cons (field : String × Json) (rest : List (String × Json)) (key : String) :
    valuesOf (lettered (field :: rest)) key =
      (if field.1 = key then [field.2] else []) ++ valuesOf (lettered rest) key := by
  by_cases same : field.1 = key <;> simp [valuesOf, lettered, letters_inj, same]

section Fields

variable {fields : List (String × Json)} (apart : (fields.map Prod.fst).Nodup)
include apart

/-- Where keys are different from one another, each has the one value of its field. -/
theorem valuesOf_of_mem {field : String × Json} (member : field ∈ fields) :
    valuesOf (lettered fields) field.1 = [field.2] := by
  induction fields with
  | nil => cases member
  | cons first rest inductionHypothesis =>
    obtain ⟨fresh, apart⟩ := List.nodup_cons.mp apart
    rw [valuesOf_cons]
    rcases List.mem_cons.mp member with rfl | later
    · rw [if_pos rfl, valuesOf_eq_nil fresh]
      rfl
    · have other : first.1 ≠ field.1 := fun same => fresh (same ▸ List.mem_map_of_mem later)
      rw [if_neg other, inductionHypothesis apart later]
      rfl

/-- Fields are read back by their names. -/
theorem record?_ofMembers :
    record? (fields.map Prod.fst) (ofMembers fields) = some (fields.map Prod.snd) := by
  have every {part : List (String × Json)} (inside : part ⊆ fields) :
      (part.map Prod.fst).mapM (onlyValue? (lettered fields)) = some (part.map Prod.snd) := by
    induction part with
    | nil => rfl
    | cons field rest inductionHypothesis =>
      obtain ⟨member, others⟩ := List.cons_subset.mp inside
      rw [List.map_cons, List.mapM_cons, onlyValue?, valuesOf_of_mem apart member,
        inductionHypothesis others]
      rfl
  exact every (List.Subset.refl fields)

end Fields

/-- Values under different names are read back by the names. -/
theorem record?_zip (names : List String) (values : List Json) (apart : names.Nodup)
    (paired : names.length = values.length) :
    record? names (ofMembers (names.zip values)) = some values := by
  have first : (names.zip values).map Prod.fst = names :=
    List.map_fst_zip (Nat.le_of_eq paired)
  have second : (names.zip values).map Prod.snd = values :=
    List.map_snd_zip (Nat.le_of_eq paired.symm)
  have read := record?_ofMembers (first.symm ▸ apart)
  rwa [first, second] at read

/-- Every record with sound fields is sound. -/
theorem isSound_ofMembers {depth : Nat} {fields : List (String × Json)}
    (each : ∀ field ∈ fields, isSound depth field.2 = true) :
    isSound (depth + 1) (ofMembers fields) = true := by
  rw [ofMembers, isSound, List.all_eq_true]
  intro entry member
  obtain ⟨field, among, rfl⟩ := List.mem_map.mp member
  simp [text?_letters, each field among]

/-- The keys of a record are sound. -/
theorem hasSoundKeys_ofMembers (fields : List (String × Json)) :
    hasSoundKeys (ofMembers fields) = true := by
  rw [ofMembers, hasSoundKeys, List.all_eq_true]
  intro entry member
  obtain ⟨field, _, rfl⟩ := List.mem_map.mp member
  rw [text?_letters]
  rfl

section Tags

variable {fields : List (String × Json)} (untagged : tagKey ∉ fields.map Prod.fst)
include untagged

/-- A tagged record gives its kind and its other fields. -/
theorem tagged?_ofTagged (tag : String) :
    tagged? (ofTagged tag fields) = some (tag, ofMembers fields) := by
  have named : onlyValue? (lettered ((tagKey, ofText tag) :: fields)) tagKey =
      some (ofText tag) := by
    rw [onlyValue?, valuesOf_cons, if_pos rfl, valuesOf_eq_nil untagged]
    rfl
  have others : (lettered ((tagKey, ofText tag) :: fields)).filter
      (fun member => member.1 != letters tagKey) = lettered fields := by
    rw [lettered, List.map_cons, List.filter_cons_of_neg (by simp), ← lettered,
      List.filter_eq_self]
    intro entry member
    obtain ⟨field, among, rfl⟩ := List.mem_map.mp member
    rw [bne_iff_ne, ne_eq, letters_inj]
    rintro same
    exact untagged (List.mem_map.mpr ⟨field, among, same⟩)
  calc tagged? (ofTagged tag fields)
      = (onlyValue? (lettered ((tagKey, ofText tag) :: fields)) tagKey >>= text?).bind
          fun kind => some (kind, .object ((lettered ((tagKey, ofText tag) :: fields)).filter
            fun member => member.1 != letters tagKey)) := rfl
    _ = some (tag, ofMembers fields) := by
      rw [named, others]
      exact congrArg (Option.bind · _) (text?_letters tag)

/-- A record without the key of kinds is of none. -/
theorem tagged?_ofMembers : tagged? (ofMembers fields) = none := by
  unfold tagged? ofMembers
  dsimp only
  rw [← lettered, onlyValue?, valuesOf_eq_nil untagged]
  rfl

end Tags

end ThemeMotion.Stored
