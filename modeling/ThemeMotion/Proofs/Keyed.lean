import Mathlib.Data.List.Nodup
import ThemeMotion.Keyed

/-!
# What is found under keys

What is found under a key is the item that it was changed into last, all other keys are found as
before, and keys keep their places.
-/

namespace ThemeMotion.Keyed

variable {Key Item : Type} [DecidableEq Key]

/-- The first entry of a list is found under its key. -/
theorem lookup_first (other key : Key) (present : Item) (rest : List (Key × Item)) :
    ((other, present) :: rest).lookup key =
      if key = other then some present else rest.lookup key := by
  by_cases same : key = other
  · simp [same]
  · simp [List.lookup_cons, same, beq_false_of_ne same]

/-- The changed item is found under its key, and all others are found as before. -/
theorem lookup_alter (key other : Key) (change : Option Item → Item)
    (entries : List (Key × Item)) : (alter key change entries).lookup other =
      if other = key then some (change (entries.lookup key)) else entries.lookup other := by
  induction entries with
  | nil => exact lookup_first key other _ []
  | cons entry rest inductionHypothesis =>
    obtain ⟨first, present⟩ := entry
    rw [alter]
    by_cases replaced : first = key
    · subst replaced
      by_cases same : other = first <;> simp [lookup_first, same]
    · rw [if_neg replaced, lookup_first, lookup_first, lookup_first, inductionHypothesis,
        if_neg (Ne.symm replaced)]
      by_cases here : other = first
      · simp [here, replaced]
      · simp [here]

/-- A key that is there keeps its place, and a new one comes last. -/
theorem keys_alter (key : Key) (change : Option Item → Item) (entries : List (Key × Item)) :
    (alter key change entries).map Prod.fst =
      if key ∈ entries.map Prod.fst then entries.map Prod.fst
      else entries.map Prod.fst ++ [key] := by
  induction entries with
  | nil => rfl
  | cons entry rest inductionHypothesis =>
    obtain ⟨first, present⟩ := entry
    rw [alter]
    by_cases replaced : first = key
    · simp [replaced]
    · rw [if_neg replaced, List.map_cons, inductionHypothesis]
      by_cases known : key ∈ rest.map Prod.fst <;> simp [known, Ne.symm replaced]

/-- Where a new key is changed, its entry comes last. -/
theorem alter_absent {key : Key} {entries : List (Key × Item)}
    (absent : key ∉ entries.map Prod.fst) (change : Option Item → Item) :
    alter key change entries = entries ++ [(key, change none)] := by
  induction entries with
  | nil => rfl
  | cons entry rest inductionHypothesis =>
    rw [List.map_cons, List.mem_cons, not_or] at absent
    rw [alter, if_neg (Ne.symm absent.1), inductionHypothesis absent.2]
    rfl

/-- Where every key has one item, a change is made under its key alone.

Induction on the keys. The first of them is the one that is sought, and then no other is, or it
is not, and then the change is made in the rest. -/
theorem alter_present {keys : List Key} (apart : keys.Nodup) {key : Key} (present : key ∈ keys)
    (items : Key → Item) (change : Option Item → Item) :
    alter key change (keys.map fun other => (other, items other)) =
      keys.map fun other =>
        (other, if other = key then change (some (items other)) else items other) := by
  induction keys with
  | nil => cases present
  | cons first rest inductionHypothesis =>
    obtain ⟨fresh, apart⟩ := List.nodup_cons.mp apart
    rw [List.map_cons, List.map_cons, alter]
    by_cases same : first = key
    · rw [if_pos same, if_pos same]
      congr 1
      apply List.map_congr_left
      intro other member
      have different : other ≠ key := fun equal => fresh (same ▸ equal ▸ member)
      rw [if_neg different]
    · have later : key ∈ rest := (List.mem_cons.mp present).resolve_left (Ne.symm same)
      rw [if_neg same, if_neg same, inductionHypothesis apart later]

/-- An item that is put under a key is found there, and all others are found as before. -/
theorem lookup_put (key other : Key) (item : Item) (entries : List (Key × Item)) :
    (put key item entries).lookup other =
      if other = key then some item else entries.lookup other :=
  lookup_alter key other _ entries

/-- After an item is put, a key that is there has its place, and a new one comes last. -/
theorem keys_put (key : Key) (item : Item) (entries : List (Key × Item)) :
    (put key item entries).map Prod.fst =
      if key ∈ entries.map Prod.fst then entries.map Prod.fst
      else entries.map Prod.fst ++ [key] :=
  keys_alter key _ entries

/-- After an item is put there is nothing but it and what was there. -/
theorem mem_put {key : Key} {item : Item} {entries : List (Key × Item)} {entry : Key × Item}
    (member : entry ∈ put key item entries) : entry = (key, item) ∨ entry ∈ entries := by
  induction entries with
  | nil => exact .inl (List.mem_singleton.mp member)
  | cons first rest inductionHypothesis =>
    obtain ⟨other, present⟩ := first
    rw [put, alter] at member
    split at member
    · next same =>
      subst same
      exact (List.mem_cons.mp member).imp_right (List.mem_cons_of_mem _)
    · rcases List.mem_cons.mp member with rfl | later
      · exact .inr List.mem_cons_self
      · exact (inductionHypothesis later).imp_right (List.mem_cons_of_mem _)

/-- Where keys are different from one another, each is found with the item that it has. -/
theorem lookup_eq_some_iff_mem {entries : List (Key × Item)}
    (apart : (entries.map Prod.fst).Nodup) (key : Key) (item : Item) :
    entries.lookup key = some item ↔ (key, item) ∈ entries := by
  induction entries with
  | nil => simp
  | cons entry rest inductionHypothesis =>
    obtain ⟨first, present⟩ := entry
    obtain ⟨fresh, apart⟩ := List.nodup_cons.mp apart
    rw [lookup_first, List.mem_cons]
    by_cases here : key = first
    · subst here
      have behind : (key, item) ∉ rest := fun member =>
        fresh (List.mem_map.mpr ⟨_, member, rfl⟩)
      simp [behind, eq_comm]
    · simp [here, inductionHypothesis apart]

end ThemeMotion.Keyed
