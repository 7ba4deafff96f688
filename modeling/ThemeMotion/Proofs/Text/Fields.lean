import ThemeMotion.Text.Fields

/-!
# Fields at a separator

Everything about the fields of a text follows from two equations: a text without a
separator is one field, and a separator parts the fields before it from those behind it.
-/

namespace ThemeMotion.Text

variable {separator : Char}

/-- A text without a separator is one field. -/
theorem fields_plain {text : List Char} (plain : separator ∉ text) :
    fields separator text = [text] := by
  induction text with
  | nil => rfl
  | cons c rest inductionHypothesis =>
    rw [List.mem_cons, not_or] at plain
    obtain ⟨other, plain⟩ := plain
    simp only [fields, inductionHypothesis plain, if_neg (Ne.symm other)]

/-- The fields of two texts with a separator between them are those of the one and then those
of the other. -/
theorem fields_append (first second : List Char) :
    fields separator (first ++ separator :: second) =
      fields separator first ++ fields separator second := by
  induction first with
  | nil =>
    obtain ⟨field, others, cut⟩ := List.exists_cons_of_ne_nil (fields_ne_nil separator second)
    simp [fields, cut]
  | cons c rest inductionHypothesis =>
    obtain ⟨field, others, cut⟩ := List.exists_cons_of_ne_nil (fields_ne_nil separator rest)
    rw [cut, List.cons_append] at inductionHypothesis
    by_cases parts : c = separator <;> simp [fields, cut, inductionHypothesis, parts]

/-- Only an empty text is one empty field. -/
theorem fields_eq_blank_iff {text : List Char} : fields separator text = [[]] ↔ text = [] := by
  constructor
  · intro blank
    by_cases parted : separator ∈ text
    · obtain ⟨before, behind, rfl⟩ := List.append_of_mem parted
      have several := congrArg List.length ((fields_append before behind).symm.trans blank)
      have first := List.length_pos_iff.mpr (fields_ne_nil separator before)
      have second := List.length_pos_iff.mpr (fields_ne_nil separator behind)
      simp only [List.length_append, List.length_singleton] at several
      omega
    · rw [fields_plain parted] at blank
      exact List.singleton_inj.mp blank
  · rintro rfl
    rfl

/-- A text that has a separator has a last one. -/
theorem exists_last_separator {text : List Char} (parted : separator ∈ text) :
    ∃ front last, text = front ++ separator :: last ∧ separator ∉ last := by
  obtain ⟨last, front, split, plain⟩ := List.eq_append_cons_of_mem (List.mem_reverse.mpr parted)
  refine ⟨front.reverse, last.reverse, ?_, fun member => plain (List.mem_reverse.mp member)⟩
  rw [← List.reverse_reverse text, split]
  simp

end ThemeMotion.Text
