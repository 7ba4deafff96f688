import Mathlib.Data.Nat.Init
import ThemeMotion.Proofs.Decimal.Digits
import ThemeMotion.Text.Fields

/-!
# Texts in lower case

Only ASCII capitals change in lower case, and they become ASCII letters. So blanks, digits and
every mark that is no letter stay where they are: a text may be put in lower case before or after
it is trimmed, and before or after it is cut at such a mark.
-/

namespace ThemeMotion.Text

/-- A capital becomes the letter that is 32 places behind it, and nothing else changes. -/
theorem toLower_cases (c : Char) :
    c.toLower = c ∨ (65 ≤ c.toNat ∧ c.toNat ≤ 90 ∧ c.toLower.toNat = c.toNat + 32) := by
  have decided : c.toLower = c ∨ ('A' ≤ c ∧ c ≤ 'Z') := by
    by_cases capital : 'A' ≤ c ∧ c ≤ 'Z'
    · exact .inr capital
    · exact .inl (dif_neg capital)
  refine decided.imp_right fun capital => ?_
  have lower : 65 ≤ c.toNat := capital.1
  have upper : c.toNat ≤ 90 := capital.2
  have every : ∀ n, 65 ≤ n → n ≤ 90 → (Char.ofNat n).toLower.toNat = n + 32 := by decide
  have moved := every c.toNat lower upper
  rw [Char.ofNat_toNat] at moved
  exact ⟨lower, upper, moved⟩

/-- A mark that is no ASCII letter is in lower case what it was. -/
theorem toLower_eq_mark_iff {mark : Char}
    (plain : mark.toNat < 65 ∨ 90 < mark.toNat ∧ mark.toNat < 97 ∨ 122 < mark.toNat) (c : Char) :
    c.toLower = mark ↔ c = mark := by
  rcases toLower_cases c with same | ⟨lower, upper, moved⟩
  · rw [same]
  · constructor
    · rintro rfl
      omega
    · rintro rfl
      omega

/-- Lower case does not change a second time. -/
theorem toLower_toLower (c : Char) : c.toLower.toLower = c.toLower := by
  rcases toLower_cases c with same | ⟨lower, upper, moved⟩
  · rw [same, same]
  · rcases toLower_cases c.toLower with same | ⟨_, bound, _⟩
    · exact same
    · omega

/-- Digits are digits in lower case. -/
theorem isDigit_toLower (c : Char) : c.toLower.isDigit = c.isDigit := by
  rcases toLower_cases c with same | ⟨lower, upper, moved⟩
  · rw [same]
  · rw [Bool.eq_iff_iff, Decimal.isDigit_iff, Decimal.isDigit_iff]
    omega

/-- A digit has no lower case of its own. -/
theorem toLower_digit {c : Char} (digit : c.isDigit = true) : c.toLower = c := by
  have bounds := (Decimal.isDigit_iff c).mp digit
  rcases toLower_cases c with same | ⟨lower, _, _⟩
  · exact same
  · omega

/-- Blanks are blanks in lower case. -/
theorem isBlank_toLower (c : Char) : isBlank c.toLower = isBlank c := by
  rcases toLower_cases c with same | ⟨lower, upper, moved⟩
  · rw [same]
  · have every : ∀ n, 65 ≤ n → n ≤ 122 → isBlank (Char.ofNat n) = false := by decide
    have solid (letter : Char) (first : 65 ≤ letter.toNat) (last : letter.toNat ≤ 122) :
        isBlank letter = false := by
      have visible := every letter.toNat first last
      rwa [Char.ofNat_toNat] at visible
    rw [solid c lower (by omega), solid c.toLower (by omega) (by omega)]

@[simp] theorem lower_cons (c : Char) (text : List Char) :
    lower (c :: text) = c.toLower :: lower text := rfl

@[simp] theorem lower_append (first second : List Char) :
    lower (first ++ second) = lower first ++ lower second := List.map_append

/-- What holds of the first character of a text holds of it in lower case too, where lower case
keeps it. -/
theorem lower_head {Property : Char → Prop} (kept : ∀ c, Property c → Property c.toLower)
    {text : List Char} (first : ∀ c ∈ text.head?, Property c) :
    ∀ c ∈ (lower text).head?, Property c := by
  cases text with
  | nil => nofun
  | cons c rest =>
    rintro _ ⟨⟩
    exact kept c (first c rfl)

section Lower

variable (text : List Char)

/-- Lower case does not change a second time. -/
theorem lower_lower : lower (lower text) = lower text := by
  rw [lower, lower, List.map_map]
  exact List.map_congr_left fun c _ => toLower_toLower c

/-- A text may be trimmed before or after it is put in lower case. -/
theorem trim_lower : trim (lower text) = lower (trim text) := by
  have dropped (text : List Char) : (lower text).dropWhile isBlank =
      lower (text.dropWhile isBlank) := by
    rw [lower, List.dropWhile_map]
    congr 2
    exact funext isBlank_toLower
  rw [trim, trimStart, dropped, trimEnd, lower, ← List.map_reverse]
  show ((lower _).dropWhile isBlank).reverse = _
  rw [dropped, lower, ← List.map_reverse]
  rfl

/-- A text may be cut at a mark before or after it is put in lower case. -/
theorem fields_lower {mark : Char}
    (plain : mark.toNat < 65 ∨ 90 < mark.toNat ∧ mark.toNat < 97 ∨ 122 < mark.toNat) :
    fields mark (lower text) = (fields mark text).map lower := by
  induction text with
  | nil => rfl
  | cons c rest inductionHypothesis =>
    obtain ⟨field, others, cut⟩ := List.exists_cons_of_ne_nil (fields_ne_nil mark rest)
    rw [cut] at inductionHypothesis
    rw [lower_cons, fields, fields, inductionHypothesis, cut]
    by_cases parts : c = mark
    · subst parts
      have same : c.toLower = c := (toLower_eq_mark_iff plain c).mpr rfl
      simp [same, lower]
    · have other : c.toLower ≠ mark := mt (toLower_eq_mark_iff plain c).mp parts
      simp [parts, other, lower]

end Lower

/-- What follows an opening is the rest of the text. -/
theorem dropOpening?_eq_some_iff (opening text rest : List Char) :
    dropOpening? opening text = some rest ↔ text = opening ++ rest := by
  induction opening generalizing text with
  | nil => simp [dropOpening?]
  | cons first opening inductionHypothesis =>
    cases text with
    | nil => simp [dropOpening?]
    | cons c text =>
      rw [dropOpening?, Option.ite_none_right_eq_some, inductionHypothesis, List.cons_append,
        List.cons.injEq, eq_comm]

/-- What precedes an ending is the rest of the text. -/
theorem dropEnding?_eq_some_iff (ending text rest : List Char) :
    dropEnding? ending text = some rest ↔ text = rest ++ ending := by
  rw [dropEnding?, Option.map_eq_some_iff]
  constructor
  · rintro ⟨turned, found, rfl⟩
    rw [dropOpening?_eq_some_iff] at found
    rw [← List.reverse_reverse text, found, List.reverse_append, List.reverse_reverse]
  · rintro rfl
    refine ⟨rest.reverse, ?_, List.reverse_reverse rest⟩
    rw [dropOpening?_eq_some_iff, List.reverse_append]

end ThemeMotion.Text
