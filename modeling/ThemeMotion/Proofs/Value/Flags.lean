import ThemeMotion.Proofs.Text.Fields
import ThemeMotion.Proofs.Value.Spelling

/-!
# Flags of a text

A text of flags is a row of tokens with bars between them. Which word a token means is said
without reading, and a text stands for the union of the words that its tokens mean: a bit is set
exactly when some token sets it (`Coerce.flags?_eq_some_iff`). Since this names the tokens only
as members of the row, neither their order nor their repetition can matter, and a token that
means nothing spoils the whole text.

Blanks around a token do not count, so tokens are taken without them. Which token was at fault
is not told: a refusal quotes the text as a whole.
-/

namespace ThemeMotion

open Decimal (Spells)

/-- The tokens of a text of flags, without the blanks around them. -/
def flagTokens (text : String) : List (List Char) :=
  (Text.fields '|' text.toList).map Text.trim

/-- A token means a word of a flag set when it is the name or the nick of the member that has
the word, or when it spells the word's integer and nothing is called so. -/
def MeansFlags (type : FlagsType) (token : List Char) (word : UInt32) : Prop :=
  token ≠ [] ∧
    ((∃ member, type.byName? (String.ofList token) = some member ∧ member.value = word) ∨
      type.byName? (String.ofList token) = none ∧ Spells token word.toNat)

/-- A word has a bit. -/
def Sets (word : UInt32) (bit : Nat) : Prop := word.toNat.testBit bit = true

/-- A union has the bits of both words. -/
theorem sets_union_iff (first second : UInt32) (bit : Nat) :
    Sets (first ||| second) bit ↔ Sets first bit ∨ Sets second bit := by
  unfold Sets
  rw [UInt32.toNat_or, Nat.testBit_or, Bool.or_eq_true]

/-- Words with the same bits are the same. -/
theorem eq_of_sets_iff {first second : UInt32} (same : ∀ bit, Sets first bit ↔ Sets second bit) :
    first = second := by
  apply UInt32.toNat_inj.mp
  apply Nat.eq_of_testBit_eq
  intro bit
  exact Bool.eq_iff_iff.mpr (same bit)

/-- The word without bits. -/
theorem not_sets_zero (bit : Nat) : ¬ Sets 0 bit := by
  simp [Sets]

namespace Coerce

/-- A token gives a word exactly when it means the word. -/
theorem flag?_eq_some_iff (type : FlagsType) (token : List Char) (word : UInt32) :
    flag? type token = some word ↔ MeansFlags type token word := by
  unfold flag? MeansFlags
  by_cases blank : token = []
  · simp [blank]
  · have filled : token.isEmpty = false := by simpa using blank
    rw [filled, if_neg Bool.false_ne_true]
    cases named : type.byName? (String.ofList token) with
    | some member => simp [blank]
    | none =>
      simp only [Option.bind_eq_bind, Option.bind_eq_some_iff, int?_eq_some_iff,
        Word.uint32?_eq_some, ne_eq, blank, not_false_eq_true, true_and, reduceCtorEq, false_and,
        exists_false, false_or]
      constructor
      · rintro ⟨integer, spelled, same⟩
        exact same ▸ spelled
      · intro spelled
        have upper := word.toNat_lt
        obtain ⟨integer, same⟩ := (Word.exists_int64_iff word.toNat).mpr (by omega)
        exact ⟨integer, same ▸ spelled, same.symm⟩

/-- A row has a union when its first word was given and the others have one. -/
theorem union?_cons_iff (flag : Option UInt32) (rest : List (Option UInt32)) (bits : UInt32) :
    union? (flag :: rest) = some bits ↔
      ∃ word others, flag = some word ∧ union? rest = some others ∧ bits = word ||| others := by
  rw [union?, Option.bind_eq_bind]
  simp only [Option.bind_eq_some_iff, Option.map_eq_some_iff]
  constructor
  · rintro ⟨word, given, others, joined, rfl⟩
    exact ⟨word, others, given, joined, rfl⟩
  · rintro ⟨word, others, given, joined, rfl⟩
    exact ⟨word, given, others, joined, rfl⟩

/-- A row has a union exactly when all of its words were given. -/
theorem exists_union?_iff (flags : List (Option UInt32)) :
    (∃ bits, union? flags = some bits) ↔ ∀ flag ∈ flags, ∃ word, flag = some word := by
  induction flags with
  | nil => simp [union?]
  | cons flag rest inductionHypothesis =>
    rw [List.forall_mem_cons, ← inductionHypothesis]
    simp only [union?_cons_iff]
    constructor
    · rintro ⟨_, word, others, given, joined, _⟩
      exact ⟨⟨word, given⟩, others, joined⟩
    · rintro ⟨⟨word, given⟩, others, joined⟩
      exact ⟨word ||| others, word, others, given, joined, rfl⟩

/-- A bit is set in the union of a row exactly when one of the words sets it. -/
theorem union?_sets_iff {flags : List (Option UInt32)} {bits : UInt32}
    (joined : union? flags = some bits) (bit : Nat) :
    Sets bits bit ↔ ∃ word, some word ∈ flags ∧ Sets word bit := by
  induction flags generalizing bits with
  | nil =>
    obtain rfl := Option.some.inj joined
    simp [not_sets_zero]
  | cons flag rest inductionHypothesis =>
    obtain ⟨word, others, rfl, remaining, rfl⟩ := (union?_cons_iff flag rest bits).mp joined
    rw [sets_union_iff, inductionHypothesis remaining]
    simp [or_and_right, exists_or]

/-- The union of a row is the word with the bits of all its words, where all were given. So it
depends on nothing but which words are in the row. -/
theorem union?_eq_some_iff (flags : List (Option UInt32)) (bits : UInt32) :
    union? flags = some bits ↔
      (∀ flag ∈ flags, ∃ word, flag = some word) ∧
        ∀ bit, Sets bits bit ↔ ∃ word, some word ∈ flags ∧ Sets word bit := by
  constructor
  · intro joined
    exact ⟨(exists_union?_iff flags).mp ⟨bits, joined⟩, union?_sets_iff joined⟩
  · rintro ⟨given, bitwise⟩
    obtain ⟨others, joined⟩ := (exists_union?_iff flags).mpr given
    have same : others = bits := eq_of_sets_iff fun bit => by
      rw [union?_sets_iff joined, bitwise]
    rw [joined, same]

/-- Two rows, one behind the other, have the union of their unions. -/
theorem union?_append_iff (first second : List (Option UInt32)) (bits : UInt32) :
    union? (first ++ second) = some bits ↔
      ∃ left right, union? first = some left ∧ union? second = some right ∧
        bits = left ||| right := by
  induction first generalizing bits with
  | nil => simp [union?]
  | cons flag rest inductionHypothesis =>
    simp only [List.cons_append, union?_cons_iff, inductionHypothesis]
    constructor
    · rintro ⟨word, _, given, ⟨left, right, remaining, behind, rfl⟩, rfl⟩
      exact ⟨word ||| left, right, ⟨word, left, given, remaining, rfl⟩, behind,
        (UInt32.or_assoc ..).symm⟩
    · rintro ⟨_, right, ⟨word, left, given, remaining, rfl⟩, behind, rfl⟩
      exact ⟨word, left ||| right, given, ⟨left, right, remaining, behind, rfl⟩,
        UInt32.or_assoc ..⟩

/-- A text has the union of what its tokens give. -/
theorem flags?_eq (type : FlagsType) (text : String) :
    flags? type text = union? ((flagTokens text).map (flag? type)) := by
  rw [flags?, flagTokens, List.map_map]
  rfl

/-- A text stands for a word exactly when all its tokens mean words and the word has the bits
of these. -/
theorem flags?_eq_some_iff (type : FlagsType) (text : String) (bits : UInt32) :
    flags? type text = some bits ↔
      (∀ token ∈ flagTokens text, ∃ word, MeansFlags type token word) ∧
        ∀ bit, Sets bits bit ↔
          ∃ token ∈ flagTokens text, ∃ word, MeansFlags type token word ∧ Sets word bit := by
  rw [flags?_eq, union?_eq_some_iff, List.forall_mem_map]
  simp only [List.mem_map, flag?_eq_some_iff]
  refine and_congr_right fun _ => forall_congr' fun bit => iff_congr Iff.rfl ?_
  constructor
  · rintro ⟨word, ⟨token, among, means⟩, sets⟩
    exact ⟨token, among, word, means, sets⟩
  · rintro ⟨token, among, word, means, sets⟩
    exact ⟨word, ⟨token, among, means⟩, sets⟩

/-- A bar between two texts parts their tokens. -/
theorem flagTokens_append (first second : String) :
    flagTokens (first ++ "|" ++ second) = flagTokens first ++ flagTokens second := by
  have parted : (first ++ "|" ++ second).toList = first.toList ++ '|' :: second.toList := by
    simp
  unfold flagTokens
  rw [parted, Text.fields_append, List.map_append]

end Coerce

/-- A text is accepted with a word exactly when it stands for the word. -/
theorem coerceFlags_ok_iff (text : String) (type : FlagsType) (bits : UInt32) :
    coerceFlags text type = .ok bits ↔ Coerce.flags? type text = some bits := by
  unfold coerceFlags
  cases Coerce.flags? type text <;> simp

/-- A text that stands for no word is refused as a whole. -/
theorem coerceFlags_error_iff (text : String) (type : FlagsType) (refusal : ValueError) :
    coerceFlags text type = .error refusal ↔
      refusal = .invalidValue text (.flags type) ∧
        ¬ ∃ bits, Coerce.flags? type text = some bits := by
  unfold coerceFlags
  cases Coerce.flags? type text <;> simp [eq_comm]

/-- Texts of flags are joined as their words are. Two texts with a bar between them are accepted
exactly when both are, and give the union of both words. Texts with the same tokens, in whatever
order and however often, give the same word, or none of them does. A blank token anywhere makes
a text invalid. What a text gives is the union of the words that its tokens mean, and it is
refused exactly when one of them means none. -/
theorem flags_joined (type : FlagsType) :
    (∀ (first second : String) (bits : UInt32),
      coerceFlags (first ++ "|" ++ second) type = .ok bits ↔
        ∃ left right, coerceFlags first type = .ok left ∧ coerceFlags second type = .ok right ∧
          bits = left ||| right) ∧
    (∀ first second : String, (∀ token, token ∈ flagTokens first ↔ token ∈ flagTokens second) →
      ∀ bits, coerceFlags first type = .ok bits ↔ coerceFlags second type = .ok bits) ∧
    (∀ text : String, [] ∈ flagTokens text →
      coerceFlags text type = .error (.invalidValue text (.flags type))) ∧
    (∀ (text : String) (bits : UInt32), coerceFlags text type = .ok bits ↔
      (∀ token ∈ flagTokens text, ∃ word, MeansFlags type token word) ∧
        ∀ bit, Sets bits bit ↔
          ∃ token ∈ flagTokens text, ∃ word, MeansFlags type token word ∧ Sets word bit) ∧
    ∀ (text : String) (refusal : ValueError), coerceFlags text type = .error refusal ↔
      refusal = .invalidValue text (.flags type) ∧
        ∃ token ∈ flagTokens text, ∀ word, ¬ MeansFlags type token word := by
  have refused (text : String) : (¬ ∃ bits, Coerce.flags? type text = some bits) ↔
      ∃ token ∈ flagTokens text, ∀ word, ¬ MeansFlags type token word := by
    rw [Coerce.flags?_eq, Coerce.exists_union?_iff]
    simp only [List.forall_mem_map, Coerce.flag?_eq_some_iff]
    push Not
    rfl
  refine ⟨?_, ?_, ?_, ?_, ?_⟩
  · intro first second bits
    simp only [coerceFlags_ok_iff, Coerce.flags?_eq, Coerce.flagTokens_append, List.map_append]
    exact Coerce.union?_append_iff _ _ bits
  · intro first second same bits
    simp only [coerceFlags_ok_iff, Coerce.flags?_eq_some_iff, same]
  · intro text blank
    rw [coerceFlags_error_iff, refused]
    exact ⟨rfl, [], blank, fun word means => means.1 rfl⟩
  · intro text bits
    rw [coerceFlags_ok_iff, Coerce.flags?_eq_some_iff]
  · intro text refusal
    rw [coerceFlags_error_iff, refused]

/-- Keys held while a pointer moves. -/
def modifiers : FlagsType :=
  ⟨"Modifiers", [⟨1, "SHIFT_MASK", "shift"⟩, ⟨4, "CONTROL_MASK", "control"⟩]⟩

/-- A name, a nick and an integer are joined alike in another order and with a repetition, and
a bar at the end leaves a blank token. -/
theorem modifiers_reordered :
    (∀ token, token ∈ flagTokens "shift | CONTROL_MASK|8" ↔
      token ∈ flagTokens "8|shift|CONTROL_MASK| shift") ∧
    coerceFlags "8|shift|CONTROL_MASK| shift" modifiers = .ok 13 ∧
    [] ∈ flagTokens "shift|" ∧
    coerceFlags "shift|" modifiers = .error (.invalidValue "shift|" (.flags modifiers)) := by
  have same : ∀ token, token ∈ flagTokens "shift | CONTROL_MASK|8" ↔
      token ∈ flagTokens "8|shift|CONTROL_MASK| shift" := by
    have first : flagTokens "shift | CONTROL_MASK|8" =
        ["shift".toList, "CONTROL_MASK".toList, "8".toList] := by
      decide
    have second : flagTokens "8|shift|CONTROL_MASK| shift" =
        ["8".toList, "shift".toList, "CONTROL_MASK".toList, "shift".toList] := by
      decide
    intro token
    rw [first, second]
    simp only [List.mem_cons, List.not_mem_nil, or_false]
    tauto
  have blank : [] ∈ flagTokens "shift|" := by decide
  have joined : coerceFlags "shift | CONTROL_MASK|8" modifiers = .ok 13 := by decide
  obtain ⟨_, kept, spoilt, _⟩ := flags_joined modifiers
  exact ⟨same, (kept _ _ same 13).mp joined, blank, spoilt _ blank⟩

end ThemeMotion
