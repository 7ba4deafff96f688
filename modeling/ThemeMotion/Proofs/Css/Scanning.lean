import Mathlib.Data.List.TakeWhile
import ThemeMotion.Css.Lexer
import ThemeMotion.Proofs.Decimal.Digits

/-!
# Scanning plain text

The tokens of a text without their columns follow from one another: the token at the front
and then the tokens of what it leaves. A name that needs no escape is scanned as it stands
wherever something follows that cannot continue it, and so are the digits of a number at
the end of a text.
-/

namespace ThemeMotion.Css

/-- A text of comments alone has no tokens. -/
theorem tokensFrom_nothing (column : UInt32) {text : List Char} (nothing : dropComments text = []) :
    tokensFrom column text = [] := by
  rw [tokensFrom]
  split
  · rfl
  · next c rest begun => cases nothing.symm.trans begun

/-- A text with a character behind its comments has the token of that character first. -/
theorem tokensFrom_begun (column : UInt32) {text rest : List Char} {c : Char}
    (begun : dropComments text = c :: rest) :
    tokensFrom column text = ⟨(token c rest).1, column⟩ ::
      tokensFrom (advance column (text.take (text.length - (token c rest).2.length)))
        (token c rest).2 := by
  rw [tokensFrom]
  split
  · next nothing => cases nothing.symm.trans begun
  · next other others begun' =>
    obtain ⟨rfl, rfl⟩ := List.cons.inj (begun.symm.trans begun')
    rfl

/-- The tokens of a text, without columns. -/
def scanned (text : List Char) : List Token := (tokensFrom 1 text).map (·.content)

/-- Where a text begins decides about columns only. -/
theorem tokensFrom_contents (column : UInt32) (text : List Char) :
    (tokensFrom column text).map (·.content) = scanned text := by
  have apart (first second : UInt32) : (tokensFrom first text).map (·.content) =
      (tokensFrom second text).map (·.content) := by
    induction size : text.length using Nat.strongRecOn generalizing text first second with
    | ind length inductionHypothesis =>
      cases begun : dropComments text with
      | nil => rw [tokensFrom_nothing first begun, tokensFrom_nothing second begun]
      | cons c rest =>
        have comments := dropComments_length_le text
        have shorter := token_length_le c rest
        rw [begun, List.length_cons] at comments
        rw [tokensFrom_begun first begun, tokensFrom_begun second begun, List.map_cons,
          List.map_cons, inductionHypothesis _ (by omega) (token c rest).2 _ _ rfl]
  exact apart column 1

/-- No text has no tokens. -/
theorem scanned_nil : scanned [] = [] := by
  rw [scanned, tokensFrom_nothing 1 (by simp [dropComments])]
  rfl

/-- The first token of a text is the one behind its comments, and the others are those of
what this one leaves. -/
theorem scanned_begun {text rest : List Char} {c : Char}
    (begun : dropComments text = c :: rest) :
    scanned text = (token c rest).1 :: scanned (token c rest).2 := by
  rw [scanned, tokensFrom_begun 1 begun, List.map_cons, tokensFrom_contents]

/-- No comment begins at a character other than a slash. -/
theorem dropComments_cons {c : Char} (rest : List Char) (plain : c ≠ '/') :
    dropComments (c :: rest) = c :: rest := by
  rw [dropComments]
  rintro others ⟨rfl, _⟩
  exact plain rfl

/-- A name that is read from itself: it begins as an identifier does, and none of its
characters has to be escaped. -/
structure IsPlain (name : List Char) : Prop where
  opens : startsIdent name = true
  ordinary : ∀ c ∈ name, isNameChar c = true

instance (name : List Char) : Decidable (IsPlain name) :=
  decidable_of_iff (startsIdent name = true ∧ name.all isNameChar = true)
    ⟨fun ⟨opens, ordinary⟩ => ⟨opens, List.all_eq_true.mp ordinary⟩,
      fun ⟨opens, ordinary⟩ => ⟨opens, List.all_eq_true.mpr ordinary⟩⟩

/-- What follows a name without continuing it or changing what it means. -/
def Separated (after : List Char) : Prop := ∀ c ∈ after.head?, c ∈ ['#', '.', ':', ' ']

/-- A name begins with a hyphen and a further character, or with a letter and the like. -/
theorem IsPlain.begins {name : List Char} (plain : IsPlain name) :
    ∃ first others, name = first :: others ∧
      (isNameStart first = true ∨
        first = '-' ∧ ∃ second behind, others = second :: behind ∧
          (second = '-' ∨ isNameStart second = true)) := by
  obtain ⟨opens, ordinary⟩ := plain
  unfold startsIdent at opens
  split at opens
  · cases opens
  · exact absurd (ordinary '\\' List.mem_cons_self) (by decide)
  · exact absurd (ordinary '\\' (List.mem_cons_of_mem _ List.mem_cons_self)) (by decide)
  · next second behind _ =>
    refine ⟨_, _, rfl, .inr ⟨rfl, second, behind, rfl, ?_⟩⟩
    simpa using opens
  · next first others _ _ _ => exact ⟨first, others, rfl, .inl opens⟩

/-- An ordinary name is read up to what separates it from the rest. -/
theorem name_ordinary (plain after : List Char) (ordinary : ∀ c ∈ plain, isNameChar c = true)
    (separated : Separated after) : name (plain ++ after) = (plain, after) := by
  induction plain with
  | nil =>
    cases after with
    | nil => rw [List.append_nil, name]
    | cons c rest =>
      have mark := separated c rfl
      rw [List.nil_append, name]
      rw [if_neg (by rintro rfl; simp at mark), if_neg (by rintro rfl; simp at mark), if_neg]
      revert mark
      simp only [List.mem_cons, List.not_mem_nil, or_false]
      rintro (rfl | rfl | rfl | rfl) <;> decide
  | cons c rest inductionHypothesis =>
    have first := ordinary c List.mem_cons_self
    rw [List.cons_append, name, if_neg (by rintro rfl; simp [isNameChar] at first),
      if_neg (by rintro rfl; revert first; decide), if_pos first,
      inductionHypothesis fun other member => ordinary other (List.mem_cons_of_mem _ member)]

/-- Marks and digits do not open a name. -/
theorem nameStart_not_mark {c : Char} (opens : isNameStart c = true) :
    c ∉ [' ', '\t', '\n', '\r', '\x0c', '"', '\'', '-', '+', '.', '\\', '/', '>'] ∧
      c.isDigit = false := by
  have marks : ∀ mark ∈ [' ', '\t', '\n', '\r', '\x0c', '"', '\'', '-', '+', '.', '\\', '/', '>'],
      isNameStart mark = false := by
    simp only [List.mem_cons, List.not_mem_nil, or_false, forall_eq_or_imp, forall_eq]
    decide
  have digits : ∀ digit ∈ (List.range 58).map Char.ofNat, digit.isDigit = true →
      isNameStart digit = false := by
    rw [List.forall_mem_map]
    decide
  constructor
  · intro member
    exact absurd opens (by simp [marks c member])
  · cases digit : c.isDigit with
    | false => rfl
    | true =>
      have bound : c.toNat < 58 := Nat.lt_succ_of_le ((Decimal.isDigit_iff c).mp digit).2
      have member : c ∈ (List.range 58).map Char.ofNat :=
        List.mem_map.mpr ⟨c.toNat, List.mem_range.mpr bound, Char.ofNat_toNat c⟩
      exact absurd opens (by simp [digits c member digit])

/-- What opens a name opens an identifier. -/
theorem startsIdent_cons {c : Char} (rest : List Char) (opens : isNameStart c = true) :
    startsIdent (c :: rest) = true := by
  obtain ⟨marks, _⟩ := nameStart_not_mark opens
  simp only [List.mem_cons, List.not_mem_nil, or_false, not_or] at marks
  rw [startsIdent]
  · exact opens
  all_goals simp_all

/-- The first character of a plain name is no mark, a hyphen apart. -/
theorem IsPlain.first {first : Char} {others : List Char} (plain : IsPlain (first :: others)) :
    first ∉ [' ', '\t', '\n', '\r', '\x0c', '"', '\'', '+', '.', '\\', '/', '>'] ∧
      first.isDigit = false := by
  obtain ⟨_, _, same, opens | ⟨rfl, _⟩⟩ := plain.begins
  · obtain ⟨rfl, _⟩ := List.cons.inj same
    obtain ⟨mark, digit⟩ := nameStart_not_mark opens
    exact ⟨fun member => mark (by simp at member ⊢; tauto), digit⟩
  · obtain ⟨rfl, _⟩ := List.cons.inj same
    decide

/-- More behind an identifier does not change how it begins. -/
theorem IsPlain.startsIdent_append {name : List Char} (after : List Char) (plain : IsPlain name) :
    startsIdent (name ++ after) = true := by
  obtain ⟨first, others, rfl, opens | ⟨rfl, second, behind, rfl, opens⟩⟩ := plain.begins
  · exact startsIdent_cons _ opens
  · rw [List.cons_append, List.cons_append, startsIdent]
    · simpa using opens
    · rintro rfl
      revert opens
      decide

/-- Neither a hyphen nor what opens a name begins digits or a fraction. -/
theorem startsFraction_quiet {c : Char} (rest : List Char)
    (opens : c = '-' ∨ isNameStart c = true) : startsFraction (c :: rest) = false := by
  have quiet : c ≠ '.' ∧ c.isDigit = false := by
    rcases opens with rfl | opens
    · decide
    · obtain ⟨marks, digit⟩ := nameStart_not_mark opens
      exact ⟨fun point => marks (by simp [point]), digit⟩
  rw [startsFraction]
  · exact quiet.2
  · exact fun _ same => quiet.1 (List.cons.inj same).1

/-- A plain name begins no number. -/
theorem IsPlain.startsNumber_append {name : List Char} (after : List Char) (plain : IsPlain name) :
    startsNumber (name ++ after) = false := by
  obtain ⟨first, others, rfl, opens | ⟨rfl, second, behind, rfl, opens⟩⟩ := plain.begins
  · obtain ⟨marks, _⟩ := nameStart_not_mark opens
    rw [startsNumber, List.cons_append, splitSign]
    · exact startsFraction_quiet _ (.inr opens)
    · exact fun _ same => marks (by simp [(List.cons.inj same).1])
    · exact fun _ same => marks (by simp [(List.cons.inj same).1])
  · exact startsFraction_quiet _ opens

/-- A name that no parenthesis follows is an identifier. -/
theorem identToken_eq {text decoded after : List Char} (read : name text = (decoded, after))
    (alone : ∀ rest, after ≠ '(' :: rest) :
    identToken text = (.ident (String.ofList decoded), after) := by
  simp only [identToken, read]

/-- A plain name is a token of its own. -/
theorem IsPlain.token_eq {first : Char} {others : List Char} (after : List Char)
    (plain : IsPlain (first :: others)) (separated : Separated after) :
    token first (others ++ after) = (.ident (String.ofList (first :: others)), after) := by
  obtain ⟨marks, _⟩ := plain.first
  simp only [List.mem_cons, List.not_mem_nil, or_false, not_or] at marks
  have solid : isSpace first = false := by simp [isSpace, isNewline, marks]
  have number := plain.startsNumber_append after
  have opens := plain.startsIdent_append after
  have read := name_ordinary _ after plain.ordinary separated
  rw [List.cons_append] at number opens read
  have notEnd : ∀ behind, first = '-' → others ++ after ≠ '-' :: '>' :: behind := by
    rintro behind - same
    rcases List.append_eq_cons_iff.mp same with ⟨-, rfl⟩ | ⟨further, rfl, joined⟩
    · exact absurd (separated '-' rfl) (by decide)
    · rcases List.cons_eq_append_iff.mp joined with ⟨-, rfl⟩ | ⟨_, rfl, _⟩
      · exact absurd (separated '>' rfl) (by decide)
      · exact absurd (plain.ordinary '>' (by simp)) (by decide)
  have alone : ∀ rest, after ≠ '(' :: rest := by
    rintro rest rfl
    exact absurd (separated '(' rfl) (by decide)
  rw [token, if_neg (by simp [solid]), if_neg (by simp [marks]), if_neg (by simp [number]),
    if_pos opens, identToken_eq read alone]
  exact notEnd

/-- A colon is a token by itself. -/
theorem token_colon (rest : List Char) : token ':' rest = (.colon, rest) := rfl

/-- The mark of a parent is a token by itself. -/
theorem token_child (rest : List Char) : token '>' rest = (.delim '>', rest) := rfl

/-- The mark of a priority is a token by itself. -/
theorem token_bang (rest : List Char) : token '!' rest = (.delim '!', rest) := rfl

/-- A space takes the blanks behind it along. -/
theorem token_space (rest : List Char) :
    token ' ' rest = (.whitespace, rest.dropWhile isSpace) := rfl

/-- A star joins nothing that separates. -/
theorem token_star {after : List Char} (separated : Separated after) :
    token '*' after = (.delim '*', after) := by
  cases after with
  | nil => rfl
  | cons c rest =>
    have mark := separated c rfl
    simp only [List.mem_cons, List.not_mem_nil, or_false] at mark
    rcases mark with rfl | rfl | rfl | rfl <;> rfl

/-- A number sign takes a plain name along. -/
theorem IsPlain.token_hash {name : List Char} (after : List Char) (plain : IsPlain name)
    (separated : Separated after) :
    token '#' (name ++ after) = (.idHash (String.ofList name), after) := by
  have hashed : token '#' (name ++ after) = hashToken (name ++ after) := rfl
  rw [hashed, hashToken, if_pos (plain.startsIdent_append after),
    name_ordinary name after plain.ordinary separated]

/-- A point before a plain name is a token by itself. -/
theorem IsPlain.token_point {name : List Char} (after : List Char) (plain : IsPlain name) :
    token '.' (name ++ after) = (.delim '.', name ++ after) := by
  obtain ⟨first, others, rfl, _⟩ := plain.begins
  have number : startsNumber ('.' :: (first :: others ++ after)) = false := plain.first.2
  have unnamed : startsIdent ('.' :: (first :: others ++ after)) = false := rfl
  rw [token, if_neg (by decide), if_neg (by decide), if_neg (Bool.eq_false_iff.mp number),
    if_neg (Bool.eq_false_iff.mp unnamed)]
  · rfl
  · exact fun _ same => absurd same (by decide)

/-- Marks are no digits. -/
theorem digit_not_mark {c : Char} (digit : c.isDigit = true) :
    c ∉ [' ', '\t', '\n', '\r', '\x0c', '"', '\'', '-', '+', '.', '/'] := by
  have marks : ∀ mark ∈ [' ', '\t', '\n', '\r', '\x0c', '"', '\'', '-', '+', '.', '/'],
      mark.isDigit = false := by
    simp only [List.mem_cons, List.not_mem_nil, or_false, forall_eq_or_imp, forall_eq]
    decide
  intro member
  exact absurd digit (by simp [marks c member])

/-- The digits of a number at the end of a text are a token, whose integer is the number as
far as 32 bits hold it. -/
theorem token_digits {n : Nat} {first : Char} {others : List Char}
    (written : Decimal.digits n = first :: others) :
    ∃ numeric, token first others = (.number numeric, []) ∧
      numeric.integer = some (Word.heldSigned n) := by
  have digit := Decimal.digits_isDigit n
  have value := Decimal.value_digits n
  rw [written] at digit value
  have opens := digit first List.mem_cons_self
  have marks := digit_not_mark opens
  simp only [List.mem_cons, List.not_mem_nil, or_false, not_or] at marks
  have run : splitDigits (first :: others) = (first :: others, []) := by
    unfold splitDigits
    rw [List.takeWhile_eq_self_iff.mpr digit, List.dropWhile_eq_nil_iff.mpr digit]
  have unsigned : splitSign (first :: others) = (none, first :: others) := by
    rw [splitSign]
    · exact fun _ same => absurd (List.cons.inj same).1 (by simp [marks])
    · exact fun _ same => absurd (List.cons.inj same).1 (by simp [marks])
  have number : startsNumber (first :: others) = true := by
    rw [startsNumber, unsigned, startsFraction]
    · exact opens
    · exact fun _ same => absurd (List.cons.inj same).1 (by simp [marks])
  obtain ⟨made, read, integer⟩ : ∃ made, numeric (first :: others) = (made, []) ∧
      made.integer = some (Word.heldSigned n) := by
    refine ⟨(numeric (first :: others)).1, ?_, ?_⟩ <;>
      simp [numeric, unsigned, run, splitFraction, splitExponent, value]
  refine ⟨made, ?_, integer⟩
  have solid : isSpace first = false := by simp [isSpace, isNewline, marks]
  rw [token, if_neg (by simp [solid]), if_neg (by simp [marks]), if_pos number]
  · simp [numberToken, read, startsIdent]
  · exact fun _ same => absurd same (by simp [marks])

end ThemeMotion.Css
