import Mathlib.Data.List.Induction
import ThemeMotion.Theme.Cursor

/-!
# Tracking places

A cursor is advanced from offset to offset and never looks back at the text that it has
passed. What it tells is nevertheless a function of the offset alone: the place that a
count over the whole front of the text would give. `Behind` is what the cursor keeps from
one offset to the next, and `places_tracked` follows it along any ascending offsets.

Lines and columns are words. In a text whose bytes a word can number none of them overflows,
and they are then the counts themselves.

An offset within a character moves no cursor; nothing is said about such offsets.
-/

namespace ThemeMotion

open Text (byteLength)

/-- The line behind a text: one plus the newlines of the text. -/
def Text.line (text : List Char) : Nat := 1 + text.count '\n'

/-- The column behind a text: one plus the characters behind the last newline. -/
def Text.column (text : List Char) : Nat := 1 + (text.reverse.takeWhile (· ≠ '\n')).length

/-- A newline starts the next line. -/
theorem Text.counts_newline (text : List Char) :
    line (text ++ ['\n']) = line text + 1 ∧ column (text ++ ['\n']) = 1 := by
  simp [line, column, Nat.add_assoc]

/-- Any other character takes the next column. -/
theorem Text.counts_other (text : List Char) {c : Char} (other : c ≠ '\n') :
    line (text ++ [c]) = line text ∧ column (text ++ [c]) = column text + 1 := by
  simp [line, column, other, Nat.add_comm]

/-- The place behind a text. -/
def Place.behind (text : List Char) : Place := ⟨.ofNat (Text.line text), .ofNat (Text.column text)⟩

/-- Going on character by character leads to the place behind the text. -/
theorem Place.next_behind (text : List Char) : text.foldl Place.next .start = .behind text := by
  induction text using List.reverseRecOn with
  | nil => rfl
  | append_singleton text c inductionHypothesis =>
    rw [List.foldl_append, inductionHypothesis, List.foldl_cons, List.foldl_nil, Place.next]
    by_cases newline : c = '\n'
    · subst newline
      obtain ⟨line, column⟩ := Text.counts_newline text
      rw [if_pos rfl, behind, behind, line, column, UInt32.ofNat_add]
      rfl
    · obtain ⟨line, column⟩ := Text.counts_other text newline
      rw [if_neg newline, behind, behind, line, column, UInt32.ofNat_add]
      rfl

/-- One more character adds one to the line or sets the column back, and takes a byte: lines
and columns never outgrow the bytes of the text. -/
theorem Text.line_column_le (text : List Char) : line text + column text ≤ 2 + byteLength text := by
  induction text using List.reverseRecOn with
  | nil => exact Nat.le_refl 2
  | append_singleton text c inductionHypothesis =>
    have taken := c.utf8Size_pos
    have least : 1 ≤ column text := Nat.le_add_right 1 _
    rw [byteLength_append, byteLength_cons, byteLength_nil]
    by_cases newline : c = '\n'
    · subst newline
      have counted := counts_newline text
      omega
    · have counted := counts_other text newline
      omega

/-- Within a text whose bytes a word can number, line and column do not overflow. -/
theorem Place.behind_toNat {whole before rest : List Char} (split : whole = before ++ rest)
    (small : byteLength whole + 1 < UInt32.size) :
    (Place.behind before).line.toNat = Text.line before ∧
      (Place.behind before).column.toNat = Text.column before := by
  have bounded := Text.line_column_le before
  have first : 1 ≤ Text.line before := Nat.le_add_right 1 _
  have least : 1 ≤ Text.column before := Nat.le_add_right 1 _
  rw [split, Text.byteLength_append] at small
  exact ⟨UInt32.toNat_ofNat_of_lt' (by omega), UInt32.toNat_ofNat_of_lt' (by omega)⟩

/-- The characters at the front of a text that lie within a number of bytes. -/
def Text.within : (bytes : Nat) → List Char → List Char
  | _, [] => []
  | bytes, c :: rest => if c.utf8Size ≤ bytes then c :: within (bytes - c.utf8Size) rest else []

/-- A number of bytes ends between two characters of a text, or at its end, or behind it. -/
def Text.OnBoundary (text : List Char) (bytes : Nat) : Prop :=
  byteLength text ≤ bytes ∨ ∃ before after, text = before ++ after ∧ byteLength before = bytes

namespace Text

/-- The characters within the bytes of a front part are the part. -/
theorem within_append (before rest : List Char) :
    within (byteLength before) (before ++ rest) = before := by
  induction before with
  | nil =>
    cases rest with
    | nil => rfl
    | cons c rest =>
      have positive := c.utf8Size_pos
      rw [List.nil_append, within, if_neg (by rw [byteLength_nil]; omega)]
  | cons c before inductionHypothesis =>
    rw [List.cons_append, within, byteLength_cons, if_pos (Nat.le_add_right _ _),
      Nat.add_sub_cancel_left, inductionHypothesis]

/-- Within enough bytes lies the whole text. -/
theorem within_enough {text : List Char} {bytes : Nat} (enough : byteLength text ≤ bytes) :
    within bytes text = text := by
  induction text generalizing bytes with
  | nil => rfl
  | cons c rest inductionHypothesis =>
    rw [byteLength_cons] at enough
    rw [within, if_pos (by omega), inductionHypothesis (by omega)]

/-- What lies within more bytes begins with what lies within fewer. -/
theorem within_mono (text : List Char) {fewer more : Nat} (ascending : fewer ≤ more) :
    within fewer text <+: within more text := by
  induction text generalizing fewer more with
  | nil => exact List.nil_prefix
  | cons c rest inductionHypothesis =>
    rw [within, within]
    by_cases fits : c.utf8Size ≤ fewer
    · rw [if_pos fits, if_pos (Nat.le_trans fits ascending), List.cons_prefix_cons]
      exact ⟨rfl, inductionHypothesis (Nat.sub_le_sub_right ascending _)⟩
    · rw [if_neg fits]
      exact List.nil_prefix

/-- What lies within a number of bytes is a front part of the text. -/
theorem within_prefix (bytes : Nat) (text : List Char) : within bytes text <+: text := by
  have whole := within_mono text (Nat.le_max_left bytes (byteLength text))
  rwa [within_enough (Nat.le_max_right bytes _)] at whole

/-- A number of bytes is on a boundary exactly when the characters within it take all of them,
or as many as the text has. -/
theorem onBoundary_iff (text : List Char) (bytes : Nat) :
    OnBoundary text bytes ↔ byteLength (within bytes text) = min bytes (byteLength text) := by
  constructor
  · rintro (past | ⟨before, after, rfl, rfl⟩)
    · rw [within_enough past, Nat.min_eq_right past]
    · rw [within_append, byteLength_append, Nat.min_eq_left (Nat.le_add_right _ _)]
  · intro taken
    by_cases past : byteLength text ≤ bytes
    · exact .inl past
    · obtain ⟨after, split⟩ := within_prefix bytes text
      exact .inr ⟨_, after, split.symm, taken.trans (Nat.min_eq_left (by omega))⟩

instance (text : List Char) (bytes : Nat) : Decidable (OnBoundary text bytes) :=
  decidable_of_iff _ (onBoundary_iff text bytes).symm

end Text

/-- The place at a byte of a text. -/
def Place.at (whole : List Char) (offset : Nat) : Place := .behind (Text.within offset whole)

namespace Cursor

/-- The cursor stands behind a part of a text. -/
structure Behind (cursor : Cursor) (whole before : List Char) : Prop where
  place : cursor.place = .behind before
  offset : cursor.offset = byteLength before
  rest : whole = before ++ cursor.rest

/-- The cursor of a document stands at its beginning. -/
theorem ofSource_behind (source : String) : (ofSource source).Behind source.toList [] :=
  ⟨rfl, rfl, rfl⟩

/-- Bytes of whole characters are cut off with these characters. -/
theorem splitBytes?_append (passed rest : List Char) :
    splitBytes? (byteLength passed) (passed ++ rest) = some (passed, rest) := by
  induction passed with
  | nil => cases rest <;> rfl
  | cons c passed inductionHypothesis =>
    have positive := c.utf8Size_pos
    rw [List.cons_append, Text.byteLength_cons, splitBytes?]
    · rw [if_pos (Nat.le_add_right _ _), Nat.add_sub_cancel_left, inductionHypothesis]
      rfl
    · omega

/-- Enough bytes cut off the whole text. -/
theorem splitBytes?_enough {text : List Char} {bytes : Nat} (enough : byteLength text ≤ bytes) :
    splitBytes? bytes text = some (text, []) := by
  induction text generalizing bytes with
  | nil => rw [splitBytes?]
  | cons c rest inductionHypothesis =>
    have positive := c.utf8Size_pos
    rw [Text.byteLength_cons] at enough
    rw [splitBytes?]
    · rw [if_pos (by omega), inductionHypothesis (by omega)]
      rfl
    · omega

variable {cursor : Cursor} {whole before : List Char}

/-- Where the bytes up to an offset cut characters off, the cursor stands behind them. -/
theorem Behind.passing (behind : cursor.Behind whole before) {offset : Nat}
    {taken rest : List Char} (further : whole = before ++ taken ++ rest)
    (cut : splitBytes? (offset - byteLength before) cursor.rest = some (taken, rest)) :
    (cursor.advance offset).Behind whole (before ++ taken) := by
  have passed : cursor.advance offset =
      ⟨taken.foldl Place.next cursor.place, cursor.offset + byteLength taken, rest⟩ := by
    rw [Cursor.advance, behind.offset, cut]
  rw [passed]
  refine ⟨?_, ?_, further⟩
  · rw [behind.place, ← Place.next_behind, ← List.foldl_append, Place.next_behind]
  · rw [behind.offset, Text.byteLength_append]

/-- The cursor advances to the bytes of a longer part. -/
theorem Behind.advance {taken rest : List Char} (behind : cursor.Behind whole before)
    (further : whole = before ++ taken ++ rest) :
    (cursor.advance (byteLength (before ++ taken))).Behind whole (before ++ taken) := by
  have left : cursor.rest = taken ++ rest := by
    have same := behind.rest.symm.trans further
    rwa [List.append_assoc, List.append_cancel_left_eq] at same
  apply behind.passing further
  rw [left, Text.byteLength_append, Nat.add_sub_cancel_left, splitBytes?_append]

/-- The cursor stays where it stands. -/
theorem Behind.stay (behind : cursor.Behind whole before) :
    (cursor.advance (byteLength before)).Behind whole before := by
  have whole_eq : whole = before ++ [] ++ cursor.rest := by
    rw [List.append_nil]
    exact behind.rest
  have same := behind.advance whole_eq
  rwa [List.append_nil] at same

/-- Behind the end of a text the cursor stands at the end. -/
theorem Behind.finish (behind : cursor.Behind whole before) {offset : Nat}
    (past : byteLength whole ≤ offset) : (cursor.advance offset).Behind whole whole := by
  have enough : byteLength cursor.rest ≤ offset - byteLength before := by
    rw [behind.rest, Text.byteLength_append] at past
    omega
  have further : whole = before ++ cursor.rest ++ [] := by
    rw [List.append_nil]
    exact behind.rest
  have last := behind.passing further (splitBytes?_enough enough)
  rwa [← behind.rest] at last

/-- From a front part of what lies within an offset the cursor advances behind all of it. -/
theorem Behind.advance_within (behind : cursor.Behind whole before) {offset : Nat}
    (further : before <+: Text.within offset whole) (bounded : Text.OnBoundary whole offset) :
    (cursor.advance offset).Behind whole (Text.within offset whole) := by
  rcases bounded with past | ⟨front, rest, rfl, rfl⟩
  · rw [Text.within_enough past]
    exact behind.finish past
  · rw [Text.within_append] at further ⊢
    obtain ⟨taken, rfl⟩ := further
    exact behind.advance rfl

/-- The places that a cursor tells when it is advanced to one offset after the other. -/
def places (cursor : Cursor) : List Nat → List Place
  | [] => []
  | offset :: later => (cursor.advance offset).place :: (cursor.advance offset).places later

/-- A cursor that stands behind a part of a text tells the places at the offsets from there on.

Induction on the offsets. The cursor moves behind what lies within the first of them, and
this lies within each that follows, for the offsets ascend. -/
theorem Behind.places_eq (behind : cursor.Behind whole before) {offsets : List Nat}
    (ascending : offsets.Pairwise (· ≤ ·))
    (further : ∀ offset ∈ offsets, before <+: Text.within offset whole)
    (bounded : ∀ offset ∈ offsets, Text.OnBoundary whole offset) :
    cursor.places offsets = offsets.map (Place.at whole) := by
  induction offsets generalizing cursor before with
  | nil => rfl
  | cons offset later inductionHypothesis =>
    obtain ⟨least, others⟩ := List.pairwise_cons.mp ascending
    obtain ⟨here, beyond⟩ := List.forall_mem_cons.mp bounded
    have moved := behind.advance_within (further offset List.mem_cons_self) here
    have rest := inductionHypothesis moved others
      (fun next member => Text.within_mono whole (least next member)) beyond
    rw [places, rest, moved.place, List.map_cons, Place.at]

/-- Along ascending offsets on boundaries of a text a cursor tells at each offset the place
that counting from the start of the text gives: a line for every newline in the text before
the offset, and a column for every character behind the last newline. An offset behind the
end counts as the end. The place depends on the offset only, so that it does not matter which
offsets came before. The counts stay within the size of the text, so that line and column are the
counts themselves wherever a word can number the bytes. -/
theorem places_tracked (source : String) {offsets : List Nat}
    (ascending : offsets.Pairwise (· ≤ ·))
    (bounded : ∀ offset ∈ offsets, Text.OnBoundary source.toList offset) :
    (ofSource source).places offsets = offsets.map (Place.at source.toList) ∧
      ∀ offset ∈ offsets, ∃ before after, source.toList = before ++ after ∧
        byteLength before = min offset (byteLength source.toList) ∧
        (Place.at source.toList offset).line = .ofNat (1 + before.count '\n') ∧
        (Place.at source.toList offset).column =
          .ofNat (1 + (before.reverse.takeWhile (· ≠ '\n')).length) ∧
        (1 + before.count '\n') + (1 + (before.reverse.takeWhile (· ≠ '\n')).length) ≤
          2 + byteLength source.toList ∧
        (byteLength source.toList + 1 < UInt32.size →
          (Place.at source.toList offset).line.toNat = 1 + before.count '\n' ∧
          (Place.at source.toList offset).column.toNat =
            1 + (before.reverse.takeWhile (· ≠ '\n')).length) := by
  constructor
  · exact (ofSource_behind source).places_eq ascending (fun _ _ => List.nil_prefix) bounded
  · intro offset member
    have taken := (Text.onBoundary_iff _ _).mp (bounded offset member)
    obtain ⟨after, split⟩ := Text.within_prefix offset source.toList
    have shorter : byteLength (Text.within offset source.toList) ≤ byteLength source.toList := by
      rw [taken]
      exact Nat.min_le_right _ _
    refine ⟨Text.within offset source.toList, after, split.symm, taken, rfl, rfl, ?_, ?_⟩
    · exact Nat.le_trans (Text.line_column_le _) (Nat.add_le_add_left shorter 2)
    · exact Place.behind_toNat split.symm

/-- Characters of one, two and three bytes are counted alike, an offset may be repeated, and
one behind the end is the end. -/
theorem places_mixed_widths :
    [0, 2, 2, 4, 7, 8, 9, 40].Pairwise (· ≤ ·) ∧
      (∀ offset ∈ [0, 2, 2, 4, 7, 8, 9, 40], Text.OnBoundary "a\né→\nb".toList offset) ∧
      (ofSource "a\né→\nb").places [0, 2, 2, 4, 7, 8, 9, 40] =
        [⟨1, 1⟩, ⟨2, 1⟩, ⟨2, 1⟩, ⟨2, 2⟩, ⟨2, 3⟩, ⟨3, 1⟩, ⟨3, 2⟩, ⟨3, 2⟩] := by
  have ascending : [0, 2, 2, 4, 7, 8, 9, 40].Pairwise (· ≤ ·) := by decide
  have bounded : ∀ offset ∈ [0, 2, 2, 4, 7, 8, 9, 40],
      Text.OnBoundary "a\né→\nb".toList offset := by decide
  refine ⟨ascending, bounded, ?_⟩
  rw [(places_tracked "a\né→\nb" ascending bounded).1]
  decide

end Cursor

end ThemeMotion
