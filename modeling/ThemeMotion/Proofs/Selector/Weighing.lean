import ThemeMotion.Proofs.Css.Weighing
import ThemeMotion.Proofs.Selector.Writing

/-!
# What pieces take of a text

Each piece with a meaning in selectors takes a number of solid characters: a mark takes
itself, a name what its decoded characters need, and an integer its digits. The pieces of a
text together take no more than it has. A text without a backslash is followed a little
further, for there the names in the pieces begin as names do.
-/

namespace ThemeMotion

open Css (solid foreign weight)

namespace Piece

/-- The number of solid characters that a piece takes at least. -/
def effort : Piece → Nat
  | ident name => weight name.toList
  | idHash id => 1 + weight id.toList
  | integer n => (Decimal.digits n.toInt.toNat).length
  | space => 0
  | star | dot | colon | child | bang => 1
  | other _ => 0

/-- A name in a piece begins as an identifier does. -/
def Opens : Piece → Prop
  | ident name => Css.startsIdent name.toList = true
  | idHash id => Css.startsIdent id.toList = true
  | _ => True

/-- A piece has a meaning in selectors. -/
def Known (piece : Piece) : Prop := ∀ token, piece ≠ other token

/-- A piece takes as many solid characters of a text as its effort says, and has a name that
opens as one does where the text has no backslash. -/
def TakenFrom (text : List Char) (piece : Piece) (after : List Char) : Prop :=
  ∃ taken, text = taken ++ after ∧ piece.effort ≤ solid taken ∧ ('\\' ∉ text → piece.Opens)

/-- No address has a meaning in selectors. -/
theorem url_other (functionName : String) (text : List Char) :
    ofToken (Css.urlToken functionName text).1 = other (Css.urlToken functionName text).1 := by
  fun_cases Css.urlToken functionName text <;> rfl

variable {text : List Char}

/-- An identifier takes its name. -/
theorem ident_taken (opens : Css.startsIdent text = true)
    (known : (ofToken (Css.identToken text).1).Known) :
    TakenFrom text (ofToken (Css.identToken text).1) (Css.identToken text).2 := by
  obtain ⟨taken, same, bound⟩ := Css.name_taken text
  unfold Css.identToken at known ⊢
  dsimp only at known ⊢
  split at known
  · next rest after =>
    exfalso
    split at known
    · exact known _ (url_other _ rest)
    · exact known _ rfl
  · next alone =>
    refine ⟨taken, same, by simpa [ofToken, effort] using bound, fun plain => ?_⟩
    simpa [ofToken, Opens] using Css.name_opens opens plain

/-- A number sign before an identifier takes itself and the name. -/
theorem hash_taken (known : (ofToken (Css.hashToken text).1).Known) :
    TakenFrom ('#' :: text) (ofToken (Css.hashToken text).1) (Css.hashToken text).2 := by
  obtain ⟨taken, same, bound⟩ := Css.name_taken text
  unfold Css.hashToken at known ⊢
  split at known
  · next opens =>
    rw [if_pos opens]
    refine ⟨'#' :: taken, by rw [List.cons_append, ← same], ?_, fun plain => ?_⟩
    · have mark : solid ['#'] = 1 := rfl
      rw [Css.solid_cons, mark]
      simpa [ofToken, effort] using bound
    · simpa [ofToken, Opens] using
        Css.name_opens opens fun member => plain (List.mem_cons_of_mem _ member)
  · split at known <;> exact absurd rfl (known _)

/-- An integer takes its digits. -/
theorem number_taken (opens : Css.startsNumber text = true)
    (known : (ofToken (Css.numberToken text).1).Known) :
    TakenFrom text (ofToken (Css.numberToken text).1) (Css.numberToken text).2 := by
  unfold Css.numberToken at known ⊢
  dsimp only at known ⊢
  split at known
  · exact absurd rfl (known _)
  · next whole =>
    split at known
    · exact absurd rfl (known _)
    · next alone =>
      rw [if_neg alone]
      have digits (n : Int32) := Css.numeric_taken (n := n) opens
      generalize Css.numeric text = read at known digits ⊢
      obtain ⟨⟨signed, value, integer⟩, after⟩ := read
      cases integer with
      | none => exact absurd rfl (known _)
      | some n =>
        obtain ⟨taken, same, bound⟩ := digits n rfl
        exact ⟨taken, same, bound, fun _ => trivial⟩

/-- A mark takes itself. -/
theorem mark_taken {c : Char} {piece : Piece} (rest : List Char) (mark : solid [c] = 1)
    (single : piece.effort = 1) (opens : piece.Opens) : TakenFrom (c :: rest) piece rest :=
  ⟨[c], rfl, by rw [single, mark], fun _ => opens⟩

/-- A character alone that has a meaning in selectors takes itself. -/
theorem delim_taken (c : Char) (rest : List Char) (known : (ofToken (.delim c)).Known) :
    TakenFrom (c :: rest) (ofToken (.delim c)) rest := by
  by_cases star : c = '*'
  · exact star ▸ mark_taken rest rfl rfl trivial
  by_cases dot : c = '.'
  · exact dot ▸ mark_taken rest rfl rfl trivial
  by_cases child : c = '>'
  · exact child ▸ mark_taken rest rfl rfl trivial
  by_cases bang : c = '!'
  · exact bang ▸ mark_taken rest rfl rfl trivial
  have meaningless : ofToken (.delim c) = .other (.delim c) := by
    simp [ofToken, star, dot, child, bang]
  exact absurd meaningless (known _)

/-- A symbol with a meaning in selectors takes itself, and a number sign the name behind
it. -/
theorem symbol_taken (c : Char) (rest : List Char)
    (known : (ofToken (Css.symbolToken c rest).1).Known) :
    TakenFrom (c :: rest) (ofToken (Css.symbolToken c rest).1) (Css.symbolToken c rest).2 := by
  revert known
  fun_cases Css.symbolToken c rest with
  | case1 => exact hash_taken
  | case2 rest named =>
    rw [if_pos named]
    exact fun known => absurd rfl (known _)
  | case3 rest unnamed =>
    rw [if_neg unnamed]
    exact fun known => absurd rfl (known _)
  | case16 => exact fun _ => mark_taken _ rfl rfl trivial
  | case19 => exact delim_taken c rest
  | _ => exact fun known => absurd rfl (known _)

/-- Blanks take nothing that counts. -/
theorem space_taken {c : Char} (rest : List Char) :
    TakenFrom (c :: rest) .space (rest.dropWhile Css.isSpace) :=
  ⟨c :: rest.takeWhile Css.isSpace, by rw [List.cons_append, List.takeWhile_append_dropWhile],
    Nat.zero_le _, fun _ => trivial⟩

/-- A token with a meaning in selectors takes what its piece says. -/
theorem token_taken (c : Char) (rest : List Char)
    (known : (ofToken (Css.token c rest).1).Known) :
    TakenFrom (c :: rest) (ofToken (Css.token c rest).1) (Css.token c rest).2 := by
  revert known
  unfold Css.token
  split
  · exact fun _ => space_taken rest
  · split
    · intro known
      exfalso
      dsimp only at known
      split at known <;> exact known _ rfl
    · split
      · next opens => exact number_taken opens
      · split
        · exact fun known => absurd rfl (known _)
        · split
          · next opens => exact ident_taken opens
          · exact symbol_taken c rest

/-- What stands behind the comments at the front of a text ends it. -/
theorem afterComment_suffix (text : List Char) : Css.afterComment text <:+ text := by
  fun_induction Css.afterComment text with
  | case1 rest => exact (List.suffix_cons _ _).trans (List.suffix_cons _ _)
  | case2 => rename_i inductionHypothesis; exact inductionHypothesis.trans (List.suffix_cons _ _)
  | case3 => exact List.suffix_rfl

/-- What stands behind the comments at the front of a text ends it. -/
theorem dropComments_suffix (text : List Char) : Css.dropComments text <:+ text := by
  fun_induction Css.dropComments text with
  | case1 rest inductionHypothesis =>
    exact inductionHypothesis.trans ((afterComment_suffix rest).trans
      ((List.suffix_cons _ _).trans (List.suffix_cons _ _)))
  | case2 => exact List.suffix_rfl

/-- The pieces of a text take its solid characters, and no more than there are.

Induction on the length of the text; what the first piece leaves is shorter. -/
theorem scanned_taken (text : List Char) (known : ∀ piece ∈ scanned text, piece.Known) :
    ((scanned text).map effort).sum ≤ solid text ∧
      ('\\' ∉ text → ∀ piece ∈ scanned text, piece.Opens) := by
  induction size : text.length using Nat.strongRecOn generalizing text with
  | ind length inductionHypothesis =>
    have uncommented := dropComments_suffix text
    cases begun : Css.dropComments text with
    | nil =>
      have nothing : scanned text = [] := by
        rw [scanned, Css.scanned, Css.tokensFrom_nothing 1 begun]
        rfl
      rw [nothing]
      exact ⟨Nat.zero_le _, fun _ piece member => absurd member List.not_mem_nil⟩
    | cons c rest =>
      have first : scanned text =
          ofToken (Css.token c rest).1 :: scanned (Css.token c rest).2 := by
        rw [scanned, Css.scanned_begun begun]
        rfl
      rw [begun] at uncommented
      rw [first] at known ⊢
      obtain ⟨taken, same, bound, opens⟩ := token_taken c rest (known _ List.mem_cons_self)
      have shorter := Css.token_length_le c rest
      have bounded := uncommented.length_le
      rw [List.length_cons] at bounded
      obtain ⟨others, opened⟩ := inductionHypothesis _ (by omega) (Css.token c rest).2
        (fun piece member => known piece (List.mem_cons_of_mem _ member)) rfl
      have total := Css.solid_suffix_le uncommented
      rw [same, Css.solid_append] at total
      refine ⟨?_, fun plain => ?_⟩
      · rw [List.map_cons, List.sum_cons]
        omega
      · have visible : '\\' ∉ c :: rest := fun member => plain (uncommented.subset member)
        rintro piece (_ | ⟨_, member⟩)
        · exact opens visible
        · refine opened (fun member => visible ?_) piece member
          rw [same]
          exact List.mem_append_right _ member

end Piece

end ThemeMotion
