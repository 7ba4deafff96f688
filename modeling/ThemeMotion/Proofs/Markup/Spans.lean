import ThemeMotion.Markup.Event

/-!
# Where events stand

The events of a document are laid one after the other along its text: each begins where the
one before it ends, and spans the bytes of the characters that it takes. The byte at which
an event begins is therefore the length of the text before it, and the events from there on
are those of the text that is left.

Nothing is said about what the characters of an event mean.
-/

namespace ThemeMotion

namespace Markup

open Text (byteLength)

/-- What is cut off at a bracket ends before the bracket, which ends before the rest. -/
theorem splitBracket?_cut {closes : List Char → Bool} {before text content after : List Char}
    (found : splitBracket? closes before text = some (content, after)) :
    before.reverse ++ text = content ++ '>' :: after := by
  induction text generalizing before with
  | nil => cases found
  | cons c rest inductionHypothesis =>
    rw [splitBracket?] at found
    split at found
    · next closing =>
      obtain ⟨rfl, rfl⟩ := Prod.mk.inj (Option.some.inj found)
      rw [closing.1]
    · rw [← inductionHypothesis found, List.reverse_cons, List.append_assoc,
        List.singleton_append]

/-- A tag ends before its bracket, which ends before the rest. -/
theorem splitTag?_cut {quote : Option Char} {text content after : List Char}
    (found : splitTag? quote text = some (content, after)) : text = content ++ '>' :: after := by
  induction text generalizing quote content with
  | nil => cases found
  | cons c rest inductionHypothesis =>
    simp only [splitTag?] at found
    split at found
    · next closing =>
      obtain ⟨rfl, rfl⟩ := Prod.mk.inj (Option.some.inj found)
      rw [closing.2, List.nil_append]
    · obtain ⟨⟨inner, tail⟩, cut, same⟩ := Option.map_eq_some_iff.mp found
      obtain ⟨rfl, rfl⟩ := Prod.mk.inj same
      rw [inductionHypothesis cut, List.cons_append]

/-- A document type ends before its bracket, which ends before the rest. -/
theorem splitNested?_cut {depth : Nat} {text content after : List Char}
    (found : splitNested? depth text = some (content, after)) :
    text = content ++ '>' :: after := by
  induction text generalizing depth content with
  | nil => cases found
  | cons c rest inductionHypothesis =>
    rw [splitNested?] at found
    split at found
    · next closing =>
      obtain ⟨rfl, rfl⟩ := Prod.mk.inj (Option.some.inj found)
      rw [closing.2, List.nil_append]
    · obtain ⟨⟨inner, tail⟩, cut, same⟩ := Option.map_eq_some_iff.mp found
      obtain ⟨rfl, rfl⟩ := Prod.mk.inj same
      rw [inductionHypothesis cut, List.cons_append]

/-- Markup of any kind ends before its bracket, which ends before the rest. -/
theorem splitMarkup_cut {text content after : List Char}
    (found : splitMarkup text = .ok (content, after)) : text = content ++ '>' :: after := by
  unfold splitMarkup at found
  split at found
  · exact splitBracket?_cut (orFault_eq_ok found)
  · exact splitBracket?_cut (orFault_eq_ok found)
  · split at found
    · exact splitNested?_cut (orFault_eq_ok found)
    · cases found
  · cases found
  · exact splitBracket?_cut (orFault_eq_ok found)
  · exact splitTag?_cut (orFault_eq_ok found)

/-- An event that ends the reading and comes of markup is a fault. -/
theorem Piece.event_last (opened : List (List Char)) (piece : Piece)
    (last : (piece.event opened).1.isLast = true) :
    ∃ fault, (piece.event opened).1 = .fault fault := by
  cases piece with
  | closing name =>
    cases opened with
    | nil => exact ⟨_, rfl⟩
    | cons expected outer =>
      unfold event at last ⊢
      dsimp only at last ⊢
      split at last
      · cases last
      · next differs => exact ⟨_, by rw [if_neg differs]⟩
  | _ => cases last

/-- Events stand behind a part of a text when they are those of the rest, whatever tags are
open there. -/
def Stands (whole before : List Char) (events : List Spanned) : Prop :=
  ∃ opened rest, whole = before ++ rest ∧ eventsFrom (byteLength before) opened rest = events

/-- What events stand behind is the beginning of the text. -/
theorem Stands.split {whole before : List Char} {events : List Spanned}
    (stands : Stands whole before events) : ∃ rest, whole = before ++ rest := by
  obtain ⟨_, rest, split, _⟩ := stands
  exact ⟨rest, split⟩

/-- Events laid along a text from behind a part of it on. The last of them is the end of the
text or a fault; each other one spans what it takes of the text, and the next one stands
behind that. -/
inductive Laid (whole : List Char) : (before : List Char) → List Spanned → Prop where
  | finish (stands : Stands whole whole [⟨.finish, byteLength whole, byteLength whole⟩]) :
      Laid whole whole [⟨.finish, byteLength whole, byteLength whole⟩]
  | fault {before : List Char} {fault : Fault} {stop : Nat}
      (stands : Stands whole before [⟨.fault fault, byteLength before, stop⟩]) :
      Laid whole before [⟨.fault fault, byteLength before, stop⟩]
  | next {before taken : List Char} {event : Event} {later : List Spanned}
      (stands : Stands whole before
        (⟨event, byteLength before, byteLength (before ++ taken)⟩ :: later))
      (others : Laid whole (before ++ taken) later) :
      Laid whole before (⟨event, byteLength before, byteLength (before ++ taken)⟩ :: later)

/-- Laid events stand behind the part of the text. -/
theorem Laid.stands {whole before : List Char} {events : List Spanned}
    (laid : Laid whole before events) : Stands whole before events := by
  cases laid with
  | finish stands => exact stands
  | fault stands => exact stands
  | next stands _ => exact stands

/-- Each of the laid events begins behind a front part of the text. -/
theorem Laid.begins {whole before : List Char} {events : List Spanned}
    (laid : Laid whole before events) :
    ∀ spanned ∈ events, ∃ part rest, whole = part ++ rest ∧ spanned.start = byteLength part := by
  induction laid with
  | finish stands =>
    intro spanned member
    rw [List.mem_singleton.mp member]
    exact ⟨_, [], (List.append_nil _).symm, rfl⟩
  | fault stands =>
    intro spanned member
    rw [List.mem_singleton.mp member]
    obtain ⟨rest, split⟩ := stands.split
    exact ⟨_, rest, split, rfl⟩
  | next stands others inductionHypothesis =>
    rw [List.forall_mem_cons]
    obtain ⟨rest, split⟩ := stands.split
    exact ⟨⟨_, rest, split, rfl⟩, inductionHypothesis⟩

/-- The events of a rest of a text are laid along it.

Induction on the events; what has been taken grows by the characters of each of them. -/
theorem events_laid {whole before rest : List Char} (here : whole = before ++ rest)
    (opened : List (List Char)) :
    Laid whole before (eventsFrom (byteLength before) opened rest) := by
  have stands : Stands whole before (eventsFrom (byteLength before) opened rest) :=
    ⟨opened, rest, here, rfl⟩
  generalize behind : byteLength before = offset at stands ⊢
  fun_induction eventsFrom offset opened rest generalizing before with
  | case1 =>
    obtain rfl := here.trans (List.append_nil before)
    subst behind
    exact .finish stands
  | case2 =>
    subst behind
    exact .fault stands
  | case3 =>
    subst behind
    exact .fault stands
  | case4 =>
    rename_i opened _ _ _ _ _ piece _ event _ same last
    have faulty := piece.event_last opened (by rw [same]; exact last)
    rw [same] at faulty
    obtain ⟨fault, rfl⟩ := faulty
    subst behind
    exact .fault stands
  | case5 =>
    rename_i rest content after found stop _ _ _ still _ _ inductionHypothesis
    have whole_eq : whole = (before ++ '<' :: (content ++ ['>'])) ++ after := by
      rw [here, splitMarkup_cut found]
      simp
    have reached : byteLength (before ++ '<' :: (content ++ ['>'])) = stop := by
      have brackets : '<'.utf8Size = 1 ∧ '>'.utf8Size = 1 := ⟨rfl, rfl⟩
      simp only [Text.byteLength_append, Text.byteLength_cons, Text.byteLength_nil, behind,
        brackets, stop]
      omega
    have further := inductionHypothesis whole_eq reached ⟨still, after, whole_eq, by rw [reached]⟩
    rw [← behind] at stands ⊢
    rw [← reached] at stands further ⊢
    exact .next stands further
  | case6 =>
    rename_i opened c rest _ run stop inductionHypothesis
    have whole_eq : whole = (before ++ run) ++ rest.dropWhile (· ≠ '<') := by
      rw [here, List.append_assoc, List.cons_append, List.takeWhile_append_dropWhile]
    have reached : byteLength (before ++ run) = stop := by
      rw [Text.byteLength_append, behind]
    have further := inductionHypothesis whole_eq reached ⟨opened, _, whole_eq, by rw [reached]⟩
    rw [← behind] at stands ⊢
    rw [← reached] at stands further ⊢
    exact .next stands further

/-- The events of a document without a byte order mark are laid along its whole text. -/
theorem source_laid {source : String} (unmarked : source.toList.head? ≠ some '\uFEFF') :
    Laid source.toList [] (events source) := by
  have plain : events source = eventsFrom 0 [] source.toList := by
    unfold events
    split
    · next text marked => exact absurd (by rw [marked]; rfl) unmarked
    · rfl
  rw [plain]
  exact events_laid (List.nil_append _).symm []

end Markup

end ThemeMotion
