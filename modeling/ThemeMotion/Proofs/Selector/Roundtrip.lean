import ThemeMotion.Proofs.Selector.Weighing

/-!
# Which selectors are read back from their text

A selector is read back from its text exactly when none of its names needs an escape.
`parse_display` says that such names suffice. That they are needed is a matter of counting.
Whatever the text is read as, its pieces take no more solid characters than it has. The text
holds every name once as it is, without the backslashes that the foreign characters of a
name need, so that a selector with a foreign character in a name has pieces that do not fit
into its own text.
-/

namespace ThemeMotion

open Css (IsPlain solid foreign weight)

namespace Piece

/-- What a row of pieces takes of a text. -/
def total (pieces : List Piece) : Nat := (pieces.map effort).sum

@[simp]
theorem total_nil : total [] = 0 := rfl

@[simp]
theorem total_cons (piece : Piece) (rest : List Piece) :
    total (piece :: rest) = piece.effort + total rest := rfl

@[simp]
theorem total_append (first second : List Piece) :
    total (first ++ second) = total first + total second := by
  simp [total]

/-- Blanks take nothing that counts. -/
@[simp]
theorem total_blanks (count : Nat) : total (blanks count) = 0 := by
  simp [total, blanks, effort]

end Piece

/-- The number of characters in names that need an escape. -/
def foreigners (names : List String) : Nat := (names.map fun name => foreign name.toList).sum

/-- A component takes its text, and a backslash for each foreign character. -/
theorem Component.total_pieces (component : Component) :
    Piece.total component.pieces = solid component.text + foreign component.name.toList := by
  have id : solid ['#'] = 1 := rfl
  have point : solid ['.'] = 1 := rfl
  have colon : solid [':'] = 1 := rfl
  cases component <;>
    simp only [pieces, text, name, Piece.total_cons, Piece.total_nil, Piece.effort, weight,
      Css.solid_cons _ (String.toList _)] <;>
    omega

/-- Components can be put in order: ids, classes, pseudo-classes. -/
theorem Component.perm_ordered (components : List Component) :
    components.Perm ((components.filterMap id?).map id ++
      (components.filterMap class?).map ofClass ++
        (components.filterMap pseudoClass?).map ofPseudoClass) := by
  induction components with
  | nil => exact .nil
  | cons component rest inductionHypothesis =>
    refine (inductionHypothesis.cons component).trans ?_
    cases component with
    | id name => exact .refl _
    | ofClass name =>
      rw [List.append_assoc, List.append_assoc]
      exact List.perm_middle.symm
    | ofPseudoClass name => exact List.perm_middle.symm

/-- Where no type begins it, a compound begins with a star when it asks nothing. -/
theorem Compound.head_untyped {compound : Compound} (untyped : compound.typeName = none) :
    compound.head = if compound = .universal then .star else .absent := by
  obtain ⟨_, _, _, _⟩ := compound
  cases untyped
  rfl

namespace WrittenCompound

variable (written : WrittenCompound)

/-- The components of a written compound are those of the compound in another order. -/
theorem components_perm : written.components.Perm written.compound.components := by
  obtain ⟨head, components, _, single⟩ := written
  have ids : (components.findSome? Component.id?).toList = components.filterMap Component.id? := by
    rw [← List.head?_filterMap]
    cases found : components.filterMap Component.id? with
    | nil => rfl
    | cons first rest =>
      rw [found] at single
      obtain rfl := List.eq_nil_of_length_eq_zero (by simpa using single)
      rfl
  have ordered := Component.perm_ordered components
  rwa [← ids] at ordered

/-- What a compound begins with takes at least as much as where it is written as plainly as
it can be. -/
theorem total_head : solid written.compound.head.text +
    foreigners written.compound.typeName.toList ≤ Piece.total written.head.pieces := by
  have ordered := written.components_perm
  obtain ⟨head, components, filled, _⟩ := written
  cases head with
  | type name => simp [compound, compoundOf, Head.typeName, Compound.head, Head.text, Head.pieces,
      foreigners, Piece.effort, weight]
  | star =>
    show solid (Compound.head (compoundOf .star components)).text + 0 ≤ 1
    rw [Compound.head_untyped rfl]
    by_cases universal : compoundOf .star components = .universal
    · rw [if_pos universal]
      decide
    · rw [if_neg universal]
      decide
  | absent =>
    have present : components ≠ [] := filled.resolve_left (not_not_intro rfl)
    have special : compoundOf .absent components ≠ .universal := by
      intro universal
      have none : (compoundOf .absent components).components = [] := by rw [universal]; rfl
      exact present (List.perm_nil.mp (none ▸ ordered))
    show solid (Compound.head (compoundOf .absent components)).text + 0 ≤ 0
    rw [Compound.head_untyped rfl, if_neg special]
    decide

/-- The pieces of a compound take its text, and a backslash for each foreign character. -/
theorem total_pieces : solid written.compound.display.toList +
    foreigners written.compound.names ≤ Piece.total written.pieces := by
  have parts (components : List Component) :
      solid (components.flatMap Component.text) + foreigners (components.map Component.name) =
        Piece.total (components.flatMap Component.pieces) := by
    induction components with
    | nil => rfl
    | cons component rest inductionHypothesis =>
      have first := component.total_pieces
      simp only [List.flatMap_cons, List.map_cons, foreigners, List.sum_cons, Css.solid_append,
        Piece.total_append] at inductionHypothesis ⊢
      omega
  have ordered : Piece.total (written.components.flatMap Component.pieces) =
      Piece.total (written.compound.components.flatMap Component.pieces) :=
    ((written.components_perm.flatMap_right _).map _).sum_nat
  have begins := written.total_head
  have rest := parts written.compound.components
  rw [pieces, Piece.total_append, ordered, Compound.names_eq, Compound.display_text, Css.solid_append]
  simp only [foreigners, List.map_append, List.sum_append] at begins rest ⊢
  omega

/-- All pieces of a compound have a meaning. -/
theorem other_not_mem (token : Css.Token) : .other token ∉ written.pieces := by
  rw [pieces, List.mem_append, List.mem_flatMap]
  rintro (first | ⟨component, _, later⟩)
  · cases beginning : written.head <;> simp [beginning, Head.pieces] at first
  · cases component <;> simp [Component.pieces] at later

/-- A name of a compound stands in a piece of it. -/
theorem name_mem {name : String} (named : name ∈ written.compound.names) :
    .ident name ∈ written.pieces ∨ .idHash name ∈ written.pieces := by
  have ordered := written.components_perm
  have parts : name ∈ written.head.typeName.toList ++
      written.compound.components.map Component.name := written.compound.names_eq ▸ named
  rw [pieces, List.mem_append, List.mem_append, List.mem_flatMap, List.mem_flatMap]
  rcases List.mem_append.mp parts with typed | listed
  · refine .inl (.inl ?_)
    cases beginning : written.head <;> simp_all [Head.typeName, Head.pieces]
  · obtain ⟨component, member, rfl⟩ := List.mem_map.mp listed
    have member := ordered.mem_iff.mpr member
    cases component with
    | id name => exact .inr (.inr ⟨_, member, List.mem_singleton_self _⟩)
    | ofClass name => exact .inl (.inr ⟨_, member, by simp [Component.pieces, Component.name]⟩)
    | ofPseudoClass name =>
      exact .inl (.inr ⟨_, member, by simp [Component.pieces, Component.name]⟩)

end WrittenCompound

/-- The mark of a combinator takes itself. -/
theorem WrittenCombinator.total_pieces (written : WrittenCombinator) :
    Piece.total written.pieces = solid written.combinator.display.toList := by
  cases written with
  | gap further =>
    have blank : solid [' '] = 0 := rfl
    simp [pieces, Piece.effort, combinator, Combinator.display, blank]
  | mark before after =>
    have mark : solid [' ', '>', ' '] = 1 := rfl
    simp [pieces, Piece.effort, combinator, Combinator.display, mark]

/-- The pieces of a row take its text, and a backslash for each foreign character.

Induction on the row from its last compound, which is the newest. -/
theorem WrittenRow.total_pieces (row : WrittenRow) :
    solid (Selector.displayOuter row.outer).toList +
      foreigners (row.outer.flatMap fun entry => entry.2.names) ≤ Piece.total row.pieces := by
  induction row using List.reverseRecOn with
  | nil => decide
  | append_singleton row entry inductionHypothesis =>
    obtain ⟨compound, combinator⟩ := entry
    have last := compound.total_pieces
    rw [pieces_concat, outer_concat, Selector.displayOuter, Piece.total_append,
      Piece.total_append, combinator.total_pieces, List.flatMap_cons]
    simp only [String.toList_append, Css.solid_append, foreigners, List.map_append,
      List.sum_append] at inductionHypothesis last ⊢
    omega

/-- A priority takes its mark and its digits. -/
theorem Ending.total_pieces (ending : Ending) :
    solid (Selector.endingText ending.value).toList ≤ Piece.total ending.pieces := by
  cases ending with
  | plain trailing => exact Nat.zero_le _
  | priority before between after value =>
    have bound : value.toNat < 256 := value.toNat_lt
    have integer : (Int32.ofNat value.toNat).toInt.toNat = value.toNat := by
      rw [Int32.toInt_ofNat_of_lt (by omega), Int.toNat_natCast]
    unfold Selector.endingText
    rw [Ending.value, pieces]
    simp only [Piece.total_append, Piece.total_blanks, Piece.total_cons, Piece.effort, integer]
    split
    · have digits := Css.solid_digits (Decimal.digits_isDigit value.toNat)
      have mark : solid " !".toList = 1 := by decide
      simp only [Decimal.natural, String.toList_append, String.toList_ofList, Css.solid_append]
      omega
    · exact Nat.zero_le _

namespace WrittenSelector

/-- The pieces of a selector take its text, and a backslash for each foreign character. -/
theorem total_pieces {written : WrittenSelector} {selector : Selector} {source : SourcePosition}
    (described : written.Describes source selector) :
    solid selector.display.toList + foreigners selector.names ≤ Piece.total written.pieces := by
  rw [Selector.describes_iff] at described
  subst described
  have row := written.earlier.total_pieces
  have last := written.last.total_pieces
  have ending := written.ending.total_pieces
  have text : Selector.display ⟨written.last.compound, written.earlier.outer, written.ending.value,
      source⟩ = Selector.displayOuter written.earlier.outer ++ written.last.compound.display ++
        Selector.endingText written.ending.value := rfl
  have names : Selector.names ⟨written.last.compound, written.earlier.outer, written.ending.value,
      source⟩ = written.last.compound.names ++
        written.earlier.outer.flatMap fun entry => entry.2.names := by
    simp [Selector.names, Selector.compounds, List.flatMap_map]
  rw [text, names, pieces]
  simp only [String.toList_append, Css.solid_append, Piece.total_append, Piece.total_blanks,
    foreigners, List.map_append, List.sum_append] at row last ⊢
  omega

/-- All pieces of a selector have a meaning. -/
theorem pieces_known (written : WrittenSelector) : ∀ piece ∈ written.pieces, piece.Known := by
  rintro _ member token rfl
  simp only [pieces, List.mem_append] at member
  rcases member with ((leading | earlier) | last) | ending
  · cases List.eq_of_mem_replicate leading
  · obtain ⟨⟨compound, combinator⟩, _, part⟩ := List.mem_flatMap.mp earlier
    rcases List.mem_append.mp part with first | second
    · exact compound.other_not_mem token first
    · cases combinator <;> simp [WrittenCombinator.pieces, blanks] at second
  · exact written.last.other_not_mem token last
  · cases ended : written.ending <;> simp [ended, Ending.pieces, blanks] at ending

/-- Where the names in the pieces open as names do, those of the selector do. -/
theorem names_open {written : WrittenSelector} {selector : Selector} {source : SourcePosition}
    (described : written.Describes source selector)
    (opens : ∀ piece ∈ written.pieces, piece.Opens) :
    ∀ name ∈ selector.names, Css.startsIdent name.toList = true := by
  have compounds (compound : WrittenCompound)
      (inside : ∀ piece ∈ compound.pieces, piece ∈ written.pieces) :
      ∀ name ∈ compound.compound.names, Css.startsIdent name.toList = true := by
    intro name named
    rcases compound.name_mem named with member | member
    · exact opens _ (inside _ member)
    · exact opens _ (inside _ member)
  rw [Selector.describes_iff] at described
  subst described
  intro name named
  simp only [Selector.names, Selector.compounds, List.flatMap_cons, List.mem_append,
    List.mem_flatMap, List.mem_map] at named
  rcases named with last | ⟨_, ⟨entry, outer, rfl⟩, earlier⟩
  · refine compounds written.last (fun piece member => ?_) name last
    simp only [pieces, List.mem_append]
    exact .inl (.inr member)
  · obtain ⟨⟨compound, combinator⟩, row, rfl⟩ := List.mem_map.mp (List.mem_reverse.mp outer)
    refine compounds compound (fun piece member => ?_) name earlier
    simp only [pieces, List.mem_append]
    exact .inl (.inl (.inr (List.mem_flatMap.mpr ⟨_, row, List.mem_append_left _ member⟩)))

end WrittenSelector

/-- No ordinary character is a backslash. -/
theorem ordinary_visible {text : List Char} (ordinary : ∀ c ∈ text, Css.isNameChar c = true) :
    '\\' ∉ text := fun member => by cases ordinary '\\' member

/-- A compound of ordinary names has a text without a backslash. -/
theorem Compound.display_visible {compound : Compound}
    (ordinary : ∀ name ∈ compound.names, ∀ c ∈ name.toList, Css.isNameChar c = true) :
    '\\' ∉ compound.display.toList := by
  rw [display_text, List.mem_append, List.mem_flatMap]
  rintro (first | ⟨component, member, later⟩)
  · cases beginning : compound.head with
    | absent => simp [beginning, Head.text] at first
    | star => simp [beginning, Head.text] at first
    | type name =>
      rw [beginning] at first
      exact ordinary_visible (ordinary name (compound.head_names beginning)) first
  · have named := ordinary_visible (ordinary _ (compound.component_names member))
    cases component <;> simp_all [Component.text, Component.name]

namespace Selector

/-- Compounds of ordinary names have a text without a backslash. -/
theorem displayOuter_visible (outer : Outer)
    (ordinary : ∀ entry ∈ outer, ∀ name ∈ entry.2.names, ∀ c ∈ name.toList,
      Css.isNameChar c = true) : '\\' ∉ (displayOuter outer).toList := by
  induction outer with
  | nil => decide
  | cons entry outer inductionHypothesis =>
    obtain ⟨combinator, compound⟩ := entry
    have newest := Compound.display_visible (ordinary _ List.mem_cons_self)
    have others := inductionHypothesis fun entry member =>
      ordinary entry (List.mem_cons_of_mem _ member)
    have mark : '\\' ∉ combinator.display.toList := by cases combinator <;> decide
    simp [displayOuter, newest, others, mark]

/-- A selector of ordinary names has a text without a backslash. -/
theorem display_visible {selector : Selector}
    (ordinary : ∀ name ∈ selector.names, ∀ c ∈ name.toList, Css.isNameChar c = true) :
    '\\' ∉ selector.display.toList := by
  have subject := Compound.display_visible fun name member =>
    ordinary name (List.mem_flatMap.mpr ⟨selector.subject, List.mem_cons_self, member⟩)
  have outer := displayOuter_visible selector.outer fun entry member name named =>
    ordinary name (List.mem_flatMap.mpr
      ⟨entry.2, List.mem_cons_of_mem _ (List.mem_map_of_mem member), named⟩)
  have ending : '\\' ∉ (endingText selector.priority).toList := by
    have digits : '\\' ∉ Decimal.digits selector.priority.toNat := fun member => by
      cases Decimal.digits_isDigit _ _ member
    unfold endingText
    split <;> simp [Decimal.natural, digits]
  have text : selector.display = displayOuter selector.outer ++ selector.subject.display ++
    endingText selector.priority := rfl
  rw [text]
  simp [subject, outer, ending]

/-- A selector is read back from its text exactly when its names are plain. The text has room
for the pieces only if no name has a foreign character. -/
theorem parse_display_iff (selector : Selector) :
    parse selector.display = .ok { selector with source := .unknown } ↔
      ∀ name ∈ selector.names, IsPlain name.toList := by
  refine ⟨fun accepted => ?_, parse_display⟩
  obtain ⟨written, same, described⟩ := accepted_written accepted
  rw [contents_scan] at same
  have needed := WrittenSelector.total_pieces described
  obtain ⟨fits, opens⟩ := Piece.scanned_taken selector.display.toList
    (same ▸ written.pieces_known)
  rw [same] at fits opens
  have none : foreigners selector.names = 0 := by
    have room : solid selector.display.toList + foreigners selector.names ≤
      solid selector.display.toList := needed.trans fits
    omega
  have ordinary : ∀ name ∈ selector.names, ∀ c ∈ name.toList, Css.isNameChar c = true :=
    fun name member => (Css.foreign_eq_zero_iff _).mp
      (List.sum_eq_zero_iff_forall_eq_nat.mp none _ (List.mem_map_of_mem member))
  have opened := WrittenSelector.names_open described (opens (display_visible ordinary))
  exact fun name member => ⟨opened name member, ordinary name member⟩

/-- An accepted text gives a selector that is read back from its own text exactly when its
names are plain. -/
theorem display_exact {text : String} {selector : Selector}
    (accepted : parse text = .ok selector) :
    parse selector.display = .ok selector ↔ ∀ name ∈ selector.names, IsPlain name.toList := by
  obtain ⟨written, -, described⟩ := accepted_written accepted
  have undeclared : { selector with source := .unknown } = selector := by
    rw [(describes_iff _ _ _).mp described]
  have exact := parse_display_iff selector
  rwa [undeclared] at exact

/-- A button in a tool bar directly inside of it, somewhere in a window. -/
def toolbarButton : Selector where
  subject := ⟨some "Button", some "ok", ["primary"], ["hover"]⟩
  outer := [(.parent, .ofType "Toolbar"), (.ancestor, .ofType "Window")]
  priority := 2
  source := .unknown

/-- Names of every kind, both combinators and a priority are read back. -/
theorem display_toolbar_button :
    parse "Window Toolbar>Button#ok.primary:hover  ! 2" = .ok toolbarButton ∧
      parse toolbarButton.display = .ok toolbarButton :=
  have accepted : parse "Window Toolbar>Button#ok.primary:hover  ! 2" = .ok toolbarButton := by
    decide +kernel
  ⟨accepted, (display_exact accepted).mpr (by decide)⟩

/-- A name that begins with an escaped digit is not read back: without its escape the text is
no selector. -/
theorem display_escaped_digit :
    parse "\\31 a" = .ok ⟨.ofType "1a", [], 0, .unknown⟩ ∧
      display ⟨.ofType "1a", [], 0, .unknown⟩ = "1a" ∧ (parse "1a").isOk = false := by
  decide +kernel

end Selector

end ThemeMotion
