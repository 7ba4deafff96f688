import ThemeMotion.Proofs.Css.Scanning
import ThemeMotion.Proofs.Selector.Reading
import ThemeMotion.Selector.Printer

/-!
# Selectors are written in their own grammar

The text of a selector is scanned as the pieces of one way of writing it: the outermost
compound first, one blank or a parent mark between blanks behind each compound but the
last, a star for a compound that asks nothing, and the priority at the end unless it is
zero. Only the names have to be plain, since they are written as they are.

Every lemma about a part of a text speaks of what follows the part as well. A name ends at
what separates it from the rest, and blanks are taken up to what is no blank.
-/

namespace ThemeMotion

open Css (IsPlain Separated)

/-- The pieces of a text, without columns. -/
def Piece.scanned (text : List Char) : List Piece := (Css.scanned text).map Piece.ofToken

/-- The pieces of a selector text are those of its characters. -/
theorem Selector.contents_scan (text : String) :
    Selector.contents (Piece.scan text) = Piece.scanned text.toList := by
  simp [contents, Piece.scan, Piece.scanned, Css.scanned, Css.tokens]

namespace Piece

/-- The piece of a character that opens no comment comes first. -/
theorem scanned_cons {c : Char} (rest : List Char) (plain : c ≠ '/') :
    scanned (c :: rest) = ofToken (Css.token c rest).1 :: scanned (Css.token c rest).2 := by
  rw [scanned, Css.scanned_begun (Css.dropComments_cons rest plain)]
  rfl

/-- No text has no pieces. -/
theorem scanned_nil : scanned [] = [] := by
  rw [scanned, Css.scanned_nil]
  rfl

/-- A plain name is an identifier. -/
theorem scanned_name {name after : List Char} (plain : IsPlain name)
    (separated : Separated after) :
    scanned (name ++ after) = .ident (String.ofList name) :: scanned after := by
  obtain ⟨first, others, rfl, _⟩ := plain.begins
  have slash : first ≠ '/' := fun same => plain.first.1 (by simp [same])
  rw [List.cons_append, scanned_cons _ slash, plain.token_eq after separated]
  rfl

end Piece

/-- A component as it is written. -/
def Component.text : Component → List Char
  | id name => '#' :: name.toList
  | ofClass name => '.' :: name.toList
  | ofPseudoClass name => ':' :: name.toList

/-- The name in a component. -/
def Component.name : Component → String
  | id name => name
  | ofClass name => name
  | ofPseudoClass name => name

/-- A component separates what stands before it. -/
theorem Component.text_separated (component : Component) (after : List Char) :
    Separated (component.text ++ after) := by
  cases component <;> (rintro c ⟨⟩; simp)

/-- A component with a plain name is scanned as its pieces. -/
theorem Component.scanned_text (component : Component) {after : List Char}
    (plain : IsPlain component.name.toList) (separated : Separated after) :
    Piece.scanned (component.text ++ after) = component.pieces ++ Piece.scanned after := by
  cases component with
  | id name =>
    have plain : IsPlain name.toList := plain
    rw [text, List.cons_append, Piece.scanned_cons _ (by decide),
      plain.token_hash after separated]
    simp [Piece.ofToken, pieces]
  | ofClass name =>
    have plain : IsPlain name.toList := plain
    rw [text, List.cons_append, Piece.scanned_cons _ (by decide), plain.token_point after,
      Piece.scanned_name plain separated]
    simp [Piece.ofToken, pieces]
  | ofPseudoClass name =>
    have plain : IsPlain name.toList := plain
    rw [text, List.cons_append, Piece.scanned_cons _ (by decide), Css.token_colon,
      Piece.scanned_name plain separated]
    simp [Piece.ofToken, pieces]

/-- Components with plain names are scanned as their pieces. -/
theorem Component.scanned_texts (components : List Component) {after : List Char}
    (plain : ∀ component ∈ components, IsPlain component.name.toList)
    (separated : Separated after) :
    Separated (components.flatMap text ++ after) ∧
      Piece.scanned (components.flatMap text ++ after) =
        components.flatMap pieces ++ Piece.scanned after := by
  induction components with
  | nil => exact ⟨separated, rfl⟩
  | cons component rest inductionHypothesis =>
    obtain ⟨apart, others⟩ := inductionHypothesis fun other member =>
      plain other (List.mem_cons_of_mem _ member)
    rw [List.flatMap_cons, List.flatMap_cons, List.append_assoc, List.append_assoc]
    refine ⟨component.text_separated _, ?_⟩
    rw [component.scanned_text (plain component List.mem_cons_self) apart, others]

namespace Compound

/-- What a compound begins with where it is written; one that asks nothing is a star. -/
def head (compound : Compound) : Head :=
  match compound.typeName with
  | some name => .type name
  | none => if compound = .universal then .star else .absent

/-- The components of a compound in the order of writing. -/
def components (compound : Compound) : List Component :=
  compound.id.toList.map .id ++ compound.classes.map .ofClass ++
    compound.pseudoClasses.map .ofPseudoClass

/-- The names in a compound. -/
def names (compound : Compound) : List String :=
  compound.typeName.toList ++ compound.id.toList ++ compound.classes ++ compound.pseudoClasses

/-- The names of a compound are its type and those of its components. -/
theorem names_eq (compound : Compound) :
    compound.names = compound.typeName.toList ++ compound.components.map Component.name := by
  simp [names, components, Component.name, Function.comp_def]

/-- A compound that is written consists of something. -/
theorem head_filled (compound : Compound) :
    compound.head ≠ .absent ∨ compound.components ≠ [] := by
  obtain ⟨typeName, id, classes, pseudoClasses⟩ := compound
  cases typeName with
  | some name => exact .inl nofun
  | none =>
    by_cases universal : (⟨none, id, classes, pseudoClasses⟩ : Compound) = .universal
    · exact .inl (by simp [head, universal])
    · refine .inr ?_
      intro nothing
      refine universal ?_
      simp only [components, List.append_eq_nil_iff, List.map_eq_nil_iff] at nothing
      obtain ⟨⟨lacking, rfl⟩, rfl⟩ := nothing
      cases id with
      | none => rfl
      | some id => cases lacking

/-- The ids among the components are the id of the compound. -/
theorem components_ids (compound : Compound) :
    compound.components.filterMap Component.id? = compound.id.toList := by
  simp [components, List.filterMap_map, Function.comp_def, Component.id?]

/-- A compound as it is written. -/
def written (compound : Compound) : WrittenCompound where
  head := compound.head
  components := compound.components
  filled := compound.head_filled
  single := by
    rw [components_ids]
    cases compound.id <;> simp

/-- What is written is the compound. -/
theorem written_compound (compound : Compound) : compound.written.compound = compound := by
  have typed : compound.head.typeName = compound.typeName := by
    obtain ⟨typeName, _, _, _⟩ := compound
    cases typeName with
    | some name => rfl
    | none =>
      unfold head
      dsimp only
      split <;> rfl
  have identified : compound.components.findSome? Component.id? = compound.id := by
    rw [← List.head?_filterMap, components_ids]
    cases compound.id <;> rfl
  have classes : compound.components.filterMap Component.class? = compound.classes := by
    simp [components, List.filterMap_map, Function.comp_def, Component.class?,
      List.filterMap_eq_nil_iff.mpr]
  have pseudoClasses : compound.components.filterMap Component.pseudoClass? =
      compound.pseudoClasses := by
    simp [components, List.filterMap_map, Function.comp_def, Component.pseudoClass?,
      List.filterMap_eq_nil_iff.mpr]
  show compoundOf compound.head compound.components = compound
  rw [compoundOf, typed, identified, classes, pseudoClasses]

end Compound

/-- The beginning of a compound as it is written. -/
def Head.text : Head → List Char
  | absent => []
  | star => ['*']
  | type name => name.toList

namespace Compound

variable (compound : Compound)

/-- The text of a compound is its beginning and its components one after the other. -/
theorem display_text :
    compound.display.toList = compound.head.text ++ compound.components.flatMap Component.text := by
  obtain ⟨typeName, id, classes, pseudoClasses⟩ := compound
  by_cases universal : (⟨typeName, id, classes, pseudoClasses⟩ : Compound) = .universal
  · cases universal
    rfl
  · have begins : (head ⟨typeName, id, classes, pseudoClasses⟩).text =
        (typeName.getD "").toList := by
      cases typeName with
      | some name => rfl
      | none =>
        rw [head, if_neg universal]
        rfl
    rw [display, if_neg universal, begins]
    cases id <;> simp [components, List.flatMap_map, Component.text, String.toList_join]

/-- The type at the beginning of a compound is one of its names. -/
theorem head_names {name : String} (typed : compound.head = .type name) :
    name ∈ compound.names := by
  obtain ⟨typeName, _, _, _⟩ := compound
  cases typeName with
  | some other =>
    obtain rfl : other = name := Head.type.inj typed
    exact List.mem_append_left _ (List.mem_append_left _ (List.mem_append_left _ (by simp)))
  | none =>
    unfold head at typed
    dsimp only at typed
    split at typed <;> cases typed

/-- The names of the components are among those of the compound. -/
theorem component_names {component : Component} (member : component ∈ compound.components) :
    component.name ∈ compound.names := by
  rw [names_eq]
  exact List.mem_append_right _ (List.mem_map_of_mem member)

variable {compound} {after : List Char}
  (plain : ∀ name ∈ compound.names, IsPlain name.toList)
include plain

/-- A compound with plain names is scanned as its pieces. -/
theorem scanned_display (separated : Separated after) :
    Piece.scanned (compound.display.toList ++ after) =
      compound.written.pieces ++ Piece.scanned after := by
  obtain ⟨apart, others⟩ := Component.scanned_texts compound.components
    (fun component member => plain _ (compound.component_names member)) separated
  rw [display_text, List.append_assoc]
  show _ = (compound.head.pieces ++ compound.components.flatMap Component.pieces) ++ _
  rw [List.append_assoc, ← others]
  cases beginning : compound.head with
  | absent => rfl
  | star =>
    rw [Head.text, List.singleton_append, Piece.scanned_cons _ (by decide), Css.token_star apart]
    rfl
  | type name =>
    rw [Head.text, Piece.scanned_name (plain name (compound.head_names beginning)) apart,
      String.ofList_toList]
    rfl

/-- A compound with plain names does not begin with a blank. -/
theorem display_solid :
    (compound.display.toList ++ after).dropWhile Css.isSpace = compound.display.toList ++ after := by
  have filled := compound.head_filled
  rw [display_text, List.append_assoc]
  cases beginning : compound.head with
  | absent =>
    rw [beginning] at filled
    cases present : compound.components with
    | nil => exact absurd present (filled.resolve_left nofun)
    | cons component others => cases component <;> rfl
  | star => rfl
  | type name =>
    have named : IsPlain name.toList := plain name (compound.head_names beginning)
    obtain ⟨first, others, same, _⟩ := named.begins
    rw [same] at named
    have solid : Css.isSpace first = false := by
      have marks := named.first.1
      simp only [List.mem_cons, List.not_mem_nil, or_false, not_or] at marks
      simp [Css.isSpace, Css.isNewline, marks]
    rw [Head.text, same, List.cons_append, List.dropWhile_cons_of_neg (by simp [solid])]

end Compound

/-- A combinator as it is written. -/
def Combinator.written : Combinator → WrittenCombinator
  | .ancestor => .gap 0
  | .parent => .mark 1 1

/-- What is written is the combinator. -/
theorem Combinator.written_combinator (combinator : Combinator) :
    combinator.written.combinator = combinator := by
  cases combinator <;> rfl

/-- A combinator separates what stands before it. -/
theorem Combinator.display_separated (combinator : Combinator) (after : List Char) :
    Separated (combinator.display.toList ++ after) := by
  rintro c first
  have blank : c = ' ' := by cases combinator <;> exact (Option.some.inj first).symm
  simp [blank]

/-- A combinator before something that is no blank is scanned as its pieces. -/
theorem Combinator.scanned_display (combinator : Combinator) {after : List Char}
    (solid : after.dropWhile Css.isSpace = after) :
    Piece.scanned (combinator.display.toList ++ after) =
      combinator.written.pieces ++ Piece.scanned after := by
  have space (text : List Char) (solid : text.dropWhile Css.isSpace = text) :
      Piece.scanned (' ' :: text) = .space :: Piece.scanned text := by
    rw [Piece.scanned_cons _ (by decide), Css.token_space, solid]
    rfl
  cases combinator with
  | ancestor => exact space after solid
  | parent =>
    show Piece.scanned (' ' :: '>' :: ' ' :: after) = _
    rw [space _ rfl, Piece.scanned_cons _ (by decide), Css.token_child, space after solid]
    rfl

namespace Selector

/-- Compounds around a subject as they are written, the outermost first. -/
def writtenOuter (outer : Outer) : WrittenRow :=
  (outer.map fun (combinator, compound) => (compound.written, combinator.written)).reverse

/-- What is written are the compounds around the subject. -/
theorem writtenOuter_outer (outer : Outer) : (writtenOuter outer).outer = outer := by
  simp [writtenOuter, WrittenRow.outer, Compound.written_compound, Combinator.written_combinator,
    Function.comp_def]

/-- Compounds with plain names around a subject are scanned as their pieces.

Induction from the subject outwards; what has been scanned already is the text behind. -/
theorem scanned_displayOuter (outer : Outer)
    (plain : ∀ entry ∈ outer, ∀ name ∈ entry.2.names, IsPlain name.toList) {after : List Char}
    (solid : after.dropWhile Css.isSpace = after) :
    Piece.scanned ((displayOuter outer).toList ++ after) =
      (writtenOuter outer).pieces ++ Piece.scanned after := by
  induction outer generalizing after with
  | nil => rfl
  | cons entry outer inductionHypothesis =>
    obtain ⟨combinator, compound⟩ := entry
    have named := plain _ List.mem_cons_self
    have begun : (compound.display.toList ++ (combinator.display.toList ++ after)).dropWhile
        Css.isSpace = compound.display.toList ++ (combinator.display.toList ++ after) :=
      Compound.display_solid named
    have others := inductionHypothesis
      (fun other member => plain other (List.mem_cons_of_mem _ member)) begun
    have row : (writtenOuter ((combinator, compound) :: outer)).pieces =
        (writtenOuter outer).pieces ++ (compound.written.pieces ++ combinator.written.pieces) := by
      simp [writtenOuter, WrittenRow.pieces]
    rw [displayOuter, String.toList_append, String.toList_append, List.append_assoc,
      List.append_assoc, others, Compound.scanned_display named (combinator.display_separated after),
      combinator.scanned_display solid, row, List.append_assoc, List.append_assoc]

/-- A priority as it is written; zero is not. -/
def writtenEnding (priority : UInt8) : Ending :=
  if 0 < priority then .priority 1 0 0 priority else .plain 0

/-- What is written is the priority. -/
theorem writtenEnding_value (priority : UInt8) : (writtenEnding priority).value = priority := by
  unfold writtenEnding
  split
  · rfl
  · next none => exact (UInt8.le_antisymm (UInt8.not_lt.mp none) (UInt8.zero_le)).symm

/-- The text of a priority. -/
def endingText (priority : UInt8) : String :=
  if 0 < priority then " !" ++ Decimal.natural priority.toNat else ""

/-- A priority separates what stands before it, and is scanned as its pieces. -/
theorem scanned_endingText (priority : UInt8) :
    Separated (endingText priority).toList ∧
      Piece.scanned (endingText priority).toList = (writtenEnding priority).pieces := by
  unfold endingText writtenEnding
  split
  · cases written : Decimal.digits priority.toNat with
    | nil => exact absurd written (Decimal.digits_ne_nil _)
    | cons first others =>
      obtain ⟨numeric, read, integer⟩ := Css.token_digits written
      have digit : first.isDigit = true :=
        Decimal.digits_isDigit priority.toNat first (by simp [written])
      have slash : first ≠ '/' := by
        rintro rfl
        cases digit
      have bound : priority.toNat < 256 := priority.toNat_lt
      have held : Word.heldSigned priority.toNat = Int32.ofNat priority.toNat := by
        unfold Word.heldSigned
        rw [Int.min_eq_left (by omega), Int.max_eq_right (by omega)]
        rfl
      have text : (" !" ++ Decimal.natural priority.toNat).toList = ' ' :: '!' :: first :: others := by
        simp [Decimal.natural, written]
      rw [text]
      refine ⟨by rintro c ⟨⟩; simp, ?_⟩
      rw [Piece.scanned_cons _ (by decide), Css.token_space]
      show _ :: Piece.scanned ('!' :: _) = _
      rw [Piece.scanned_cons _ (by decide), Css.token_bang, Piece.scanned_cons _ slash, read,
        Piece.scanned_nil]
      obtain ⟨_, _, _⟩ := numeric
      cases integer
      rw [held]
      rfl
  · exact ⟨nofun, Piece.scanned_nil⟩

/-- A selector as it is written. -/
def written (selector : Selector) : WrittenSelector where
  leading := 0
  earlier := writtenOuter selector.outer
  last := selector.subject.written
  ending := writtenEnding selector.priority

/-- What is written is the selector. -/
theorem written_describes (selector : Selector) :
    selector.written.Describes selector.source selector := by
  rw [describes_iff]
  simp only [written, Compound.written_compound, writtenOuter_outer, writtenEnding_value]

/-- The names in a selector. -/
def names (selector : Selector) : List String := selector.compounds.flatMap Compound.names

variable {selector : Selector} (plain : ∀ name ∈ selector.names, IsPlain name.toList)
include plain

/-- A selector with plain names is scanned as its pieces. -/
theorem scanned_display : Piece.scanned selector.display.toList = selector.written.pieces := by
  have subject : ∀ name ∈ selector.subject.names, IsPlain name.toList := fun name member =>
    plain name (List.mem_flatMap.mpr ⟨selector.subject, List.mem_cons_self, member⟩)
  have outer : ∀ entry ∈ selector.outer, ∀ name ∈ entry.2.names, IsPlain name.toList :=
    fun entry member name named => plain name (List.mem_flatMap.mpr
      ⟨entry.2, List.mem_cons_of_mem _ (List.mem_map_of_mem member), named⟩)
  obtain ⟨separated, ending⟩ := scanned_endingText selector.priority
  show Piece.scanned (displayOuter selector.outer ++ selector.subject.display ++
    endingText selector.priority).toList = _
  rw [String.toList_append, String.toList_append, List.append_assoc,
    scanned_displayOuter selector.outer outer (Compound.display_solid subject),
    Compound.scanned_display subject separated, ending, ← List.append_assoc]
  rfl

/-- The text of a selector with plain names is read as the selector. -/
theorem parse_display : parse selector.display = .ok { selector with source := .unknown } := by
  have same : contents (Piece.scan selector.display) = selector.written.pieces := by
    rw [contents_scan, scanned_display plain]
  have read : parse selector.display = .ok ⟨selector.written.last.compound,
      selector.written.earlier.outer, selector.written.ending.value, .unknown⟩ :=
    written_accepted .unknown same
  have described := (describes_iff _ _ _).mp selector.written_describes
  rw [read]
  exact congrArg (fun other : Selector => Except.ok { other with source := .unknown })
    described.symm

end Selector

end ThemeMotion
