import Mathlib.Data.List.Induction
import ThemeMotion.Proofs.Selector.Chain
import ThemeMotion.Proofs.Selector.Grammar
import ThemeMotion.Selector.Parser

/-!
# Reading selectors is exact

A row of pieces is read as a selector exactly when the grammar can write it, and then it
is read as what is written.

What the reader keeps, complete compounds and one that may be open, is the view of a
beginning: a selector that has been written so far. `read_row` and `read_open` say that the
pieces of a beginning lead the reader to this view, and `read_sound` that every further step
leads from one beginning to another. Which refusal answers to which fault is not described,
and neither is the cutting of texts into pieces.
-/

namespace ThemeMotion

/-- A compound with one more component. -/
def Component.addTo (compound : Compound) : Component → Compound
  | id name => { compound with id := some name }
  | ofClass name => { compound with classes := compound.classes ++ [name] }
  | ofPseudoClass name => { compound with pseudoClasses := compound.pseudoClasses ++ [name] }

/-- The compound that is open after a beginning and components; none before either. -/
def opened : Head → List Component → Option Compound
  | .absent, [] => none
  | head, components => some (compoundOf head components)

/-- A compound that is not open yet is as good as the universal one. -/
theorem opened_getD (head : Head) (components : List Component) :
    (opened head components).getD .universal = compoundOf head components := by
  cases head <;> cases components <;> rfl

/-- No compound is open exactly when nothing of one has been written. -/
theorem opened_none_iff (head : Head) (components : List Component) :
    opened head components = none ↔ head = .absent ∧ components = [] := by
  cases head <;> cases components <;> simp [opened]

/-- One more component leaves a compound with one id at most when it is no id or there
is none before. -/
theorem single_concat_iff (components : List Component) (component : Component) :
    ((components ++ [component]).filterMap Component.id?).length ≤ 1 ↔
      (components.filterMap Component.id?).length ≤ 1 ∧
        (component.id? = none ∨ components.findSome? Component.id? = none) := by
  rw [← List.head?_filterMap, List.filterMap_append, List.length_append]
  cases found : component.id? with
  | none => simp [found]
  | some id =>
    cases components.filterMap Component.id? with
    | nil => simp [found]
    | cons first rest => simp [found]

/-- A compound is opened or continued by a component that it has room for. -/
theorem opened_concat (head : Head) (components : List Component) (component : Component)
    (room : component.id? = none ∨ components.findSome? Component.id? = none) :
    opened head (components ++ [component]) =
      some (component.addTo (compoundOf head components)) := by
  have present : opened head (components ++ [component]) =
      some (compoundOf head (components ++ [component])) := by
    cases head <;> cases components <;> rfl
  rw [present]
  cases component with
  | id name =>
    have lacking : components.findSome? Component.id? = none := room.resolve_left nofun
    simp [compoundOf, Component.addTo, lacking, Component.id?, Component.class?,
      Component.pseudoClass?]
  | ofClass name =>
    simp [compoundOf, Component.addTo, Component.id?, Component.class?, Component.pseudoClass?]
  | ofPseudoClass name =>
    simp [compoundOf, Component.addTo, Component.id?, Component.class?, Component.pseudoClass?]

/-- A written compound is one that has been opened. -/
theorem WrittenCompound.opened_eq (written : WrittenCompound) :
    opened written.head written.components = some written.compound := by
  obtain ⟨head, components, filled, single⟩ := written
  cases head with
  | absent =>
    cases components with
    | nil => exact absurd filled (by simp)
    | cons first rest => rfl
  | star => rfl
  | type name => rfl

/-- The compounds of a row with the combinators to their right, the newest in front. -/
def WrittenRow.outer (row : WrittenRow) : List (Combinator × Compound) :=
  (row.map fun (compound, combinator) => (combinator.combinator, compound.compound)).reverse

namespace Selector

/-- Pieces with their places. -/
abbrev Pieces := List (Css.Located Piece)

/-- The pieces without their places. -/
def contents (pieces : Pieces) : List Piece := pieces.map (·.content)

/-- No pieces have no contents. -/
theorem contents_nil_iff (pieces : Pieces) : contents pieces = [] ↔ pieces = [] :=
  List.map_eq_nil_iff

/-- The first content belongs to the first piece. -/
theorem contents_cons_iff (pieces : Pieces) (first : Piece) (others : List Piece) :
    contents pieces = first :: others ↔
      ∃ column behind, pieces = ⟨first, column⟩ :: behind ∧ contents behind = others := by
  unfold contents
  rw [List.map_eq_cons_iff]
  constructor
  · rintro ⟨⟨_, column⟩, behind, rfl, rfl, same⟩
    exact ⟨column, behind, rfl, same⟩
  · rintro ⟨column, behind, rfl, same⟩
    exact ⟨⟨first, column⟩, behind, rfl, rfl, same⟩

/-- A single content belongs to a single piece. -/
theorem contents_single_iff (pieces : Pieces) (piece : Piece) :
    contents pieces = [piece] ↔ ∃ column, pieces = [⟨piece, column⟩] := by
  rw [contents_cons_iff]
  constructor
  · rintro ⟨column, others, rfl, nothing⟩
    obtain rfl := (contents_nil_iff others).mp nothing
    exact ⟨column, rfl⟩
  · rintro ⟨column, rfl⟩
    exact ⟨column, [], rfl, rfl⟩

/-- Contents that stand one after the other belong to pieces that do. -/
theorem contents_append_iff (pieces : Pieces) (first second : List Piece) :
    contents pieces = first ++ second ↔
      ∃ before behind, pieces = before ++ behind ∧ contents before = first ∧
        contents behind = second :=
  List.map_eq_append_iff

variable {pieces : Pieces} (outer : Outer) (rest : Pieces)

/-- Blanks are passed over when no compound is open. -/
theorem read_blanks {count : Nat} (written : contents pieces = blanks count) :
    read outer none (pieces ++ rest) = read outer none rest := by
  induction count generalizing pieces with
  | zero =>
    obtain rfl := (contents_nil_iff pieces).mp written
    rfl
  | succ count inductionHypothesis =>
    obtain ⟨column, others, rfl, spaced⟩ := (contents_cons_iff _ _ _).mp written
    show read outer none (others ++ rest) = _
    exact inductionHypothesis spaced

/-- A component that a compound has room for is added to it. -/
theorem read_component (current : Option Compound) (component : Component)
    (written : contents pieces = component.pieces)
    (room : component.id? = none ∨ (current.getD .universal).id = none) :
    read outer current (pieces ++ rest) =
      read outer (some (component.addTo (current.getD .universal))) rest := by
  cases component with
  | id name =>
    obtain ⟨column, rfl⟩ := (contents_single_iff _ _).mp written
    have lacking : (current.getD .universal).id = none := room.resolve_left nofun
    exact if_neg (by simp [lacking])
  | ofClass name =>
    obtain ⟨column, behind, rfl, named⟩ := (contents_cons_iff _ _ _).mp written
    obtain ⟨next, rfl⟩ := (contents_single_iff _ _).mp named
    rfl
  | ofPseudoClass name =>
    obtain ⟨column, behind, rfl, named⟩ := (contents_cons_iff _ _ _).mp written
    obtain ⟨next, rfl⟩ := (contents_single_iff _ _).mp named
    rfl

/-- The pieces of a beginning and of components leave the compound of them open.

Induction on the components from the last one, since the reader adds each to what the ones
before it have made. -/
theorem read_open (head : Head) (components : List Component)
    (single : (components.filterMap Component.id?).length ≤ 1)
    (written : contents pieces = head.pieces ++ components.flatMap Component.pieces) :
    read outer none (pieces ++ rest) = read outer (opened head components) rest := by
  induction components using List.reverseRecOn generalizing pieces rest with
  | nil =>
    rw [List.flatMap_nil, List.append_nil] at written
    cases head with
    | absent =>
      obtain rfl := (contents_nil_iff pieces).mp written
      rfl
    | star =>
      obtain ⟨column, rfl⟩ := (contents_single_iff _ _).mp written
      rfl
    | type name =>
      obtain ⟨column, rfl⟩ := (contents_single_iff _ _).mp written
      rfl
  | append_singleton components component inductionHypothesis =>
    obtain ⟨single, room⟩ := (single_concat_iff components component).mp single
    rw [List.flatMap_append, List.flatMap_singleton, ← List.append_assoc] at written
    obtain ⟨before, last, rfl, first, second⟩ := (contents_append_iff _ _ _).mp written
    have lacking : component.id? = none ∨
        ((opened head components).getD .universal).id = none := by
      rwa [opened_getD]
    rw [List.append_assoc, inductionHypothesis (last ++ rest) single first,
      read_component outer rest _ component second lacking, opened_getD,
      opened_concat head components component room]

/-- The pieces of a compound leave it open. -/
theorem read_compound (compound : WrittenCompound) (written : contents pieces = compound.pieces) :
    read outer none (pieces ++ rest) = read outer (some compound.compound) rest := by
  rw [read_open outer rest compound.head compound.components compound.single written,
    compound.opened_eq]

/-- The pieces of a combinator complete the compound that is open. -/
theorem read_combinator (compound : Compound) (combinator : WrittenCombinator)
    (written : contents pieces = combinator.pieces) :
    read outer (some compound) (pieces ++ rest) =
      read ((combinator.combinator, compound) :: outer) none rest := by
  cases combinator with
  | gap further =>
    obtain ⟨column, others, rfl, spaced⟩ := (contents_cons_iff _ _ _).mp written
    exact read_blanks _ rest spaced
  | mark before after =>
    obtain ⟨first, behind, rfl, spaced, marked⟩ := (contents_append_iff _ _ _).mp written
    obtain ⟨column, last, rfl, trailing⟩ := (contents_cons_iff _ _ _).mp marked
    rw [List.append_assoc]
    cases before with
    | zero =>
      obtain rfl := (contents_nil_iff first).mp spaced
      exact read_blanks _ rest trailing
    | succ before =>
      obtain ⟨place, further, rfl, others⟩ := (contents_cons_iff _ _ _).mp spaced
      show read ((.ancestor, compound) :: outer) none (further ++ _) = _
      rw [read_blanks _ _ others]
      exact read_blanks _ rest trailing

/-- The pieces of a row complete its compounds one after the other. -/
theorem read_row (row : WrittenRow) (written : contents pieces = row.pieces) :
    read outer none (pieces ++ rest) = read (row.outer ++ outer) none rest := by
  induction row generalizing pieces outer with
  | nil =>
    obtain rfl := (contents_nil_iff pieces).mp written
    rfl
  | cons entry row inductionHypothesis =>
    obtain ⟨compound, combinator⟩ := entry
    obtain ⟨before, last, rfl, first, second⟩ := (contents_append_iff _ _ _).mp written
    obtain ⟨made, joined, rfl, made', joined'⟩ := (contents_append_iff _ _ _).mp first
    rw [List.append_assoc, List.append_assoc, read_compound outer _ compound made',
      read_combinator outer _ compound.compound combinator joined',
      inductionHypothesis _ second]
    simp [WrittenRow.outer]

/-- Blanks before a solid piece are passed over. -/
theorem firstSolid_blanks {count : Nat} (written : contents pieces = blanks count) :
    firstSolid? (pieces ++ rest) = firstSolid? rest := by
  induction count generalizing pieces with
  | zero =>
    obtain rfl := (contents_nil_iff pieces).mp written
    rfl
  | succ count inductionHypothesis =>
    obtain ⟨column, others, rfl, spaced⟩ := (contents_cons_iff _ _ _).mp written
    rw [List.cons_append, firstSolid?, if_pos rfl, inductionHypothesis spaced]

/-- An integer of a byte between blanks is read as a priority. -/
theorem readPriority_written (column : UInt32) {between after : Nat} (value : UInt8)
    (written : contents pieces =
      blanks between ++ .integer (Int32.ofNat value.toNat) :: blanks after) :
    readPriority column pieces = .ok value := by
  obtain ⟨before, behind, rfl, spaced, valued⟩ := (contents_append_iff _ _ _).mp written
  obtain ⟨place, last, rfl, trailing⟩ := (contents_cons_iff _ _ _).mp valued
  have bound : value.toNat < 256 := value.toNat_lt
  have integer : (Int32.ofNat value.toNat).toInt = value.toNat :=
    Int32.toInt_ofNat_of_lt (by omega)
  have nothing : firstSolid? last = none := by
    rw [← List.append_nil last, firstSolid_blanks [] trailing]
    rfl
  have byte : Word.uint8? (Int32.ofNat value.toNat).toInt = some value :=
    (Word.uint8?_eq_some _ _).mpr integer
  unfold readPriority
  rw [firstSolid_blanks _ spaced, firstSolid?, if_neg nofun]
  simp only [nothing, byte]

/-- A mark of a priority behind some compound ends the compounds. -/
theorem read_mark {column : UInt32} (current : Option Compound)
    (present : ¬ (current.isNone ∧ outer.isEmpty)) {value : UInt8}
    (priority : readPriority column pieces = .ok value) :
    read outer current (⟨.bang, column⟩ :: pieces) = finish outer current value := by
  rw [read, if_neg present]
  simp only [priority]

/-- The pieces of an ending complete the selector with the compound that is open. -/
theorem read_ending (compound : Compound) (ending : Ending)
    (written : contents pieces = ending.pieces) :
    read outer (some compound) pieces = .ok (compound, outer, ending.value) := by
  cases ending with
  | plain trailing =>
    cases trailing with
    | zero =>
      obtain rfl := (contents_nil_iff pieces).mp written
      rfl
    | succ trailing =>
      obtain ⟨column, others, rfl, spaced⟩ := (contents_cons_iff _ _ _).mp written
      show read ((.ancestor, compound) :: outer) none others = _
      rw [← List.append_nil others, read_blanks _ [] spaced]
      rfl
  | priority before between after value =>
    obtain ⟨first, behind, rfl, spaced, marked⟩ := (contents_append_iff _ _ _).mp written
    obtain ⟨column, last, rfl, valued⟩ := (contents_cons_iff _ _ _).mp marked
    have priority := readPriority_written column value valued
    cases before with
    | zero =>
      obtain rfl := (contents_nil_iff first).mp spaced
      exact read_mark outer (some compound) (by simp) priority
    | succ before =>
      obtain ⟨place, further, rfl, others⟩ := (contents_cons_iff _ _ _).mp spaced
      show read ((.ancestor, compound) :: outer) none (further ++ _) = _
      rw [read_blanks _ _ others]
      exact read_mark _ none (by simp) priority

/-- A written selector is read as what is written. -/
theorem read_written (written : WrittenSelector) (same : contents pieces = written.pieces) :
    read [] none pieces =
      .ok (written.last.compound, written.earlier.outer, written.ending.value) := by
  obtain ⟨front, ending, rfl, front', ended⟩ := (contents_append_iff _ _ _).mp same
  obtain ⟨row, last, rfl, row', lasting⟩ := (contents_append_iff _ _ _).mp front'
  obtain ⟨leading, earlier, rfl, spaced, completed⟩ := (contents_append_iff _ _ _).mp row'
  rw [List.append_assoc, List.append_assoc, read_blanks [] _ spaced,
    read_row [] _ written.earlier completed, List.append_nil,
    read_compound _ _ written.last lasting, read_ending _ _ written.ending ended]

end Selector

/-- A combinator with one more blank at its end. -/
def WrittenCombinator.widened : WrittenCombinator → WrittenCombinator
  | gap further => gap (further + 1)
  | mark before after => mark before (after + 1)

/-- A widened combinator means the same. -/
theorem WrittenCombinator.widened_combinator (combinator : WrittenCombinator) :
    combinator.widened.combinator = combinator.combinator := by
  cases combinator <;> rfl

/-- One more blank comes behind the others. -/
theorem blanks_succ (count : Nat) : blanks (count + 1) = blanks count ++ [.space] :=
  List.replicate_succ'

/-- A widened combinator has one more blank. -/
theorem WrittenCombinator.widened_pieces (combinator : WrittenCombinator) :
    combinator.widened.pieces = combinator.pieces ++ [.space] := by
  cases combinator with
  | gap further => simp [widened, pieces, blanks_succ]
  | mark before after => simp [widened, pieces, blanks_succ]

namespace WrittenRow

/-- The pieces of the last compound and its combinator come last. -/
theorem pieces_concat (row : WrittenRow) (compound : WrittenCompound)
    (combinator : WrittenCombinator) :
    WrittenRow.pieces (row ++ [(compound, combinator)]) =
      row.pieces ++ (compound.pieces ++ combinator.pieces) := by
  simp [pieces]

/-- The last compound is the newest. -/
theorem outer_concat (row : WrittenRow) (compound : WrittenCompound)
    (combinator : WrittenCombinator) :
    WrittenRow.outer (row ++ [(compound, combinator)]) =
      (combinator.combinator, compound.compound) :: row.outer := by
  simp [outer]

/-- The newest compound has been written last. -/
theorem outer_newest {row : WrittenRow} {combinator : Combinator} {compound : Compound}
    {others : List (Combinator × Compound)}
    (newest : row.outer = (combinator, compound) :: others) :
    ∃ before written mark, row = before ++ [(written, mark)] ∧ mark.combinator = combinator ∧
      written.compound = compound ∧ WrittenRow.outer before = others := by
  rcases List.eq_nil_or_concat row with rfl | ⟨before, ⟨written, mark⟩, rfl⟩
  · cases newest
  · rw [List.concat_eq_append, outer_concat] at newest
    obtain ⟨same, rfl⟩ := List.cons.inj newest
    obtain ⟨rfl, rfl⟩ := Prod.mk.inj same
    exact ⟨before, written, mark, List.concat_eq_append, rfl, rfl, rfl⟩

end WrittenRow

namespace Selector

/-- Pieces have been read up to complete compounds and one that may be open: they are
blanks, the complete compounds with their combinators, and what there is of the open one. -/
def Reached (consumed : List Piece) (outer : Outer) (current : Option Compound) : Prop :=
  ∃ (leading : Nat) (earlier : WrittenRow) (head : Head) (components : List Component),
    (components.filterMap Component.id?).length ≤ 1 ∧
    consumed = blanks leading ++ earlier.pieces ++
      (head.pieces ++ components.flatMap Component.pieces) ∧
    outer = earlier.outer ∧ current = opened head components

namespace Reached

variable {consumed : List Piece} {outer : Outer} {current : Option Compound}
  {compound : Compound}

/-- While no compound is open, there are complete ones only. -/
theorem closed_iff : Reached consumed outer none ↔
    ∃ (leading : Nat) (earlier : WrittenRow),
      consumed = blanks leading ++ earlier.pieces ∧ outer = earlier.outer := by
  constructor
  · rintro ⟨leading, earlier, head, components, _, rfl, rfl, closed⟩
    obtain ⟨rfl, rfl⟩ := (opened_none_iff head components).mp closed.symm
    exact ⟨leading, earlier, List.append_nil _, rfl⟩
  · rintro ⟨leading, earlier, rfl, rfl⟩
    exact ⟨leading, earlier, .absent, [], Nat.zero_le _, (List.append_nil _).symm, rfl, rfl⟩

/-- A compound that is open has been written, and could be complete. -/
theorem written (reached : Reached consumed outer (some compound)) :
    ∃ (leading : Nat) (earlier : WrittenRow) (last : WrittenCompound),
      consumed = blanks leading ++ earlier.pieces ++ last.pieces ∧ outer = earlier.outer ∧
        compound = last.compound := by
  obtain ⟨leading, earlier, head, components, single, rfl, rfl, present⟩ := reached
  have filled : head ≠ .absent ∨ components ≠ [] := by
    rw [← not_and_or, ← opened_none_iff, ← present]
    exact nofun
  let last : WrittenCompound := ⟨head, components, filled, single⟩
  have same : some compound = some last.compound := present.trans last.opened_eq
  exact ⟨leading, earlier, last, rfl, rfl, Option.some.inj same⟩

/-- A blank changes nothing while no compound is open. -/
theorem blank (reached : Reached consumed outer none) :
    Reached (consumed ++ [.space]) outer none := by
  obtain ⟨leading, earlier, rfl, rfl⟩ := closed_iff.mp reached
  refine closed_iff.mpr ?_
  rcases List.eq_nil_or_concat earlier with rfl | ⟨before, ⟨compound, combinator⟩, rfl⟩
  · refine ⟨leading + 1, [], ?_, rfl⟩
    rw [blanks_succ]
    simp [WrittenRow.pieces]
  · refine ⟨leading, before ++ [(compound, combinator.widened)], ?_, ?_⟩
    · rw [List.concat_eq_append, WrittenRow.pieces_concat, WrittenRow.pieces_concat,
        combinator.widened_pieces]
      simp
    · rw [List.concat_eq_append, WrittenRow.outer_concat, WrittenRow.outer_concat,
        combinator.widened_combinator]

/-- A combinator completes the compound that is open. -/
theorem combinator (reached : Reached consumed outer (some compound))
    (combinator : WrittenCombinator) :
    Reached (consumed ++ combinator.pieces) ((combinator.combinator, compound) :: outer) none := by
  obtain ⟨leading, earlier, last, rfl, rfl, rfl⟩ := reached.written
  refine closed_iff.mpr ⟨leading, earlier ++ [(last, combinator)], ?_, ?_⟩
  · rw [WrittenRow.pieces_concat]
    simp
  · rw [WrittenRow.outer_concat]

/-- The mark of a parent behind blanks makes them its own. -/
theorem mark (reached : Reached consumed ((.ancestor, compound) :: outer) none) :
    Reached (consumed ++ [.child]) ((.parent, compound) :: outer) none := by
  obtain ⟨leading, earlier, rfl, newest⟩ := closed_iff.mp reached
  obtain ⟨before, last, combinator, rfl, way, rfl, rfl⟩ := WrittenRow.outer_newest newest.symm
  cases combinator with
  | gap further =>
    refine closed_iff.mpr ⟨leading, before ++ [(last, .mark (further + 1) 0)], ?_, ?_⟩
    · rw [WrittenRow.pieces_concat, WrittenRow.pieces_concat]
      simp [WrittenCombinator.pieces, blanks, List.replicate_succ]
    · rw [WrittenRow.outer_concat]
      rfl
  | mark before after => cases way

/-- The beginning of a compound opens it. -/
theorem head (reached : Reached consumed outer none) (head : Head) (present : head ≠ .absent) :
    Reached (consumed ++ head.pieces) outer (some (compoundOf head [])) := by
  obtain ⟨leading, earlier, rfl, rfl⟩ := closed_iff.mp reached
  refine ⟨leading, earlier, head, [], Nat.zero_le _, by simp, rfl, ?_⟩
  cases head with
  | absent => exact absurd rfl present
  | star => rfl
  | type name => rfl

/-- A component that there is room for opens a compound or continues it. -/
theorem component (reached : Reached consumed outer current) (component : Component)
    (room : component.id? = none ∨ (current.getD .universal).id = none) :
    Reached (consumed ++ component.pieces) outer
      (some (component.addTo (current.getD .universal))) := by
  obtain ⟨leading, earlier, head, components, single, rfl, rfl, rfl⟩ := reached
  rw [opened_getD] at room ⊢
  refine ⟨leading, earlier, head, components ++ [component],
    (single_concat_iff components component).mpr ⟨single, room⟩, by simp, rfl, ?_⟩
  rw [opened_concat head components component room]

/-- Where the compounds may end, the last one is followed by blanks at most. -/
theorem finish {priority : UInt8} {reading : Reading} (reached : Reached consumed outer current)
    (success : finish outer current priority = .ok reading) :
    ∃ (leading : Nat) (earlier : WrittenRow) (last : WrittenCompound) (trailing : Nat),
      consumed = blanks leading ++ earlier.pieces ++ last.pieces ++ blanks trailing := by
  cases current with
  | some compound =>
    obtain ⟨leading, earlier, last, rfl, _⟩ := reached.written
    exact ⟨leading, earlier, last, 0, (List.append_nil _).symm⟩
  | none =>
    obtain ⟨leading, earlier, rfl, newest⟩ := closed_iff.mp reached
    match outer, success with
    | (.ancestor, compound) :: others, _ =>
      obtain ⟨before, last, combinator, rfl, way, rfl, rfl⟩ := WrittenRow.outer_newest newest.symm
      cases combinator with
      | gap further =>
        refine ⟨leading, before, last, further + 1, ?_⟩
        rw [WrittenRow.pieces_concat]
        simp [WrittenCombinator.pieces, blanks, List.replicate_succ]
      | mark before after => cases way

end Reached

/-- A piece that is found stands behind blanks. -/
theorem firstSolid_some {pieces behind : Pieces} {piece : Css.Located Piece}
    (found : firstSolid? pieces = some (piece, behind)) :
    ∃ count, contents pieces = blanks count ++ piece.content :: contents behind := by
  fun_induction firstSolid? pieces with
  | case1 => cases found
  | case2 first rest space inductionHypothesis =>
    obtain ⟨count, same⟩ := inductionHypothesis found
    refine ⟨count + 1, ?_⟩
    show first.content :: contents rest = _
    rw [space, same]
    rfl
  | case3 first rest solid =>
    cases found
    exact ⟨0, rfl⟩

/-- Where no piece is found, there are blanks alone. -/
theorem firstSolid_none {pieces : Pieces} (missing : firstSolid? pieces = none) :
    ∃ count, contents pieces = blanks count := by
  fun_induction firstSolid? pieces with
  | case1 => exact ⟨0, rfl⟩
  | case2 first rest space inductionHypothesis =>
    obtain ⟨count, same⟩ := inductionHypothesis missing
    refine ⟨count + 1, ?_⟩
    show first.content :: contents rest = _
    rw [space, same]
    rfl
  | case3 first rest solid => cases missing

/-- A priority that is read is the integer of a byte between blanks. -/
theorem readPriority_sound {column : UInt32} {pieces : Pieces} {value : UInt8}
    (success : readPriority column pieces = .ok value) :
    ∃ between after, contents pieces =
      blanks between ++ .integer (Int32.ofNat value.toNat) :: blanks after := by
  unfold readPriority at success
  split at success
  · cases success
  · next integer place rest found =>
    split at success
    · cases success
    · next missing =>
      split at success
      · next byte valued =>
        cases success
        obtain ⟨between, front⟩ := firstSolid_some found
        obtain ⟨after, back⟩ := firstSolid_none missing
        have bound : value.toNat < 256 := value.toNat_lt
        have same : integer = Int32.ofNat value.toNat := by
          rw [← Int32.toInt_inj, Int32.toInt_ofNat_of_lt (by omega)]
          exact (Word.uint8?_eq_some _ _).mp valued
        exact ⟨between, after, by rw [front, back, same]⟩
      · cases success
  · cases success

/-- What is read has been written.

Induction on the reading. Each step reaches further pieces, and what it makes of the
compounds is what these pieces write; where the reading ends, they write a selector. -/
theorem read_sound {consumed : List Piece} {outer : Outer} {current : Option Compound}
    {rest : Pieces} {reading : Reading} (reached : Reached consumed outer current)
    (success : read outer current rest = .ok reading) :
    ∃ written : WrittenSelector, consumed ++ contents rest = written.pieces := by
  fun_induction read outer current rest generalizing consumed with
  | case1 outer current =>
    obtain ⟨leading, earlier, last, trailing, rfl⟩ := reached.finish success
    exact ⟨⟨leading, earlier, last, .plain trailing⟩, List.append_nil _⟩
  | case2 outer column rest compound inductionHypothesis =>
    have further := inductionHypothesis (reached.combinator (.gap 0)) success
    rwa [List.append_assoc] at further
  | case3 outer column rest inductionHypothesis =>
    have further := inductionHypothesis reached.blank success
    rwa [List.append_assoc] at further
  | case4 column rest compound outer inductionHypothesis =>
    have further := inductionHypothesis (reached.combinator (.mark 0 0)) success
    rwa [List.append_assoc] at further
  | case5 column rest compound outer inductionHypothesis =>
    have further := inductionHypothesis reached.mark success
    rwa [List.append_assoc] at further
  | case6 => cases success
  | case7 => cases success
  | case8 outer name column rest inductionHypothesis =>
    have further := inductionHypothesis (reached.head (.type name) nofun) success
    rwa [List.append_assoc] at further
  | case9 => cases success
  | case10 outer column rest inductionHypothesis =>
    have further := inductionHypothesis (reached.head .star nofun) success
    rwa [List.append_assoc] at further
  | case11 => cases success
  | case12 outer current id column rest compound =>
    rename_i lacking inductionHypothesis
    have room : compound.id = none := Option.not_isSome_iff_eq_none.mp lacking
    have further := inductionHypothesis (reached.component (.id id) (.inr room)) success
    rwa [List.append_assoc] at further
  | case13 outer current column name place rest compound =>
    rename_i inductionHypothesis
    have further := inductionHypothesis (reached.component (.ofClass name) (.inl rfl)) success
    rwa [List.append_assoc] at further
  | case14 => cases success
  | case15 outer current column name place rest compound =>
    rename_i inductionHypothesis
    have further := inductionHypothesis (reached.component (.ofPseudoClass name) (.inl rfl)) success
    rwa [List.append_assoc] at further
  | case16 => cases success
  | case17 => cases success
  | case18 outer current column rest present priority valued =>
    obtain ⟨leading, earlier, last, before, rfl⟩ := reached.finish success
    obtain ⟨between, after, same⟩ := readPriority_sound valued
    refine ⟨⟨leading, earlier, last, .priority before between after priority⟩, ?_⟩
    show _ ++ .bang :: contents rest = _
    rw [same]
    simp [WrittenSelector.pieces, Ending.pieces]
  | case19 => cases success
  | case20 => cases success
  | case21 => cases success

/-- The compounds from right to left are the last one and those before it, the newest in
front. -/
theorem compounds_reverse (written : WrittenSelector) : written.compounds.reverse =
    written.last.compound :: written.earlier.outer.map Prod.snd := by
  simp [WrittenSelector.compounds, WrittenRow.outer, Function.comp_def]

/-- The combinators from right to left stand with the compounds to their left. -/
theorem combinators_reverse (written : WrittenSelector) :
    written.combinators.reverse = written.earlier.outer.map Prod.fst := by
  simp [WrittenSelector.combinators, WrittenRow.outer, Function.comp_def]

/-- A written selector describes the selector of its compounds and its priority, and no
other. -/
theorem describes_iff (written : WrittenSelector) (source : SourcePosition)
    (selector : Selector) : written.Describes source selector ↔
      selector = ⟨written.last.compound, written.earlier.outer, written.ending.value, source⟩ := by
  obtain ⟨path, plain⟩ := selector.chain_path
  have ways : selector.chain.path.map Prod.fst = selector.outer.map Prod.fst := by
    rw [← path, List.map_map, Function.comp_def]
  have reached : selector.chain.path.map (·.2.compound) = selector.outer.map Prod.snd := by
    rw [← path, List.map_map, Function.comp_def]
  constructor
  · rintro ⟨compounds, combinators, _, priority, _, placed, _⟩
    rw [compounds_reverse, reached] at compounds
    rw [combinators_reverse, ways] at combinators
    obtain ⟨subject, others⟩ := List.cons.inj compounds
    have outer : selector.outer = written.earlier.outer :=
      (List.zip_of_prod combinators others).trans (List.zip_of_prod rfl rfl).symm
    obtain ⟨_, _, _, _⟩ := selector
    cases subject
    cases outer
    cases priority
    cases placed
    rfl
  · rintro rfl
    refine ⟨?_, ?_, ?_, rfl, fun step member => (plain step member).1, rfl,
      fun step member => (plain step member).2⟩
    · rw [compounds_reverse, reached]
      rfl
    · rw [combinators_reverse, ways]
    · rw [← List.length_reverse, compounds_reverse, List.length_cons, List.length_map]
      exact Nat.add_comm 1 _

/-- What is written is accepted. -/
theorem written_accepted (source : SourcePosition) {pieces : Pieces} {written : WrittenSelector}
    (same : contents pieces = written.pieces) : ofPieces source pieces =
      .ok ⟨written.last.compound, written.earlier.outer, written.ending.value, source⟩ := by
  unfold ofPieces
  rw [read_written written same]
  rfl

/-- What is accepted has been written. -/
theorem accepted_written {source : SourcePosition} {pieces : Pieces} {selector : Selector}
    (accepted : ofPieces source pieces = .ok selector) :
    ∃ written : WrittenSelector, contents pieces = written.pieces ∧
      written.Describes source selector := by
  cases success : read [] none pieces with
  | error fault =>
    unfold ofPieces at accepted
    rw [success] at accepted
    cases accepted
  | ok reading =>
    have start : Reached [] [] none := Reached.closed_iff.mpr ⟨0, [], rfl, rfl⟩
    obtain ⟨written, same⟩ := read_sound start success
    rw [written_accepted source same] at accepted
    exact ⟨written, same, (describes_iff _ _ _).mpr (Except.ok.inj accepted).symm⟩

/-- Pieces are accepted as a selector exactly when the grammar can write them, and then the
selector is the one that is written: its links from the subject on are the compounds from
right to left, joined by the combinators, with the priority and the position. -/
theorem reading_exact (source : SourcePosition) (pieces : Pieces) :
    ((∃ selector, ofPieces source pieces = .ok selector) ↔
      ∃ written : WrittenSelector, contents pieces = written.pieces) ∧
    ∀ selector, ofPieces source pieces = .ok selector ↔
      ∃ written : WrittenSelector, contents pieces = written.pieces ∧
        written.Describes source selector := by
  constructor
  · constructor
    · rintro ⟨selector, accepted⟩
      obtain ⟨written, same, -⟩ := accepted_written accepted
      exact ⟨written, same⟩
    · rintro ⟨written, same⟩
      exact ⟨_, written_accepted source same⟩
  · intro selector
    constructor
    · exact accepted_written
    · rintro ⟨written, same, described⟩
      rw [(describes_iff _ _ _).mp described]
      exact written_accepted source same

end Selector

end ThemeMotion
