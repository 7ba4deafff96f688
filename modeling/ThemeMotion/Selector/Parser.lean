import ThemeMotion.Selector.Basic
import ThemeMotion.Selector.Piece
import ThemeMotion.Word

/-!
# Reading selectors

A selector is a row of compounds joined by combinators, with an optional priority.
The pieces are read from the left. Compounds that are complete wait with the
combinator to their right, the newest in front, so that at the end they are the
outer part of the selector as it stands.
-/

namespace ThemeMotion

/-- Why a text is no selector. -/
inductive SelectorError where
  /-- There is no compound. -/
  | empty
  /-- A piece stands where it cannot. -/
  | unexpected (piece : Piece) (column : UInt32)
  /-- No identifier follows a class or pseudo-class mark at once. -/
  | missingIdentifier (mark : Char) (column : UInt32)
  /-- Nothing follows a priority mark. -/
  | missingPriority (column : UInt32)
  /-- A parent combinator has nothing to its right. -/
  | danglingCombinator
  /-- A compound has two ids. -/
  | duplicateId (column : UInt32)
  /-- A priority is no integer. -/
  | priorityNotInteger (piece : Piece)
  /-- A priority does not fit a byte. -/
  | priorityOutOfRange (value : Int32)
deriving DecidableEq, Repr

/-- The wording of a refusal. -/
def SelectorError.message : SelectorError → String
  | .empty => "empty selector"
  | .unexpected piece column =>
    s!"unexpected {piece.display} at column {Decimal.natural column.toNat}"
  | .missingIdentifier mark column =>
    s!"expected an identifier after '{mark}' at column {Decimal.natural column.toNat}"
  | .missingPriority column =>
    s!"expected a priority after '!' at column {Decimal.natural column.toNat}"
  | .danglingCombinator => "selector ends with a dangling combinator"
  | .duplicateId column =>
    s!"duplicate id in compound selector at column {Decimal.natural column.toNat}"
  | .priorityNotInteger piece => invalidPriority piece.display
  | .priorityOutOfRange value => invalidPriority (Decimal.integer value.toInt)
where
  /-- The wording for a priority that is none. -/
  invalidPriority (found : String) : String :=
    s!"invalid priority '{found}', expected an integer in 0..=255"

namespace Selector

/-- Complete compounds with the combinators to their right, the newest in front. -/
abbrev Outer := List (Combinator × Compound)

/-- What the pieces of a selector say, apart from where it was declared. -/
abbrev Reading := Compound × Outer × UInt8

/-- The first piece that is not blank. -/
def firstSolid? : List (Css.Located Piece) → Option (Css.Located Piece × List (Css.Located Piece))
  | [] => none
  | piece :: rest => if piece.content = .space then firstSolid? rest else some (piece, rest)

/-- The priority after its mark, which stands at the given column. Only blanks may
follow it. -/
def readPriority (column : UInt32) (pieces : List (Css.Located Piece)) : Except SelectorError UInt8 :=
  match firstSolid? pieces with
  | none => .error (.missingPriority column)
  | some (⟨.integer value, _⟩, rest) =>
    match firstSolid? rest with
    | some (trailing, _) => .error (.unexpected trailing.content trailing.column)
    | none =>
      match Word.uint8? value.toInt with
      | some priority => .ok priority
      | none => .error (.priorityOutOfRange value)
  | some (piece, _) => .error (.priorityNotInteger piece.content)

/-- The end of the compounds. A blank after the last one is no combinator. -/
def finish (outer : Outer) (current : Option Compound) (priority : UInt8) :
    Except SelectorError Reading :=
  match current, outer with
  | some subject, outer => .ok (subject, outer, priority)
  | none, [] => .error .empty
  | none, (.parent, _) :: _ => .error .danglingCombinator
  | none, (.ancestor, subject) :: outer => .ok (subject, outer, priority)

/-- Reads pieces after complete compounds and at most one that is still open. -/
def read (outer : Outer) (current : Option Compound) :
    List (Css.Located Piece) → Except SelectorError Reading
  | [] => finish outer current 0
  | ⟨.space, _⟩ :: rest =>
    match current with
    | some compound => read ((.ancestor, compound) :: outer) none rest
    | none => read outer none rest
  | ⟨.child, column⟩ :: rest =>
    match current, outer with
    | some compound, outer => read ((.parent, compound) :: outer) none rest
    | none, (.ancestor, compound) :: outer => read ((.parent, compound) :: outer) none rest
    | none, _ => .error (.unexpected .child column)
  | ⟨.ident name, column⟩ :: rest =>
    match current with
    | some _ => .error (.unexpected (.ident name) column)
    | none => read outer (some (.ofType name)) rest
  | ⟨.star, column⟩ :: rest =>
    match current with
    | some _ => .error (.unexpected .star column)
    | none => read outer (some .universal) rest
  | ⟨.idHash id, column⟩ :: rest =>
    let compound := current.getD .universal
    if compound.id.isSome then .error (.duplicateId column)
    else read outer (some { compound with id := some id }) rest
  | ⟨.dot, _⟩ :: ⟨.ident name, _⟩ :: rest =>
    let compound := current.getD .universal
    read outer (some { compound with classes := compound.classes ++ [name] }) rest
  | ⟨.dot, column⟩ :: _ => .error (.missingIdentifier '.' column)
  | ⟨.colon, _⟩ :: ⟨.ident name, _⟩ :: rest =>
    let compound := current.getD .universal
    read outer (some { compound with pseudoClasses := compound.pseudoClasses ++ [name] }) rest
  | ⟨.colon, column⟩ :: _ => .error (.missingIdentifier ':' column)
  | ⟨.bang, column⟩ :: rest =>
    if current.isNone ∧ outer.isEmpty then .error (.unexpected .bang column)
    else
      match readPriority column rest with
      | .ok priority => finish outer current priority
      | .error error => .error error
  | ⟨.integer value, column⟩ :: _ => .error (.unexpected (.integer value) column)
  | ⟨.other token, column⟩ :: _ => .error (.unexpected (.other token) column)

/-- The selector of a row of pieces, declared at the given position. -/
def ofPieces (source : SourcePosition) (pieces : List (Css.Located Piece)) :
    Except SelectorError Selector :=
  (read [] none pieces).map fun (subject, outer, priority) =>
    { subject, outer, priority, source }

/-- The selector of a text, declared at the given position. -/
def parseAt (source : SourcePosition) (text : String) : Except SelectorError Selector :=
  ofPieces source (Piece.scan text)

/-- The selector of a text that no document declares. -/
def parse (text : String) : Except SelectorError Selector := parseAt .unknown text

end Selector

end ThemeMotion
