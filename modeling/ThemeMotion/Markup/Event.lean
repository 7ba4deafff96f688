import ThemeMotion.Markup.Attribute
import ThemeMotion.Text.Fields

/-!
# Reading a document as events

A document is cut at angle brackets into markup and runs of text. Markup is cut by
its kind: quotes hide the end of a tag, brackets nest in a document type, and
comments, data and instructions have ends of their own. Closing tags are checked
against the tags that are open. Events come with the bytes that they span, counted
from the first character after a byte order mark. The last event is a fault or the
end of the document.
-/

namespace ThemeMotion.Markup

/-- One step of a document. -/
inductive Event where
  | opening (tag : Tag)
  /-- An opening tag that closes itself. -/
  | empty (tag : Tag)
  | closing
  /-- A run of text, or a section of character data. -/
  | text (content : List Char)
  /-- A comment, a declaration, a processing instruction or a document type. -/
  | aside
  | fault (fault : Fault)
  | finish
deriving DecidableEq, Repr

/-- An event with the bytes that it spans. -/
structure Spanned where
  event : Event
  start : Nat
  stop : Nat
deriving DecidableEq, Repr

/-- Cuts a text at the first closing bracket before which the text, reversed,
satisfies a test. The text read so far is held in reverse. -/
def splitBracket? (closes : List Char → Bool) (before : List Char) :
    List Char → Option (List Char × List Char)
  | [] => none
  | c :: rest =>
    if c = '>' ∧ closes before then some (before.reverse, rest)
    else splitBracket? closes (c :: before) rest

/-- Cuts a tag at the first closing bracket outside quotes. -/
def splitTag? (quote : Option Char) : List Char → Option (List Char × List Char)
  | [] => none
  | c :: rest =>
    if quote = none ∧ c = '>' then some ([], rest)
    else
      let inside := match quote with
        | none => if c = '"' ∨ c = '\'' then some c else none
        | some q => if c = q then none else some q
      (splitTag? inside rest).map fun (content, after) => (c :: content, after)

/-- Cuts a document type at the closing bracket that balances the opening ones. -/
def splitNested? (depth : Nat) : List Char → Option (List Char × List Char)
  | [] => none
  | c :: rest =>
    if depth = 0 ∧ c = '>' then some ([], rest)
    else
      let inner := if c = '<' then depth + 1 else if c = '>' then depth - 1 else depth
      (splitNested? inner rest).map fun (content, after) => (c :: content, after)

/-- The fault of a text that ends before its markup does. -/
def orFault (fault : Fault) : Option α → Except Fault α
  | some value => .ok value
  | none => .error fault

/-- The content of the markup behind an opening bracket, and what follows its closing
bracket. -/
def splitMarkup (text : List Char) : Except Fault (List Char × List Char) :=
  match text with
  | '!' :: '[' :: _ =>
    orFault .openData (splitBracket? (fun before => before.take 2 = [']', ']']) [] text)
  | '!' :: '-' :: _ =>
    orFault .openComment (splitBracket?
      (fun before => before.take 2 = ['-', '-'] ∧ 5 ≤ before.length) [] text)
  | '!' :: c :: _ =>
    if c = 'D' ∨ c = 'd' then orFault .openDoctype (splitNested? 0 text)
    else .error .unknownMarkup
  | ['!'] => .error .unknownMarkup
  | '?' :: _ =>
    orFault .openInstruction (splitBracket? (fun before => before.head? = some '?') [] text)
  | _ => orFault .openTag (splitTag? none text)

/-- Markup by its kind. -/
inductive Piece where
  | opening (tag : Tag)
  | empty (tag : Tag)
  | closing (name : List Char)
  | data (content : List Char)
  | aside
deriving DecidableEq, Repr

/-- The name of a closing tag: blanks at its end do not count, unless there is
nothing else. -/
def closingName (content : List Char) : List Char :=
  if content.all isMarkupBlank then content
  else (content.reverse.dropWhile isMarkupBlank).reverse

/-- The kind of a content between brackets. -/
def ofContent (content : List Char) : Except Fault Piece :=
  match content with
  | '!' :: '[' :: _ =>
    match Text.dropOpening? "![CDATA[".toList content with
    | some inner => .ok (.data (inner.take (inner.length - 2)))
    | none => .error .openData
  | '!' :: '-' :: _ =>
    if (Text.dropOpening? "!--".toList content).isSome then .ok .aside else .error .openComment
  | '!' :: _ =>
    if Text.lower (content.take 8) = "!doctype".toList then
      if (content.drop 8).all isMarkupBlank then .error .namelessDoctype else .ok .aside
    else .error .openDoctype
  | ['?'] => .error .openInstruction
  | '?' :: _ => .ok .aside
  | '/' :: name => .ok (.closing (closingName name))
  | _ =>
    match Text.dropEnding? ['/'] content with
    | some inner => .ok (.empty (Tag.ofContent inner))
    | none => .ok (.opening (Tag.ofContent content))

/-- What follows a cut is shorter than the text. -/
theorem splitBracket?_length_lt (closes : List Char → Bool) (before text content after : List Char)
    (found : splitBracket? closes before text = some (content, after)) :
    after.length < text.length := by
  induction text generalizing before with
  | nil => simp [splitBracket?] at found
  | cons c rest inductionHypothesis =>
    simp only [splitBracket?] at found
    split at found
    · simp_all
    · exact Nat.lt_succ_of_lt (inductionHypothesis _ found)

/-- What follows a tag is shorter than the text. -/
theorem splitTag?_length_lt (quote : Option Char) (text content after : List Char)
    (found : splitTag? quote text = some (content, after)) : after.length < text.length := by
  induction text generalizing quote content with
  | nil => simp [splitTag?] at found
  | cons c rest inductionHypothesis =>
    simp only [splitTag?] at found
    split at found
    · simp_all
    · simp only [Option.map_eq_some_iff, Prod.mk.injEq] at found
      obtain ⟨⟨inner, tail⟩, split, _, rfl⟩ := found
      exact Nat.lt_succ_of_lt (inductionHypothesis _ inner split)

/-- What follows a document type is shorter than the text. -/
theorem splitNested?_length_lt (depth : Nat) (text content after : List Char)
    (found : splitNested? depth text = some (content, after)) : after.length < text.length := by
  induction text generalizing depth content with
  | nil => simp [splitNested?] at found
  | cons c rest inductionHypothesis =>
    simp only [splitNested?] at found
    split at found
    · simp_all
    · simp only [Option.map_eq_some_iff, Prod.mk.injEq] at found
      obtain ⟨⟨inner, tail⟩, split, _, rfl⟩ := found
      exact Nat.lt_succ_of_lt (inductionHypothesis _ inner split)

/-- A result without a fault was there. -/
theorem orFault_eq_ok {fault : Fault} {found : Option α} {value : α}
    (result : orFault fault found = .ok value) : found = some value := by
  cases found <;> simp_all [orFault]

/-- What follows markup is shorter than the text behind its opening bracket. -/
theorem splitMarkup_length_lt (text content after : List Char)
    (found : splitMarkup text = .ok (content, after)) : after.length < text.length := by
  unfold splitMarkup at found
  split at found
  · exact splitBracket?_length_lt _ _ _ _ _ (orFault_eq_ok found)
  · exact splitBracket?_length_lt _ _ _ _ _ (orFault_eq_ok found)
  · split at found
    · exact splitNested?_length_lt _ _ _ _ (orFault_eq_ok found)
    · simp at found
  · simp at found
  · exact splitBracket?_length_lt _ _ _ _ _ (orFault_eq_ok found)
  · exact splitTag?_length_lt _ _ _ _ (orFault_eq_ok found)

/-- The event of a kind of markup, and the names of the elements that are open after
it, the innermost first. -/
def Piece.event (opened : List (List Char)) : Piece → Event × List (List Char)
  | .opening tag => (.opening tag, tag.name.toList :: opened)
  | .empty tag => (.empty tag, opened)
  | .data content => (.text content, opened)
  | .aside => (.aside, opened)
  | .closing name =>
    match opened with
    | [] => (.fault (.unmatchedClosing (String.ofList name)), [])
    | expected :: outer =>
      if name = expected then (.closing, outer)
      else (.fault (.mismatchedClosing (String.ofList expected) (String.ofList name)), outer)

/-- An event that ends the reading of a document. -/
def Event.isLast : Event → Bool
  | .fault _ => true
  | .finish => true
  | _ => false

/-- The events of the rest of a document that begins at the given byte, within the
elements that are open. -/
def eventsFrom (offset : Nat) (opened : List (List Char)) (text : List Char) : List Spanned :=
  match text with
  | [] => [⟨.finish, offset, offset⟩]
  | c :: rest =>
    if c = '<' then
      match _found : splitMarkup rest with
      | .error fault => [⟨.fault fault, offset, offset + Text.byteLength (c :: rest)⟩]
      | .ok (content, after) =>
        let stop := offset + Text.byteLength content + 2
        match ofContent content with
        | .error fault => [⟨.fault fault, offset, stop⟩]
        | .ok piece =>
          let (event, stillOpen) := piece.event opened
          if event.isLast then [⟨event, offset, stop⟩]
          else ⟨event, offset, stop⟩ :: eventsFrom stop stillOpen after
    else
      let run := c :: rest.takeWhile (· ≠ '<')
      let stop := offset + Text.byteLength run
      ⟨.text run, offset, stop⟩ :: eventsFrom stop opened (rest.dropWhile (· ≠ '<'))
termination_by text.length
decreasing_by
  · exact Nat.lt_succ_of_lt (splitMarkup_length_lt rest content after _found)
  · exact Nat.lt_succ_of_le (List.dropWhile_suffix _).length_le

/-- The events of a document. A byte order mark at its start is skipped, and its bytes
are not counted. -/
def events (source : String) : List Spanned :=
  match source.toList with
  | '\uFEFF' :: text => eventsFrom 0 [] text
  | text => eventsFrom 0 [] text

end ThemeMotion.Markup
