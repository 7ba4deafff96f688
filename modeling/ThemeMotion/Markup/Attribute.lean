import ThemeMotion.Markup.Reference

/-!
# Attributes of a tag

After its name a tag holds attributes: a key, an equals sign with blanks allowed
around it, and a value between quotes. Keys end at an equals sign or a blank and may
hold anything else. Attributes are read and their references replaced one after the
other, so the first fault in the order of the text decides.
-/

namespace ThemeMotion.Markup

/-- Space, tabulator, line feed and carriage return. -/
def isMarkupBlank (c : Char) : Bool := c == ' ' || c == '\t' || c == '\n' || c == '\r'

/-- An attribute with its references replaced. -/
structure Attribute where
  key : String
  value : String
deriving DecidableEq, Repr

/-- What is wrong with one of the attributes of a tag. -/
inductive AttributesFault where
  | malformed (fault : AttributeFault)
  | value (key : String) (fault : ValueFault)
deriving DecidableEq, Repr

/-- An attribute as it is written, with what follows it. -/
structure RawAttribute where
  key : List Char
  /-- The byte of the key's first character within the tag. -/
  position : Nat
  value : List Char
  rest : List Char

/-- The value after an equals sign. Positions are measured from the end of the tag,
whose content has the given size. -/
def rawValue (size : Nat) (text : List Char) : Except AttributeFault (List Char × List Char) :=
  match text.dropWhile isMarkupBlank with
  | [] => .error (.noValue size)
  | quote :: rest =>
    if quote = '"' ∨ quote = '\'' then
      match rest.dropWhile (· ≠ quote) with
      | [] => .error (.noClosingQuote size quote)
      | _ :: after => .ok (rest.takeWhile (· ≠ quote), after)
    else .error (.noOpeningQuote (size - Text.byteLength (quote :: rest)))

/-- The attribute that begins with a character, after earlier keys with their
positions. A repeated key is a fault before its value is looked at. -/
def rawAttribute (size : Nat) (earlier : List (List Char × Nat)) (first : Char)
    (rest : List Char) : Except AttributeFault RawAttribute :=
  let endsKey (c : Char) : Bool := c == '=' || isMarkupBlank c
  let key := first :: rest.takeWhile (! endsKey ·)
  let position := size - Text.byteLength (first :: rest)
  match (rest.dropWhile (! endsKey ·)).dropWhile isMarkupBlank with
  | [] => .error (.noEquals size)
  | c :: after =>
    if c = '=' then
      match earlier.lookup key with
      | some previous => .error (.duplicate position previous)
      | none =>
        match rawValue size after with
        | .ok (value, rest) => .ok ⟨key, position, value, rest⟩
        | .error fault => .error fault
    else .error (.noEquals (size - Text.byteLength (c :: after)))

/-- What follows a value is shorter than the text after the equals sign. -/
theorem rawValue_length_lt (size : Nat) (text value after : List Char)
    (found : rawValue size text = .ok (value, after)) : after.length < text.length := by
  have blanks := (List.dropWhile_suffix isMarkupBlank (l := text)).length_le
  unfold rawValue at found
  split at found
  · simp at found
  · next quote rest opened =>
    rw [opened, List.length_cons] at blanks
    split at found
    · have inner := (List.dropWhile_suffix (· ≠ quote) (l := rest)).length_le
      split at found
      · simp at found
      · next closing tail closed =>
        rw [closed, List.length_cons] at inner
        simp only [Except.ok.injEq, Prod.mk.injEq] at found
        obtain ⟨_, rfl⟩ := found
        omega
    · simp at found

/-- What follows an attribute is no longer than the text after its first character. -/
theorem rawAttribute_length_le (size : Nat) (earlier : List (List Char × Nat)) (first : Char)
    (rest : List Char) (raw : RawAttribute)
    (found : rawAttribute size earlier first rest = .ok raw) :
    raw.rest.length ≤ rest.length := by
  simp only [rawAttribute] at found
  have key := (List.dropWhile_suffix
    (fun c => ! (c == '=' || isMarkupBlank c)) (l := rest)).length_le
  have blanks := (List.dropWhile_suffix isMarkupBlank
    (l := rest.dropWhile (fun c => ! (c == '=' || isMarkupBlank c)))).length_le
  split at found
  · simp at found
  · next c after opened =>
    rw [opened, List.length_cons] at blanks
    split at found
    · split at found
      · simp at found
      · split at found
        · next value tail valued =>
          have shorter := rawValue_length_lt size after value tail valued
          simp only [Except.ok.injEq] at found
          subst found
          simp only
          omega
        · simp at found
    · simp at found

/-- The attributes in the rest of a tag whose content has the given size. -/
def attributesFrom (size : Nat) (earlier : List (List Char × Nat)) (text : List Char) :
    Except AttributesFault (List Attribute) :=
  match _opened : text.dropWhile isMarkupBlank with
  | [] => .ok []
  | first :: rest =>
    match _found : rawAttribute size earlier first rest with
    | .error fault => .error (.malformed fault)
    | .ok raw =>
      match unescape raw.value with
      | .error fault => .error (.value (String.ofList raw.key) fault)
      | .ok value =>
        (attributesFrom size ((raw.key, raw.position) :: earlier) raw.rest).map
          fun attributes => ⟨String.ofList raw.key, String.ofList value⟩ :: attributes
termination_by text.length
decreasing_by
  have blanks := (List.dropWhile_suffix isMarkupBlank (l := text)).length_le
  have shorter := rawAttribute_length_le size earlier first rest raw _found
  rw [_opened, List.length_cons] at blanks
  omega

/-- A tag's content between its angle brackets, without the slash that empties it:
a name up to the first blank, and attributes. -/
structure Tag where
  name : String
  content : List Char
deriving DecidableEq, Repr

namespace Tag

/-- The tag of a content. -/
def ofContent (content : List Char) : Tag :=
  ⟨String.ofList (content.takeWhile (! isMarkupBlank ·)), content⟩

/-- The attributes of a tag in the order of the text. -/
def attributes (tag : Tag) : Except AttributesFault (List Attribute) :=
  attributesFrom (Text.byteLength tag.content) [] (tag.content.dropWhile (! isMarkupBlank ·))

end Tag

end ThemeMotion.Markup
