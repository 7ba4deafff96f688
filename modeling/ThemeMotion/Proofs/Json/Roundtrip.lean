import ThemeMotion.Json.Reader
import ThemeMotion.Json.Writer
import ThemeMotion.Proofs.Json.Number
import ThemeMotion.Proofs.Json.Quoted

/-!
# Data that read back

Data made of truth values, whole numbers and texts are read back from their writing. What a
reader takes is a writing in front of a text; a list of such writings is taken by induction
on its items, and a whole tree by induction on the depth down to which it is read.
-/

namespace ThemeMotion.Json

/-- Data without fractions, exponents and halves of characters. -/
inductive Plain : Json → Prop where
  | null : Plain .null
  | boolean (value : Bool) : Plain (.boolean value)
  | whole (n : Int) : Plain (.number (Decimal.integer n).toList)
  | text (text : String) : Plain (ofText text)
  | array {items : List Json} (each : ∀ item ∈ items, Plain item) : Plain (.array items)
  | members {members : List (String × Json)} (each : ∀ member ∈ members, Plain member.2) :
    Plain (ofMembers members)

/-- The writing of a member. -/
def writeMember (member : List Letter × Json) : List Char :=
  quote member.1 ++ ':' :: write member.2

/-- Members with the letters of their keys. -/
def lettered (members : List (String × Json)) : List (List Letter × Json) :=
  members.map fun member => (letters member.1, member.2)

/-- Items are written one by one. -/
theorem writeItems_eq (items : List Json) : writeItems items = items.map write := by
  induction items with
  | nil => rw [writeItems, List.map_nil]
  | cons item rest inductionHypothesis => rw [writeItems, inductionHypothesis, List.map_cons]

/-- Members are written one by one. -/
theorem writeMembers_eq (members : List (List Letter × Json)) :
    writeMembers members = members.map writeMember := by
  induction members with
  | nil => rw [writeMembers, List.map_nil]
  | cons member rest inductionHypothesis =>
    rw [writeMembers, inductionHypothesis, List.map_cons, writeMember]

/-- An array is its items between brackets. -/
theorem write_array (items : List Json) :
    write (.array items) = '[' :: (commaSeparated (items.map write) ++ [']']) := by
  rw [write, writeItems_eq]

/-- An object is its members between braces. -/
theorem write_ofMembers (members : List (String × Json)) :
    write (ofMembers members) =
      '\x7b' :: (commaSeparated ((lettered members).map writeMember) ++ ['\x7d']) := by
  rw [ofMembers, write, writeMembers_eq, lettered]

/-- No item of a list is longer than the list. -/
theorem length_le_commaSeparated {item : List Char} {items : List (List Char)}
    (member : item ∈ items) : item.length ≤ (commaSeparated items).length := by
  fun_induction commaSeparated items with
  | case1 => cases member
  | case2 last =>
    obtain rfl := List.mem_singleton.mp member
    exact Nat.le_refl _
  | case3 first rest _ inductionHypothesis =>
    rw [List.length_append, List.length_cons]
    rcases List.mem_cons.mp member with rfl | later
    · omega
    · have shorter := inductionHypothesis later
      omega

/-- A list begins with its first item. -/
theorem commaSeparated_front (first : List Char) (others : List (List Char)) :
    ∃ behind, commaSeparated (first :: others) = first ++ behind := by
  cases others with
  | nil => exact ⟨[], (List.append_nil first).symm⟩
  | cons second others => exact ⟨',' :: commaSeparated (second :: others), rfl⟩

/-- Nothing is skipped ahead of what is no blank. -/
theorem skipGap_solid {c : Char} (solid : isGap c = false) (rest : List Char) :
    skipGap (c :: rest) = c :: rest :=
  List.dropWhile_cons_of_neg (by simp [solid])

/-- A text begins with something other than a blank, and it closes no list. -/
def Begins (text : List Char) : Prop :=
  ∃ c rest, text = c :: rest ∧ isGap c = false ∧ c ≠ ']' ∧ c ≠ '\x7d'

/-- A sign and a digit are none of the characters that are neither. -/
theorem not_mem_of_sign {c : Char} (sign : c = '-' ∨ c.isDigit = true) {others : List Char}
    (other : others.all fun c => c != '-' && !c.isDigit) : c ∉ others := by
  intro member
  have neither := List.all_eq_true.mp other c member
  rcases sign with rfl | digit
  · simp at neither
  · simp [digit] at neither

/-- Whole numbers begin with something. -/
theorem begins_of_integer (n : Int) : Begins (Decimal.integer n).toList := by
  obtain ⟨c, rest, front, sign⟩ := integer_begins n
  have other : c ∉ [' ', '\n', '\t', '\r', ']', '\x7d'] := not_mem_of_sign sign (by decide)
  exact ⟨c, rest, front, by simpa [isGap, and_assoc] using other⟩

/-- Written data begin with something. -/
theorem Plain.begins {json : Json} (plain : Plain json) : Begins (write json) := by
  cases plain with
  | null => exact ⟨'n', "ull".toList, by decide⟩
  | boolean value =>
    cases value with
    | true => exact ⟨'t', "rue".toList, by decide⟩
    | false => exact ⟨'f', "alse".toList, by decide⟩
  | whole n =>
    rw [write]
    exact begins_of_integer n
  | text text =>
    rw [ofText, write]
    exact ⟨'"', _, rfl, by decide⟩
  | array _ =>
    rw [write_array]
    exact ⟨'[', _, rfl, by decide⟩
  | members _ =>
    rw [write_ofMembers]
    exact ⟨'\x7b', _, rfl, by decide⟩

/-- An item is read back from its writing, up to where a number would end. -/
def ReadsBack {α : Type} (read : Reader α) (written : α → List Char) (item : α) : Prop :=
  ∀ rest, EndsNumber rest → read (written item ++ rest) = some (item, rest)

section Lists

variable {α : Type} {read : Reader α} {written : α → List Char} {closing : Char}

/-- An item with a comma behind it is followed by the others. -/
theorem itemsUntil_comma (noComma : closing ≠ ',') {item : α} {text : List Char}
    (front : read (written item ++ ',' :: text) = some (item, ',' :: text)) :
    itemsUntil closing read (written item ++ ',' :: text) =
      (itemsUntil closing read text).map fun found => (item :: found.1, found.2) := by
  have shorter : text.length < (written item ++ ',' :: text).length := by
    rw [List.length_append, List.length_cons]
    omega
  rw [itemsUntil, front]
  simp only [skipGap_solid (by decide : isGap ',' = false), if_neg (Ne.symm noComma), if_true,
    dif_pos shorter]

/-- An item with the closing bracket behind it is the last. -/
theorem itemsUntil_closing (closes : isGap closing = false) {item : α} {rest : List Char}
    (front : read (written item ++ closing :: rest) = some (item, closing :: rest)) :
    itemsUntil closing read (written item ++ closing :: rest) = some ([item], rest) := by
  rw [itemsUntil, front]
  simp only [skipGap_solid closes, if_true]

/-- The brackets that close lists are neither blanks nor commas and end a number. -/
theorem closing_spec (bracket : closing = ']' ∨ closing = '\x7d') :
    isGap closing = false ∧ closing ≠ ',' ∧ ∀ rest, EndsNumber (closing :: rest) := by
  rcases bracket with rfl | rfl <;>
    exact ⟨by decide, by decide, endsNumber_cons (by decide)⟩

/-- Items that are read back one by one are read back as a list. -/
theorem itemsUntil_written (bracket : closing = ']' ∨ closing = '\x7d') {items : List α}
    (nonempty : items ≠ []) (each : ∀ item ∈ items, ReadsBack read written item)
    (rest : List Char) :
    itemsUntil closing read (commaSeparated (items.map written) ++ closing :: rest) =
      some (items, rest) := by
  obtain ⟨noGap, noComma, ends⟩ := closing_spec bracket
  induction items with
  | nil => exact absurd rfl nonempty
  | cons item others inductionHypothesis =>
    have first := each item List.mem_cons_self
    cases others with
    | nil => exact itemsUntil_closing noGap (first _ (ends rest))
    | cons second others =>
      have behind := inductionHypothesis (List.cons_ne_nil _ _) fun item member =>
        each item (List.mem_cons_of_mem _ member)
      have text : commaSeparated ((item :: second :: others).map written) ++ closing :: rest =
          written item ++ ',' ::
            (commaSeparated ((second :: others).map written) ++ closing :: rest) :=
        List.append_assoc ..
      rw [text, itemsUntil_comma noComma (first _ (endsNumber_cons (by decide) _)), behind]
      rfl

/-- A list is read back when its items are, and none of them begins like a blank or a closing
bracket. -/
theorem listUntil_written (bracket : closing = ']' ∨ closing = '\x7d') {items : List α}
    (started : ∀ item ∈ items, Begins (written item))
    (each : ∀ item ∈ items, ReadsBack read written item) (rest : List Char) :
    listUntil closing read (commaSeparated (items.map written) ++ closing :: rest) =
      some (items, rest) := by
  obtain ⟨noGap, _, _⟩ := closing_spec bracket
  cases items with
  | nil =>
    simp only [listUntil, List.map_nil, commaSeparated, List.nil_append, skipGap_solid noGap,
      if_true]
  | cons item others =>
    have whole := itemsUntil_written bracket (List.cons_ne_nil item others) each rest
    obtain ⟨c, tail, front, solid, noBracket⟩ := started item List.mem_cons_self
    obtain ⟨behind, text⟩ := commaSeparated_front (written item) (others.map written)
    have other : c ≠ closing := by
      rcases bracket with rfl | rfl
      · exact noBracket.1
      · exact noBracket.2
    rw [List.map_cons, text, front] at whole ⊢
    simpa only [listUntil, List.cons_append, skipGap_solid solid, if_neg other] using whole

end Lists

/-- A member is read back when its value is. -/
theorem memberOf_written {value : Reader Json} {json : Json}
    (reads : ReadsBack value write json) (key : String) :
    ReadsBack (memberOf value) writeMember (letters key, json) := by
  intro rest ends
  have text : writeMember (letters key, json) ++ rest =
      '"' :: ((letters key).flatMap writeLetter ++ '"' :: ':' :: (write json ++ rest)) := by
    simp [writeMember, quote]
  have keyed := unquote?_letters key (':' :: (write json ++ rest))
  rw [text]
  simp [memberOf, skipGap_solid (by decide : isGap '"' = false),
    skipGap_solid (by decide : isGap ':' = false), keyed, reads rest ends]

/-- A sign or a digit begins a number, since all else asks for another character in front. -/
theorem valueWithin_number (depth : Nat) {c : Char} (sign : c = '-' ∨ c.isDigit = true)
    (text : List Char) :
    valueWithin (depth + 1) (c :: text) =
      (lexeme? (c :: text)).map fun found => (.number found.1, found.2) := by
  have begins : c ∉ ['n', 't', 'f', '"', '[', '\x7b'] := not_mem_of_sign sign (by decide)
  have solid : isGap c = false := by
    have blanks : c ∉ [' ', '\n', '\t', '\r'] := not_mem_of_sign sign (by decide)
    simpa [isGap, and_assoc] using blanks
  rw [valueWithin, skipGap_solid solid]
  split
  case h_7 => rfl
  all_goals
    next front =>
      obtain ⟨rfl, _⟩ := List.cons.inj front
      exact absurd (by decide) begins

section Values

variable (depth : Nat)

/-- A whole number is read back. -/
theorem readsBack_whole (n : Int) :
    ReadsBack (valueWithin (depth + 1)) write (.number (Decimal.integer n).toList) := by
  intro rest ends
  have read := lexeme?_integer n ends
  obtain ⟨c, tail, front, sign⟩ := integer_begins n
  rw [write]
  rw [front, List.cons_append] at read ⊢
  rw [valueWithin_number depth sign, read]
  rfl

/-- A text is read back. -/
theorem readsBack_text (text : String) :
    ReadsBack (valueWithin (depth + 1)) write (ofText text) := by
  intro rest _
  have quoted : write (ofText text) ++ rest =
      '"' :: ((letters text).flatMap writeLetter ++ '"' :: rest) := by
    simp [ofText, write, quote]
  calc valueWithin (depth + 1) (write (ofText text) ++ rest)
      = (unquote? ((letters text).flatMap writeLetter ++ '"' :: rest)).map
          fun found => (.string found.1, found.2) := by rw [quoted]; rfl
    _ = some (ofText text, rest) := by rw [unquote?_letters]; rfl

variable {depth}

/-- An array is read back when its items are. -/
theorem readsBack_array {items : List Json} (started : ∀ item ∈ items, Begins (write item))
    (each : ∀ item ∈ items, ReadsBack (valueWithin depth) write item) :
    ReadsBack (valueWithin (depth + 1)) write (.array items) := by
  intro rest _
  have bracketed : write (.array items) ++ rest =
      '[' :: (commaSeparated (items.map write) ++ ']' :: rest) := by
    simp [write_array]
  calc valueWithin (depth + 1) (write (.array items) ++ rest)
      = (listUntil ']' (valueWithin depth) (commaSeparated (items.map write) ++ ']' :: rest)).map
          fun found => (.array found.1, found.2) := by rw [bracketed]; rfl
    _ = some (.array items, rest) := by
      rw [listUntil_written (.inl rfl) started each]
      rfl

/-- An object is read back when the values of its members are. -/
theorem readsBack_members {members : List (String × Json)}
    (each : ∀ member ∈ members, ReadsBack (valueWithin depth) write member.2) :
    ReadsBack (valueWithin (depth + 1)) write (ofMembers members) := by
  intro rest _
  have braced : write (ofMembers members) ++ rest =
      '\x7b' :: (commaSeparated ((lettered members).map writeMember) ++ '\x7d' :: rest) := by
    simp [write_ofMembers]
  have quoted : ∀ member ∈ lettered members, Begins (writeMember member) := fun member _ =>
    ⟨'"', _, rfl, by decide⟩
  have keyed : ∀ member ∈ lettered members,
      ReadsBack (memberOf (valueWithin depth)) writeMember member := by
    intro member among
    obtain ⟨⟨key, value⟩, given, rfl⟩ := List.mem_map.mp among
    exact memberOf_written (each (key, value) given) key
  calc valueWithin (depth + 1) (write (ofMembers members) ++ rest)
      = (listUntil '\x7d' (memberOf (valueWithin depth))
          (commaSeparated ((lettered members).map writeMember) ++ '\x7d' :: rest)).map
            fun found => (.object found.1, found.2) := by rw [braced]; rfl
    _ = some (ofMembers members, rest) := by
      rw [listUntil_written (.inr rfl) quoted keyed]
      rfl

end Values

/-- The items of a written array are shorter than it. -/
theorem length_item_lt {items : List Json} {item : Json} (member : item ∈ items) :
    (write item).length < (write (.array items)).length := by
  have shorter := length_le_commaSeparated (List.mem_map_of_mem (f := write) member)
  rw [write_array, List.length_cons, List.length_append]
  omega

/-- The values of a written object are shorter than it. -/
theorem length_value_lt {members : List (String × Json)} {member : String × Json}
    (among : member ∈ members) :
    (write member.2).length < (write (ofMembers members)).length := by
  have keyed : (letters member.1, member.2) ∈ lettered members :=
    List.mem_map.mpr ⟨member, among, rfl⟩
  have shorter := length_le_commaSeparated (List.mem_map_of_mem (f := writeMember) keyed)
  simp only [writeMember, List.length_append, List.length_cons] at shorter
  rw [write_ofMembers, List.length_cons, List.length_append]
  omega

/-- Plain data are read back from their writing at every depth that it is no longer than.

Induction on the depth: what an array or an object holds is written shorter than the whole. -/
theorem valueWithin_write {json : Json} (plain : Plain json) {depth : Nat}
    (deep : (write json).length ≤ depth) : ReadsBack (valueWithin depth) write json := by
  induction depth generalizing json with
  | zero =>
    obtain ⟨c, tail, front, _⟩ := plain.begins
    rw [front] at deep
    cases deep
  | succ depth inductionHypothesis =>
    cases plain with
    | null => exact fun _ _ => rfl
    | boolean value => cases value <;> exact fun _ _ => rfl
    | whole n => exact readsBack_whole depth n
    | text text => exact readsBack_text depth text
    | array each =>
      refine readsBack_array (fun item among => (each item among).begins) fun item among => ?_
      have shorter := length_item_lt among
      exact inductionHypothesis (each item among) (by omega)
    | members each =>
      refine readsBack_members fun member among => ?_
      have shorter := length_value_lt among
      exact inductionHypothesis (each member among) (by omega)

/-- Plain data are read back from their text. -/
theorem parse?_render {json : Json} (plain : Plain json) : parse? json.render = some json := by
  have read := valueWithin_write plain (Nat.le_succ _) [] endsNumber_nil
  unfold parse? render
  rw [List.append_nil] at read
  rw [String.toList_ofList, read]
  rfl

/-- A newline is written with an escape, and what is read from the text is written alike. -/
example : (array [.number ['-', '7'], ofText "a\nb"]).render = "[-7,\"a\\nb\"]" ∧
    (parse? "[-7,\"a\\nb\"]").map render = some "[-7,\"a\\nb\"]" := by
  decide +kernel

end ThemeMotion.Json
