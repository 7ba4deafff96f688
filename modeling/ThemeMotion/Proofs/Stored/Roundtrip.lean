import Mathlib.Data.List.Nodup
import ThemeMotion.Proofs.Stored.Record
import ThemeMotion.Stored.Data

/-!
# Stored data that read back

Values without floating-point numbers, timelines of named curves and origins are read back
from the texts under which they are stored. So different data have different texts, also
where one is a value and the other a timeline.
-/

namespace ThemeMotion

namespace Stored

open Json (ofMembers ofText Plain)

/-- The integers that some word of 64 bits denotes, signed or not. -/
def Held (n : Int) : Prop := -0x8000000000000000 ≤ n ∧ n ≤ 0xFFFFFFFFFFFFFFFF

/-- Every signed word of 64 bits is held. -/
theorem held_int64 (word : Int64) : Held word.toInt := by
  obtain ⟨lower, upper⟩ := (Word.exists_int64_iff word.toInt).mp ⟨word, rfl⟩
  exact ⟨lower, by omega⟩

/-- Every unsigned word of 64 bits is held. -/
theorem held_uint64 (word : UInt64) : Held word.toNat := by
  obtain ⟨lower, upper⟩ := (Word.exists_uint64_iff word.toNat).mp ⟨word, rfl⟩
  exact ⟨by omega, upper⟩

/-- Every signed word of 32 bits is held. -/
theorem held_int32 (word : Int32) : Held word.toInt := by
  have lower := word.le_toInt
  have upper := word.toInt_lt
  exact ⟨by omega, by omega⟩

/-- Every unsigned word of 32 bits is held. -/
theorem held_uint32 (word : UInt32) : Held word.toNat := by
  obtain ⟨lower, upper⟩ := (Word.exists_uint32_iff word.toNat).mp ⟨word, rfl⟩
  exact ⟨by omega, by omega⟩

/-- A number that a word holds is read back. -/
theorem whole?_ofWhole {n : Int} (held : Held n) : whole? (ofWhole n) = some n := by
  rw [whole?, ofWhole, number?, Json.number?_integer held.1 held.2]

/-- A number that a word holds is sound. -/
theorem isSound_ofWhole {n : Int} (held : Held n) (depth : Nat) :
    isSound depth (ofWhole n) = true := by
  rw [ofWhole, isSound, Json.number?_integer held.1 held.2]
  rfl

/-- A tagged record of plain fields is plain. -/
theorem plain_ofTagged (tag : String) {fields : List (String × Json)}
    (each : ∀ field ∈ fields, Plain field.2) : Plain (ofTagged tag fields) :=
  .members (List.forall_mem_cons.mpr ⟨.text tag, each⟩)

/-- A tagged record of sound fields is sound. -/
theorem isSound_ofTagged (tag : String) {fields : List (String × Json)} {depth : Nat}
    (each : ∀ field ∈ fields, isSound depth field.2 = true) :
    isSound (depth + 1) (ofTagged tag fields) = true :=
  isSound_ofMembers (List.forall_mem_cons.mpr ⟨isSound_ofText depth tag, each⟩)

end Stored

open Stored

namespace Value

open Json (ofMembers ofText Plain)

/-- No floating-point number occurs in the value. -/
def isDiscrete : Value → Bool
  | .float _ => false
  | .double _ => false
  | .color _ => false
  | _ => true

/-- The one field of a record is read back. -/
theorem only?_ofMembers (name : String) (json : Json) :
    only? name (ofMembers [(name, json)]) = some json := by
  have read : record? [name] (ofMembers [(name, json)]) = some [json] :=
    record?_zip [name] [json] (List.nodup_singleton name) rfl
  rw [only?, read]

/-- A word with the name of its type is read back. -/
theorem member?_ofMembers (typeName : String) {n : Int} (held : Held n) :
    member? (ofMembers [(typeField, ofText typeName), (valueField, ofWhole n)]) =
      some (typeName, n) := by
  have read : record? [typeField, valueField]
      (ofMembers [(typeField, ofText typeName), (valueField, ofWhole n)]) =
        some [ofText typeName, ofWhole n] :=
    record?_zip [typeField, valueField] [ofText typeName, ofWhole n] (by decide) rfl
  rw [member?, read]
  simp [text?, ofText, text?_letters, whole?_ofWhole held]

/-- A tagged record with sound fields is read as a value by its kind. -/
theorem ofJson?_ofTagged (tag : String) {fields : List (String × Json)}
    (sound : ∀ field ∈ fields, isSound (depthLimit - 1) field.2 = true)
    (untagged : tagKey ∉ fields.map Prod.fst) :
    ofJson? (ofTagged tag fields) = ofRecord? tag (ofMembers fields) := by
  have whole : isSound depthLimit (ofTagged tag fields) = true := isSound_ofTagged tag sound
  rw [ofJson?, if_pos whole, tagged?_ofTagged untagged]
  rfl

/-- A plain value is read by its kind. -/
theorem ofJson?_stored (tag : String) {json : Json} (sound : isSound (depthLimit - 1) json = true) :
    ofJson? (stored tag json) = ofRecord? tag (ofMembers [(valueField, json)]) :=
  ofJson?_ofTagged tag (by simpa using sound) (by decide : tagKey ∉ [valueField])

/-- A word with the name of its type is read by its kind. -/
theorem ofJson?_storedMember (tag typeName : String) {n : Int} (held : Held n) :
    ofJson? (storedMember tag typeName n) =
      ofRecord? tag (ofMembers [(typeField, ofText typeName), (valueField, ofWhole n)]) := by
  refine ofJson?_ofTagged tag ?_ (by decide : tagKey ∉ [typeField, valueField])
  simpa using ⟨isSound_ofText _ typeName, isSound_ofWhole held _⟩

/-- A discrete value is stored as plain data. -/
theorem plain_toJson {value : Value} (discrete : value.isDiscrete = true) :
    Plain value.toJson := by
  have single {tag : String} {json : Json} (plain : Plain json) : Plain (stored tag json) :=
    plain_ofTagged tag (by simpa using plain)
  have member {tag typeName : String} {n : Int} : Plain (storedMember tag typeName n) :=
    plain_ofTagged tag (by simpa using ⟨Plain.text typeName, Plain.whole n⟩)
  cases value with
  | bool value => exact single (.boolean value)
  | int value => exact single (.whole _)
  | uint value => exact single (.whole _)
  | float value => cases discrete
  | double value => cases discrete
  | string value => exact single (.text value)
  | color value => cases discrete
  | enumeration typeName value => exact member
  | flags typeName value => exact member

/-- A discrete value is read back from its stored form. -/
theorem ofJson?_toJson {value : Value} (discrete : value.isDiscrete = true) :
    ofJson? value.toJson = some value := by
  cases value with
  | bool value =>
    rw [toJson, ofJson?_stored "bool" rfl, ofRecord?, only?_ofMembers]
    rfl
  | int value =>
    have held := held_int64 value
    have word := (Word.int64?_eq_some value.toInt value).mpr rfl
    rw [toJson, ofJson?_stored "int" (isSound_ofWhole held _), ofRecord?, only?_ofMembers]
    simp [whole?_ofWhole held, word]
  | uint value =>
    have held := held_uint64 value
    have word := (Word.uint64?_eq_some value.toNat value).mpr rfl
    rw [toJson, ofJson?_stored "u_int" (isSound_ofWhole held _), ofRecord?, only?_ofMembers]
    simp [whole?_ofWhole held, word]
  | float value => cases discrete
  | double value => cases discrete
  | string value =>
    rw [toJson, ofJson?_stored "string" (isSound_ofText _ value), ofRecord?, only?_ofMembers]
    simp [text?, ofText, text?_letters]
  | color value => cases discrete
  | enumeration typeName value =>
    have held := held_int32 value
    have word := (Word.int32?_eq_some value.toInt value).mpr rfl
    rw [toJson, ofJson?_storedMember "enum" typeName held, ofRecord?,
      member?_ofMembers typeName held]
    simp [word]
  | flags typeName value =>
    have held := held_uint32 value
    have word := (Word.uint32?_eq_some value.toNat value).mpr rfl
    rw [toJson, ofJson?_storedMember "flags" typeName held, ofRecord?,
      member?_ofMembers typeName held]
    simp [word]

end Value

namespace ProgressMode

/-- Every named curve is listed. -/
theorem mem_all (mode : NamedMode) : mode ∈ NamedMode.all := by
  have directions : ∀ direction : Direction, direction ∈ Direction.all := by
    intro direction
    cases direction <;> decide
  have families : ∀ family : Family, family ∈ Family.all := by
    intro family
    cases family <;> decide
  cases mode <;> simp [NamedMode.all, directions, families]

/-- A named curve is stored as plain data. -/
theorem plain_toJson (mode : NamedMode) : Json.Plain (ProgressMode.named mode).toJson :=
  plain_ofTagged mode.tag (by simp)

/-- Named curves have different tags, none of which is the tag of free curves. -/
theorem named_tag (mode : NamedMode) :
    mode.tag ≠ freeTag ∧ NamedMode.all.find? (·.tag == mode.tag) = some mode := by
  have every : ∀ mode ∈ NamedMode.all, mode.tag ≠ freeTag ∧
      NamedMode.all.find? (·.tag == mode.tag) = some mode := by
    decide
  exact every mode (mem_all mode)

/-- A named curve is read back from its stored form. -/
theorem ofJson?_toJson (depth : Nat) (mode : NamedMode) :
    ofJson? (depth + 1) (ProgressMode.named mode).toJson = some (.named mode) := by
  obtain ⟨noFree, found⟩ := named_tag mode
  have sound : isSound (depth + 1) (ofTagged mode.tag []) = true :=
    isSound_ofTagged mode.tag (by simp)
  rw [toJson, ofJson?, if_pos sound, tagged?_ofTagged (by simp)]
  have read : ofRecord? mode.tag (Json.ofMembers []) = some (.named mode) := by
    rw [ofRecord?, if_neg noFree, found]
    rfl
  exact read

end ProgressMode

namespace Timeline

/-- A timeline of a named curve is stored as plain data. -/
theorem plain_toJson {timeline : Timeline} {mode : NamedMode}
    (named : timeline.mode = .named mode) : Json.Plain timeline.toJson := by
  have curve := ProgressMode.plain_toJson mode
  refine .members ?_
  rw [named]
  simpa [fieldNames] using ⟨Json.Plain.whole _, Json.Plain.whole _, curve, Json.Plain.whole _⟩

/-- A timeline of a named curve is read back from its stored form. -/
theorem ofJson?_toJson {timeline : Timeline} {mode : NamedMode}
    (named : timeline.mode = .named mode) : ofJson? timeline.toJson = some timeline := by
  obtain ⟨delay, duration, _, repetition⟩ := timeline
  subst named
  have fields : record? fieldNames (toJson ⟨delay, duration, .named mode, repetition⟩) =
      some [ofWhole delay.toNat, ofWhole duration.toNat, (ProgressMode.named mode).toJson,
        ofWhole repetition.toInt] :=
    record?_zip fieldNames _ (by decide) rfl
  have sound : hasSoundKeys (toJson ⟨delay, duration, .named mode, repetition⟩) = true :=
    hasSoundKeys_ofMembers _
  have delays := (Word.uint32?_eq_some delay.toNat delay).mpr rfl
  have durations := (Word.uint32?_eq_some duration.toNat duration).mpr rfl
  have curve : ProgressMode.ofJson? (depthLimit - 1) (ProgressMode.named mode).toJson =
      some (.named mode) := ProgressMode.ofJson?_toJson _ mode
  have repetitions := (Word.int32?_eq_some repetition.toInt repetition).mpr rfl
  rw [ofJson?, sound, fields]
  simp [whole?_ofWhole (held_uint32 _), whole?_ofWhole (held_int32 _), delays, durations, curve,
    repetitions]

end Timeline

namespace Origin

/-- An origin is read back from its stored form. -/
theorem ofJson?_toJson (origin : Origin) : ofJson? origin.toJson = some origin := by
  have word : parse? origin.display = some origin := by cases origin <;> rfl
  have read : ofJson? origin.toJson = (Json.text? (Json.letters origin.display) >>= parse?) := rfl
  rw [read, text?_letters]
  exact word

end Origin

/-- Something that is stored. -/
inductive Stored.Datum where
  | value (value : Value)
  | timeline (timeline : Timeline)
  | origin (origin : Origin)
deriving DecidableEq, Repr

namespace Stored.Datum

/-- The stored form. -/
def toJson : Datum → Json
  | .value stored => stored.toJson
  | .timeline stored => stored.toJson
  | .origin stored => stored.toJson

/-- No floating-point number occurs in what is stored. -/
def IsDiscrete : Datum → Prop
  | .value stored => stored.isDiscrete = true
  | .timeline stored => ∃ mode, stored.mode = .named mode
  | .origin _ => True

/-- Reads a stored form without being told what it stores. -/
def ofJson? (json : Json) : Option Datum :=
  (Value.ofJson? json).map .value <|> (Timeline.ofJson? json).map .timeline <|>
    (Origin.ofJson? json).map .origin

/-- Discrete data are stored as plain data. -/
theorem plain_toJson {datum : Datum} (discrete : datum.IsDiscrete) :
    Json.Plain datum.toJson := by
  cases datum with
  | value stored => exact Value.plain_toJson discrete
  | timeline stored =>
    obtain ⟨mode, named⟩ := discrete
    exact Timeline.plain_toJson named
  | origin stored => exact .text stored.display

/-- What has no kind is no value. -/
theorem value_none {json : Json} (untagged : tagged? json = none) :
    Value.ofJson? json = none := by
  simp [Value.ofJson?, untagged]

/-- Discrete data are read back from their stored form, which tells what they are. -/
theorem ofJson?_toJson {datum : Datum} (discrete : datum.IsDiscrete) :
    ofJson? datum.toJson = some datum := by
  cases datum with
  | value stored =>
    have read := Value.ofJson?_toJson discrete
    simp [ofJson?, toJson, read]
  | timeline stored =>
    obtain ⟨mode, named⟩ := discrete
    have read := Timeline.ofJson?_toJson named
    have noValue : Value.ofJson? stored.toJson = none :=
      value_none (tagged?_ofMembers (by decide : tagKey ∉ Timeline.fieldNames))
    simp [ofJson?, toJson, read, noValue]
  | origin stored =>
    have read := Origin.ofJson?_toJson stored
    have noValue : Value.ofJson? stored.toJson = none := value_none rfl
    have noTimeline : Timeline.ofJson? stored.toJson = none := rfl
    simp [ofJson?, toJson, read, noValue, noTimeline]

/-- Different discrete data have different texts. -/
theorem eq_of_render_eq {first second : Datum} (one : first.IsDiscrete)
    (other : second.IsDiscrete) (same : first.toJson.render = second.toJson.render) :
    first = second := by
  have read {datum : Datum} (discrete : datum.IsDiscrete) :
      Json.parse? datum.toJson.render >>= ofJson? = some datum := by
    rw [Json.parse?_render (plain_toJson discrete)]
    exact ofJson?_toJson discrete
  have forms := read one
  rw [same, read other] at forms
  exact (Option.some.inj forms).symm

end Stored.Datum

/-- Values without floating-point numbers, timelines of named curves and origins are read back
from the texts under which they are stored, and no two of them have the same text. -/
theorem stored_read_back :
    (∀ value : Value, value.isDiscrete = true →
      Json.parse? value.toJson.render >>= Value.ofJson? = some value) ∧
    (∀ (timeline : Timeline) (mode : NamedMode), timeline.mode = .named mode →
      Json.parse? timeline.toJson.render >>= Timeline.ofJson? = some timeline) ∧
    (∀ origin : Origin,
      Json.parse? origin.toJson.render >>= Origin.ofJson? = some origin) ∧
    ∀ first second : Datum, first.IsDiscrete → second.IsDiscrete →
      first.toJson.render = second.toJson.render → first = second := by
  refine ⟨?_, ?_, ?_, fun _ _ => Datum.eq_of_render_eq⟩
  · intro value discrete
    rw [Json.parse?_render (Value.plain_toJson discrete)]
    exact Value.ofJson?_toJson discrete
  · intro timeline mode named
    rw [Json.parse?_render (Timeline.plain_toJson named)]
    exact Timeline.ofJson?_toJson named
  · intro origin
    have read : Json.parse? origin.toJson.render = some origin.toJson :=
      Json.parse?_render (.text origin.display)
    rw [read]
    exact Origin.ofJson?_toJson origin

/-- Quotes, control characters and characters beyond the first plane survive, and so do the
ends of the words. The same number is stored differently in words of different signs. -/
theorem stored_escapes_and_ends :
    (Value.enumeration "type\"\\\x01😀" (-2147483648)).toJson.render =
      "\x7b\"type\":\"enum\",\"type_name\":\"type\\\"\\\\\\u0001😀\",\"value\":-2147483648\x7d" ∧
    Json.parse? (Value.enumeration "type\"\\\x01😀" (-2147483648)).toJson.render >>=
      Value.ofJson? = some (.enumeration "type\"\\\x01😀" (-2147483648)) ∧
    Json.parse? (Value.int (-9223372036854775808)).toJson.render >>= Value.ofJson? =
      some (.int (-9223372036854775808)) ∧
    Json.parse? (Value.uint 18446744073709551615).toJson.render >>= Value.ofJson? =
      some (.uint 18446744073709551615) ∧
    Json.parse? (Timeline.mk 0 4294967295 (.named (.eased .both .bounce)) (-1)).toJson.render >>=
      Timeline.ofJson? = some ⟨0, 4294967295, .named (.eased .both .bounce), -1⟩ ∧
    (Value.int 1).toJson.render ≠ (Value.uint 1).toJson.render := by
  obtain ⟨values, timelines, _, apart⟩ := stored_read_back
  refine ⟨by decide +kernel, values _ rfl, values _ rfl, values _ rfl, timelines _ _ rfl, ?_⟩
  intro same
  cases apart (.value (.int 1)) (.value (.uint 1)) rfl rfl same

end ThemeMotion
