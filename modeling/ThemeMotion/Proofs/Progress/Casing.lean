import ThemeMotion.Progress.Basic
import ThemeMotion.Proofs.Decimal.Numeral
import ThemeMotion.Proofs.Text.Casing

/-!
# Mode texts in either case

The names of modes are read in either case of their letters, and so are the numbers of a curve:
only its opening word is not. A text whose opening is written with a capital is no curve, so two
texts that differ in case alone are read alike unless the one opens a curve and the other does
not (`mode_case_exact`).
-/

namespace ThemeMotion

open Text (lower)

namespace Decimal

open Coerce (cutSign cutSign_plain)

/-- Digits are in lower case what they are. -/
theorem lower_digits {text : List Char} (digit : ∀ c ∈ text, c.isDigit = true) :
    lower text = text :=
  (List.map_congr_left fun c member => Text.toLower_digit (digit c member)).trans (List.map_id' _)

/-- A sign is cut off before or after a text is put in lower case. -/
theorem cutSign_lower (text : List Char) :
    cutSign (lower text) = ((cutSign text).1, lower (cutSign text).2) := by
  fun_cases cutSign text with
  | case1 rest => rfl
  | case2 rest => rfl
  | case3 text noMinus noPlus =>
    apply cutSign_plain
    · rintro rest same
      obtain ⟨c, text, rfl, mark, _⟩ := List.map_eq_cons_iff.mp same
      rw [Text.toLower_eq_mark_iff (by decide)] at mark
      exact noMinus text (by rw [mark])
    · rintro rest same
      obtain ⟨c, text, rfl, mark, _⟩ := List.map_eq_cons_iff.mp same
      rw [Text.toLower_eq_mark_iff (by decide)] at mark
      exact noPlus text (by rw [mark])

/-- A natural number is read in either case. -/
theorem natural?_lower (text : List Char) : natural? (lower text) = natural? text := by
  by_cases digit : ∀ c ∈ text, c.isDigit = true
  · rw [lower_digits digit]
  · have other : ¬ ∀ c ∈ lower text, c.isDigit = true := by
      intro digits
      refine digit fun c member => ?_
      rw [← Text.isDigit_toLower]
      exact digits c.toLower (List.mem_map_of_mem member)
    have unread {text : List Char} (other : ¬ ∀ c ∈ text, c.isDigit = true) :
        natural? text = none := by
      rw [Option.eq_none_iff_forall_ne_some]
      exact fun n read => other ((natural?_eq_some_iff text n).mp read).2.1
    rw [unread digit, unread other]

/-- An integer is read in either case. -/
theorem integer?_lower (text : List Char) : integer? (lower text) = integer? text := by
  rw [integer?_cut, integer?_cut, cutSign_lower, natural?_lower]

namespace Numeral

/-- The letter of an exponent is written in either case. -/
theorem exponent?_lower (text : List Char) : exponent? (lower text) = exponent? text := by
  cases text with
  | nil => rfl
  | cons c rest =>
    have either : (c.toLower = 'e' ∨ c.toLower = 'E') ↔ (c = 'e' ∨ c = 'E') := by
      have small : 'e'.toNat = 101 := rfl
      have capital : 'E'.toNat = 69 := rfl
      simp only [← Char.toNat_inj, small, capital]
      rcases Text.toLower_cases c with same | moved
      · rw [same]
      · omega
    rw [Text.lower_cons, exponent?, exponent?, integer?_lower]
    exact if_congr either rfl rfl

/-- The digits of a numeral and its exponent are read in either case. -/
theorem unsigned?_lower (negative : Bool) (text : List Char) :
    unsigned? negative (lower text) = unsigned? negative text := by
  obtain ⟨whole, behind, rfl, digit, stops⟩ := exists_digits text
  rw [Text.lower_append, lower_digits digit]
  by_cases pointed : ∃ rest, behind = '.' :: rest
  · obtain ⟨rest, rfl⟩ := pointed
    obtain ⟨fraction, tail, rfl, digitBehind, stopsBehind⟩ := exists_digits rest
    have kept : lower ('.' :: (fraction ++ tail)) = '.' :: (fraction ++ lower tail) := by
      rw [Text.lower_cons, Text.lower_append, lower_digits digitBehind]
      rfl
    have digits := List.forall_mem_append.mpr ⟨digit, digitBehind⟩
    have stopsLower : ∀ c ∈ (lower tail).head?, c.isDigit = false :=
      Text.lower_head (fun c => (Text.isDigit_toLower c).trans) stopsBehind
    rw [kept, unsigned?_point negative digits stopsBehind,
      unsigned?_point negative digits stopsLower, exponent?_lower]
  · have plain := plain_of_unpointed stops pointed
    have plainBehind : ∀ c ∈ (lower behind).head?, c.isDigit = false ∧ c ≠ '.' := by
      refine Text.lower_head ?_ plain
      intro c
      rw [Text.isDigit_toLower, ne_eq, ne_eq, Text.toLower_eq_mark_iff (by decide)]
      exact id
    rw [unsigned?_whole negative digit plain, unsigned?_whole negative digit plainBehind,
      exponent?_lower]

/-- A numeral is read in either case. -/
theorem parse?_lower (text : List Char) : parse? (lower text) = parse? text := by
  rw [parse?_cut, parse?_cut, cutSign_lower]
  unfold magnitude?
  rw [Text.lower_lower, unsigned?_lower]

end Numeral

/-- A single is read in either case. -/
theorem single?_lower (text : List Char) : single? (lower text) = single? text := by
  rw [single?, single?, Numeral.parse?_lower]

end Decimal

namespace NamedMode

/-- A name has the same letters in either case. -/
theorem letters_lower (text : List Char) : letters (lower text) = letters text := by
  have kept (c : Char) : (c.toLower != '-' && c.toLower != '_') = (c != '-' && c != '_') := by
    have hyphen : c.toLower = '-' ↔ c = '-' := Text.toLower_eq_mark_iff (by decide) c
    have underscore : c.toLower = '_' ↔ c = '_' := Text.toLower_eq_mark_iff (by decide) c
    rw [Bool.eq_iff_iff]
    simp only [Bool.and_eq_true, bne_iff_ne, ne_eq, hyphen, underscore]
  have filtered : (lower text).filter (fun c => c != '-' && c != '_') =
      lower (text.filter fun c => c != '-' && c != '_') := by
    rw [lower, List.filter_map]
    exact congrArg (fun keep => lower (text.filter keep)) (funext kept)
  rw [letters, filtered, Text.lower_lower]
  rfl

/-- A mode is named in either case. -/
theorem ofText?_lower (text : List Char) : ofText? (lower text) = ofText? text := by
  rw [ofText?, ofText?, letters_lower]

/-- A text with a parenthesis names no mode. -/
theorem ofText?_parenthesis {text : List Char} (member : '(' ∈ text) : ofText? text = none := by
  have plain : ∀ mode ∈ all, '(' ∉ letters mode.name.toList := by decide
  have present : '(' ∈ letters text :=
    List.mem_map_of_mem (f := Char.toLower) (List.mem_filter.mpr ⟨member, rfl⟩)
  rw [ofText?, List.find?_eq_none]
  intro mode among same
  exact plain mode among ((beq_iff_eq.mp same) ▸ present)

end NamedMode

namespace ProgressMode

/-- The control points of a curve are read in either case. -/
theorem points?_lower (text : List Char) : points? (lower text) = points? text := by
  have coordinate : (fun field => (Decimal.single? (Text.trim field)).filter isFiniteSingle) ∘
      lower = fun field => (Decimal.single? (Text.trim field)).filter isFiniteSingle := by
    funext field
    rw [Function.comp_apply, Text.trim_lower, Decimal.single?_lower]
  unfold points?
  rw [Text.fields_lower text (by decide), List.map_map, coordinate]

/-- The control points that a text gives between the opening word and a closing parenthesis. -/
def curve? (text : List Char) : Option ControlPoints :=
  Text.dropOpening? "cubic-bezier(".toList text >>= fun inner =>
    Text.dropEnding? [')'] inner >>= points?

/-- A curve is its points with the opening word and a closing parenthesis around them. -/
theorem curve?_eq_some_iff (text : List Char) (points : ControlPoints) :
    curve? text = some points ↔
      ∃ inner, text = "cubic-bezier(".toList ++ (inner ++ [')']) ∧ points? inner = some points := by
  simp only [curve?, Option.bind_eq_bind, Option.bind_eq_some_iff, Text.dropOpening?_eq_some_iff,
    Text.dropEnding?_eq_some_iff]
  constructor
  · rintro ⟨_, same, inner, rfl, read⟩
    exact ⟨inner, same, read⟩
  · rintro ⟨inner, same, read⟩
    exact ⟨_, same, inner, rfl, read⟩

section Parse

variable (text : String)

/-- A text is a name, or else a curve, between the blanks around it. -/
theorem parse?_eq : parse? text =
    match NamedMode.ofText? (Text.trim text.toList) with
    | some mode => some (.named mode)
    | none => (curve? (Text.trim text.toList)).map .cubicBezier := rfl

/-- A text is read as a named mode when it names one. -/
theorem parse?_named_iff (mode : NamedMode) :
    parse? text = some (.named mode) ↔
      NamedMode.ofText? (Text.trim text.toList) = some mode := by
  rw [parse?_eq]
  cases NamedMode.ofText? (Text.trim text.toList) <;> simp

/-- A text is read as a curve when it is one, and then it names no mode. -/
theorem parse?_curve_iff (points : ControlPoints) :
    parse? text = some (.cubicBezier points) ↔ curve? (Text.trim text.toList) = some points := by
  rw [parse?_eq]
  cases named : NamedMode.ofText? (Text.trim text.toList) with
  | none => simp
  | some mode =>
    refine iff_of_false (by simp) fun read => ?_
    obtain ⟨inner, same, _⟩ := (curve?_eq_some_iff _ points).mp read
    have parenthesis : '(' ∈ Text.trim text.toList := by
      rw [same]
      exact List.mem_append_left _ (by decide)
    rw [NamedMode.ofText?_parenthesis parenthesis] at named
    cases named

end Parse

/-- A text opens a curve when the opening word stands first in it, blanks ahead aside. -/
def OpensCurve (text : String) : Prop := "cubic-bezier(".toList <+: Text.trim text.toList

/-- What is read as a curve opens one. -/
theorem opensCurve_of_parse? {text : String} {points : ControlPoints}
    (read : parse? text = some (.cubicBezier points)) : OpensCurve text := by
  rw [parse?_curve_iff, curve?_eq_some_iff] at read
  obtain ⟨inner, same, _⟩ := read
  exact ⟨_, same.symm⟩

section Pair

variable {first second : String} (same : lower first.toList = lower second.toList)
include same

/-- Texts that differ in case alone do so between the blanks around them. -/
theorem trim_same : lower (Text.trim first.toList) = lower (Text.trim second.toList) := by
  rw [← Text.trim_lower, ← Text.trim_lower, same]

/-- Texts that differ in case alone name the same mode. -/
theorem ofText?_same : NamedMode.ofText? (Text.trim first.toList) =
    NamedMode.ofText? (Text.trim second.toList) := by
  rw [← NamedMode.ofText?_lower, trim_same same, NamedMode.ofText?_lower]

/-- Where the one text is read as a curve, the other is read as the same curve if it opens one.

Both have the opening word, so what follows it differs in case alone. The parenthesis at the end
has no case, and the coordinates before it are read in either. -/
theorem parse?_of_opensCurve {points : ControlPoints}
    (read : parse? first = some (.cubicBezier points)) (opens : OpensCurve second) :
    parse? second = some (.cubicBezier points) := by
  rw [parse?_curve_iff, curve?_eq_some_iff] at read ⊢
  obtain ⟨inner, firstText, found⟩ := read
  obtain ⟨rest, secondText⟩ := opens
  have trimmed := trim_same same
  rw [firstText, ← secondText, Text.lower_append, Text.lower_append, Text.lower_append,
    List.append_cancel_left_eq] at trimmed
  obtain ⟨others, ending, rfl, sameInner, closing⟩ := List.map_eq_append_iff.mp trimmed.symm
  obtain ⟨c, nothing, rfl, mark, empty⟩ := List.map_eq_cons_iff.mp closing
  obtain rfl := List.map_eq_nil_iff.mp empty
  obtain rfl : c = ')' := (Text.toLower_eq_mark_iff (by decide) c).mp mark
  refine ⟨others, secondText.symm, ?_⟩
  have sameCoordinates : lower others = lower inner := sameInner
  rw [← points?_lower, sameCoordinates, points?_lower, found]

end Pair

/-- A text in lower case. -/
def lowered (text : String) : String := String.ofList (lower text.toList)

/-- The characters of a lowered text are those of the text, in lower case. -/
theorem lowered_toList (text : String) : (lowered text).toList = lower text.toList :=
  String.toList_ofList

/-- A text is read as a curve exactly when it opens one and its text in lower case is read as
that curve. -/
theorem parse?_curve_lowered_iff (text : String) (points : ControlPoints) :
    parse? text = some (.cubicBezier points) ↔
      OpensCurve text ∧ parse? (lowered text) = some (.cubicBezier points) := by
  have alike : lower text.toList = lower (lowered text).toList := by
    rw [lowered_toList, Text.lower_lower]
  constructor
  · intro read
    have opens := opensCurve_of_parse? read
    have opensLowered : OpensCurve (lowered text) := by
      rw [OpensCurve, lowered_toList, Text.trim_lower]
      exact opens.map Char.toLower
    exact ⟨opens, parse?_of_opensCurve alike read opensLowered⟩
  · rintro ⟨opens, read⟩
    exact parse?_of_opensCurve alike.symm read opens

end ProgressMode

open ProgressMode in
/-- Texts that differ only in the case of ASCII letters are read alike, save for the word that
opens a curve. They name the same mode, or neither of them names one. Where one of them is read as
a curve, the other is read as the same curve if it opens one, with the word in lower case, and is
refused otherwise. So they are read differently exactly when their text in lower case is a curve
and only one of them opens it. -/
theorem mode_case_exact (first second : String)
    (same : Text.sameIgnoringCase first second = true) :
    (∀ mode, parse? first = some (.named mode) ↔ parse? second = some (.named mode)) ∧
    (∀ points, parse? first = some (.cubicBezier points) →
      (OpensCurve second → parse? second = some (.cubicBezier points)) ∧
      (¬ OpensCurve second → parse? second = none)) ∧
    (parse? first ≠ parse? second ↔
      (∃ points, parse? (lowered first) = some (.cubicBezier points)) ∧
        ¬ (OpensCurve first ↔ OpensCurve second)) := by
  have same : lower first.toList = lower second.toList := beq_iff_eq.mp same
  have sameLowered : lowered second = lowered first := congrArg String.ofList same.symm
  have named (mode : NamedMode) :
      parse? first = some (.named mode) ↔ parse? second = some (.named mode) := by
    rw [parse?_named_iff, parse?_named_iff, ofText?_same same]
  refine ⟨named, ?_, ?_⟩
  · intro points read
    refine ⟨parse?_of_opensCurve same read, fun closed => ?_⟩
    cases other : parse? second with
    | none => rfl
    | some mode =>
      cases mode with
      | named mode =>
        rw [(named mode).mpr other] at read
        cases read
      | cubicBezier points => exact absurd (opensCurve_of_parse? other) closed
  · constructor
    · intro different
      by_contra alike
      apply different
      apply Option.ext
      intro mode
      cases mode with
      | named mode => exact named mode
      | cubicBezier points =>
        rw [parse?_curve_lowered_iff first, parse?_curve_lowered_iff second, sameLowered]
        refine and_congr_left fun read => ?_
        by_contra apart
        exact alike ⟨⟨points, read⟩, apart⟩
    · rintro ⟨⟨points, read⟩, apart⟩ equal
      apply apart
      have both : parse? first = some (.cubicBezier points) ↔
          parse? second = some (.cubicBezier points) := by
        rw [equal]
      rwa [parse?_curve_lowered_iff first, parse?_curve_lowered_iff second, sameLowered,
        and_iff_left read, and_iff_left read] at both

/-- The name of a mode is read in capitals as it is without them. -/
example : ProgressMode.parse? "Ease-IN-Out" = some (.named (.plain .both)) ∧
    ProgressMode.parse? "ease-in-out" = some (.named (.plain .both)) := by
  decide +kernel

/-- The numbers of a curve are read with a capital in their exponent. -/
theorem mode_case_exponent :
    Text.sameIgnoringCase "cubic-bezier(4E-1, 0, 0.2, 1)" "cubic-bezier(4e-1, 0, 0.2, 1)" = true ∧
    (∃ points,
      ProgressMode.parse? "cubic-bezier(4E-1, 0, 0.2, 1)" = some (.cubicBezier points) ∧
      ProgressMode.parse? "cubic-bezier(4e-1, 0, 0.2, 1)" = some (.cubicBezier points)) := by
  have same : Text.sameIgnoringCase "cubic-bezier(4E-1, 0, 0.2, 1)"
      "cubic-bezier(4e-1, 0, 0.2, 1)" = true := by decide
  have read : ProgressMode.parse? "cubic-bezier(4E-1, 0, 0.2, 1)" =
      some (.cubicBezier ⟨0.4, 0, 0.2, 1⟩) := by decide +kernel
  have opens : ProgressMode.OpensCurve "cubic-bezier(4e-1, 0, 0.2, 1)" := by
    unfold ProgressMode.OpensCurve
    decide
  obtain ⟨_, curve, _⟩ := mode_case_exact _ _ same
  exact ⟨same, _, read, (curve _ read).1 opens⟩

/-- A curve whose opening word is written in capitals is refused, while the same text in lower case
is read. -/
theorem mode_case_capital_opening :
    Text.sameIgnoringCase "CUBIC-BEZIER(0.4, 0, 0.2, 1)" "cubic-bezier(0.4, 0, 0.2, 1)" = true ∧
    ProgressMode.parse? "CUBIC-BEZIER(0.4, 0, 0.2, 1)" = none ∧
    (ProgressMode.parse? "cubic-bezier(0.4, 0, 0.2, 1)").isSome = true := by
  decide +kernel

end ThemeMotion
