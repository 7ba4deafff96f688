import ThemeMotion.Proofs.Animation.Influence
import ThemeMotion.Proofs.Ranking
import ThemeMotion.Proofs.Selector.Ranks

/-!
# Where the values of a move come from

A move takes its start from the first of three sources that has one to give: the text of the
element, the host's defaults, and the actor. Its end comes from the first two alone and may
stay open. A source that has nothing to give, or nothing that the property's type takes,
gives way to the next one.

The defaults speak with one voice. The best entry for the property is chosen before its
value is looked at, so a best entry of the wrong type silences all others of its list. How
texts are read and how values are converted is not described.
-/

namespace ThemeMotion

variable {Node : Type}

namespace Selector

variable {selector : Selector} {tree : StyleTree Node} {actor : Node}

/-- No score that fits a word is zero. -/
theorem score_ne_zero (fits : selector.Fits tree actor) : selector.score tree actor ≠ 0 := by
  cases found : selector.specificity? tree actor with
  | none =>
    rw [selector.score_missing tree actor found]
    decide
  | some specificity =>
    have matched : selector.isMatch tree actor = true :=
      (isMatch_iff tree actor fits).mpr (by rw [found]; rfl)
    have positive : 0 < selector.score tree actor := of_decide_eq_true matched
    exact fun zero => Std.lt_irrefl (zero ▸ positive)

end Selector

namespace DefaultValue

variable [DecidableEq Node] {entry : DefaultValue} (tree : StyleTree Node) (sender actor : Node)

/-- An entry without a selector competes at the sender alone. -/
theorem rank?_plain (plain : entry.selector = none) :
    entry.rank? tree sender actor = if actor = sender then some 0 else none := by
  unfold rank?
  rw [plain]
  rfl

variable {selector : Selector} (selecting : entry.selector = some selector)
include selecting

/-- An entry with a selector competes with the score of the selector, unless this is below
zero. -/
theorem rank?_selecting : entry.rank? tree sender actor =
    if selector.score tree actor < 0 then none else some (selector.score tree actor) := by
  unfold rank?
  rw [selecting]

/-- An entry whose selector matches competes with the score of the selector, above all
entries without a selector. -/
theorem rank?_matching (matched : selector.isMatch tree actor = true) :
    entry.rank? tree sender actor = some (selector.score tree actor) ∧
      0 < selector.score tree actor := by
  have positive : 0 < selector.score tree actor := of_decide_eq_true matched
  rw [rank?_selecting tree sender actor selecting]
  exact ⟨if_neg (Std.not_lt.mpr (Std.le_of_lt positive)), positive⟩

/-- An entry whose selector does not match does not compete, unless its score has come to
zero. -/
theorem rank?_missing (missed : selector.isMatch tree actor = false) :
    entry.rank? tree sender actor =
      if selector.score tree actor = 0 then some 0 else none := by
  have notPositive : ¬ 0 < selector.score tree actor := of_decide_eq_false missed
  rw [rank?_selecting tree sender actor selecting]
  by_cases zero : selector.score tree actor = 0
  · rw [zero]
    rfl
  · have negative : selector.score tree actor < 0 := by grind
    rw [if_pos negative, if_neg zero]

end DefaultValue

namespace Slot

variable (slot : Slot Node)

/-- The value of a text, if there is one that the type admits. -/
def written? (text : Option String) : Option Value :=
  text.bind fun text => (coerce text slot.type).toOption

/-- The value of the best entry, if there is one whose value the type takes. -/
def offered? (best : Option (DefaultValue × Int32)) : Option Value :=
  best.bind fun leader => leader.1.value.transform? slot.type

/-- A text gives the value that it is read as. -/
theorem explicit?_value (text : Option String) :
    (slot.explicit? text).value = slot.written? text := by
  unfold explicit? written?
  cases text with
  | none => rfl
  | some text =>
    dsimp only [Option.bind_some]
    cases coerce text slot.type <;> rfl

variable [DecidableEq Node] (tree : ActorTree Node) (sender : Node)

/-- The best of the entries for the property, with its rank. -/
def leader? (defaults : List DefaultValue) : Option (DefaultValue × Int32) :=
  bestBy? (·.rank? tree.toStyleTree sender slot.actor) (entriesFor slot.property defaults)

/-- A list of defaults gives what its best entry offers. -/
theorem default?_value (defaults : List DefaultValue) :
    (slot.default? tree sender defaults).value =
      slot.offered? (slot.leader? tree sender defaults) := by
  have best : slot.bestDefault? tree sender defaults =
      (slot.leader? tree sender defaults).map Prod.fst := rfl
  unfold default? offered?
  rw [best]
  cases slot.leader? tree sender defaults with
  | none => rfl
  | some leader =>
    dsimp only [Option.bind_some, Option.map_some]
    cases leader.1.value.transform? slot.type <;> rfl

/-- A text comes before the defaults. -/
theorem given?_value (text : Option String) (defaults : List DefaultValue) :
    (slot.given? tree sender text defaults).value =
      (slot.written? text).or (slot.offered? (slot.leader? tree sender defaults)) := by
  unfold given?
  rw [Trace.Noted.value_bind, explicit?_value, ← default?_value]
  cases slot.written? text <;> rfl

/-- A text and the defaults come before the value of the actor. -/
theorem start?_value (text : Option String) (defaults : List DefaultValue) :
    (slot.start? tree sender text defaults).value =
      ((slot.written? text).or (slot.offered? (slot.leader? tree sender defaults))).or
        (slot.live? tree) := by
  unfold start?
  rw [Trace.Noted.value_bind, given?_value]
  cases (slot.written? text).or (slot.offered? (slot.leader? tree sender defaults)) <;> rfl

end Slot

variable [DecidableEq Node]

/-- An element gives a transition at an actor exactly where the actor has the property and
there is a start. The start is the value of the element's text; without one that the type
admits, it is the value of the best entry for the property in the list for starts; without
one that the type takes, it is the value of the actor. The end is the value of the text or
of the best entry in the list for ends, and else stays open. No other entry of a list has a
part in it.

The best entry is the first of the highest rank among those that compete. An entry without a
selector competes at the sender only, with rank zero. One with a selector competes where the
selector matches, with its score, which is above zero. A selector that does not match keeps
its entry out, but for a score of zero, to which only sums come that do not fit a word. -/
theorem PropertyTarget.precedence_exact (property : PropertyTarget) (tree : ActorTree Node)
    (sender actor : Node) (timeline : Timeline) (defaults : Defaults) :
    let style := tree.toStyleTree
    let rank? := fun entry : DefaultValue => entry.rank? style sender actor
    (∀ entry, entry.selector = none → rank? entry = if actor = sender then some 0 else none) ∧
    (∀ entry selector, entry.selector = some selector →
      (selector.isMatch style actor = true →
        rank? entry = some (selector.score style actor) ∧ 0 < selector.score style actor) ∧
      (selector.isMatch style actor = false →
        rank? entry = if selector.score style actor = 0 then some 0 else none) ∧
      (selector.Fits style actor → selector.score style actor ≠ 0)) ∧
    ∃ initial final,
      IsBest rank? (entriesFor property.name defaults.initial) initial ∧
      IsBest rank? (entriesFor property.name defaults.final) final ∧
      (property.transition? tree sender actor timeline defaults).value =
        (tree.propertyType? actor property.name).bind fun type =>
          let slot : Slot Node := ⟨actor, property.name, type⟩
          let start :=
            ((slot.written? property.fromText).or (slot.offered? initial)).or (slot.live? tree)
          let finish := (slot.written? property.toText).or (slot.offered? final)
          start.map fun start => ⟨property.name, type, start, finish, timeline⟩ := by
  intro style rank?
  refine ⟨?_, ?_, bestBy? rank? (entriesFor property.name defaults.initial),
    bestBy? rank? (entriesFor property.name defaults.final), bestBy?_isBest _ _,
    bestBy?_isBest _ _, ?_⟩
  · intro entry plain
    exact DefaultValue.rank?_plain style sender actor plain
  · intro entry selector selecting
    exact ⟨DefaultValue.rank?_matching style sender actor selecting,
      DefaultValue.rank?_missing style sender actor selecting, Selector.score_ne_zero⟩
  · rw [transition?_value]
    congr 1
    funext type
    dsimp only
    rw [Slot.start?_value, Slot.given?_value]
    rfl

/-- A text that is no number, a best entry that is none either, and a plain entry that would
do: the move starts from the opacity that the panel has. -/
example :
    let panel := (Actor.ofTypes ["Panel"]).declare "opacity" (.holding .int (.int 7))
    let element : PropertyTarget := ⟨"opacity", some "faint", none⟩
    let entries : List DefaultValue :=
      [⟨none, "opacity", .int 2⟩,
        ⟨some ⟨.ofType "Panel", [], 0, .unknown⟩, "opacity", .string "faint"⟩]
    (element.transition? (Stage.ofRoot panel).tree 0 0 ⟨0, 100, .standard, 0⟩
      ⟨entries, entries⟩).value =
        some ⟨"opacity", .int, .int 7, none, ⟨0, 100, .standard, 0⟩⟩ := by
  decide +kernel

end ThemeMotion
