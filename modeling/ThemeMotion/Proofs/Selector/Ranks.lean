import Mathlib.Algebra.Order.Ring.Nat
import ThemeMotion.Proofs.Selector.Matching
import ThemeMotion.Proofs.Stage.Growing
import ThemeMotion.Selector.Parser

/-!
# Ranks in a score

A score sums up what counts in a selector: its priority, its ids, its classes and
pseudo-classes, and its types, each with a weight of its own. The weights put these into
ranks, but a rank is not closed upwards: when the lower ranks of a selector come to a whole
step of a higher one, they make up for it. Ten types weigh as much as a class, a hundred
classes as much as an id, and a hundred ids as much as a step of priority.

The comparison of two matching selectors is laid down exactly. Only types depend on the
nodes; scores that do not fit a 32-bit word are not described.
-/

namespace ThemeMotion

variable {Node : Type}

/-- The number of ids that compounds have. -/
def idCount (compounds : List Compound) : Nat := compounds.countP (·.id.isSome)

/-- The number of classes and pseudo-classes that compounds have. -/
def markCount (compounds : List Compound) : Nat :=
  (compounds.map fun compound => compound.classes.length + compound.pseudoClasses.length).sum

/-- What the types of compounds count for, each at its own node. -/
def typeTotal (tree : StyleTree Node) (compounds : List Compound) (nodes : List Node) : Nat :=
  (List.zipWith (fun compound node => compound.typeWeight tree node) compounds nodes).sum

/-- No type counts for more than the own type of a node. -/
theorem Compound.typeWeight_le (compound : Compound) (tree : StyleTree Node) (node : Node) :
    compound.typeWeight tree node ≤ 10 := by
  unfold typeWeight
  split <;> omega

/-- The types of compounds count for no more than ten each. -/
theorem typeTotal_le (tree : StyleTree Node) (compounds : List Compound) (nodes : List Node) :
    typeTotal tree compounds nodes ≤ 10 * compounds.length := by
  induction compounds generalizing nodes with
  | nil => simp [typeTotal]
  | cons compound compounds inductionHypothesis =>
    cases nodes with
    | nil => simp [typeTotal]
    | cons node nodes =>
      have first := compound.typeWeight_le tree node
      have others := inductionHypothesis nodes
      simp only [typeTotal, List.zipWith_cons_cons, List.sum_cons, List.length_cons] at others ⊢
      omega

/-- Where every compound has a node, the weight is that of types, ids, and classes together
with pseudo-classes. -/
theorem totalWeight_eq (tree : StyleTree Node) {compounds : List Compound} {nodes : List Node}
    (length : nodes.length = compounds.length) : totalWeight tree compounds nodes =
      10000 * idCount compounds + 100 * markCount compounds + typeTotal tree compounds nodes := by
  induction compounds generalizing nodes with
  | nil => simp [totalWeight, idCount, markCount, typeTotal]
  | cons compound compounds inductionHypothesis =>
    cases nodes with
    | nil => cases length
    | cons node nodes =>
      have others := inductionHypothesis (Nat.succ.inj length)
      have first : compound.weight tree node = compound.typeWeight tree node +
        (if compound.id.isSome then 10000 else 0) +
          100 * (compound.classes.length + compound.pseudoClasses.length) := rfl
      have whole : totalWeight tree (compound :: compounds) (node :: nodes) =
        compound.weight tree node + totalWeight tree compounds nodes := rfl
      rw [whole, others, first]
      simp only [idCount, markCount, typeTotal, List.countP_cons, List.map_cons, List.sum_cons,
        List.zipWith_cons_cons]
      split <;> omega

/-- A placement has a node for every compound. -/
theorem Placed.length {tree : StyleTree Node} {compound : Compound}
    {outer : List (Combinator × Compound)} {nodes : List Node}
    (placed : Placed tree compound outer nodes) :
    nodes.length = (compound :: outer.map Prod.snd).length := by
  induction placed with
  | last holds => rfl
  | step holds joined others inductionHypothesis =>
    simp only [List.length_cons, List.map_cons] at inductionHypothesis ⊢
    omega

namespace Selector

/-- The number of ids in a selector. -/
def ids (selector : Selector) : Nat := idCount selector.compounds

/-- The number of classes and pseudo-classes in a selector. -/
def marks (selector : Selector) : Nat := markCount selector.compounds

section Scores

variable (tree : StyleTree Node) (node : Node)

/-- The score of a selector at a node fits a 32-bit word, if it matches there. -/
def Fits (selector : Selector) : Prop :=
  ∀ specificity, selector.specificity? tree node = some specificity →
    1 + 1000000 * selector.priority.toNat + specificity ≤ 2147483647

/-- A specificity that is known is all that has to fit. -/
theorem fits_of {selector : Selector} {specificity : Nat}
    (found : selector.specificity? tree node = some specificity)
    (bounded : 1 + 1000000 * selector.priority.toNat + specificity ≤ 2147483647) :
    selector.Fits tree node := by
  intro other again
  obtain rfl := Option.some.inj (found.symm.trans again)
  exact bounded

/-- A selector whose score fits matches a node exactly when all its compounds hold. -/
theorem isMatch_iff {selector : Selector} (fits : selector.Fits tree node) :
    selector.isMatch tree node = true ↔ (selector.specificity? tree node).isSome := by
  unfold isMatch
  rw [decide_eq_true_iff, Int32.lt_iff_toInt_lt]
  cases found : selector.specificity? tree node with
  | none =>
    rw [selector.score_missing tree node found]
    decide
  | some specificity =>
    rw [selector.score_fits tree node found (fits specificity found)]
    have zero : (0 : Int32).toInt = 0 := rfl
    simp only [zero, Option.isSome_some, iff_true]
    omega

/-- A selector whose score fits has a nearest placement where it matches. -/
theorem isMatch_placed {selector : Selector} (fits : selector.Fits tree node)
    (matched : selector.isMatch tree node = true) :
    ∃ above, PlacedNearest tree selector.subject selector.outer (node :: above) := by
  rw [isMatch_iff tree node fits, Option.isSome_iff_exists] at matched
  obtain ⟨_, found⟩ := matched
  obtain ⟨above, nearest, -⟩ := part_sound tree selector.subject selector.outer node found
  exact ⟨above, nearest⟩

/-- The score of a selector, rank by rank. -/
theorem score_ranks {selector : Selector} (fits : selector.Fits tree node) {above : List Node}
    (placed : PlacedNearest tree selector.subject selector.outer (node :: above)) :
    (selector.score tree node).toInt =
      1 + 1000000 * selector.priority.toNat + 10000 * selector.ids + 100 * selector.marks +
        typeTotal tree selector.compounds (node :: above) := by
  have found := selector.specificity_nearest tree node placed
  have ranked := totalWeight_eq tree placed.placed.length
  rw [selector.score_fits tree node found (fits _ found)]
  change totalWeight tree selector.compounds (node :: above) = 10000 * selector.ids +
    100 * selector.marks + typeTotal tree selector.compounds (node :: above) at ranked
  omega

end Scores

/-- A selector is ahead of another by the order of ranks: by priority, or else by ids, or
else by classes and pseudo-classes. -/
def Outranks (selector other : Selector) : Prop :=
  other.priority < selector.priority ∨
    other.priority = selector.priority ∧
      (other.ids < selector.ids ∨ other.ids = selector.ids ∧ other.marks < selector.marks)

/-- Two selectors that match a node, compared by their scores there. The one that is ahead in
a rank scores higher exactly when the lower ranks of the other do not make up for the steps
by which it is behind: a million for each step of priority, ten thousand for an id, and a
hundred for a class or a pseudo-class. The types come to ten for each compound at most, so the
order of ranks stands against a selector with fewer than a hundred ids, fewer than a hundred
classes and pseudo-classes, and fewer than ten compounds. -/
theorem ranking_exact (tree : StyleTree Node) (node : Node) (selector other : Selector)
    (fits : selector.Fits tree node) (fits' : other.Fits tree node)
    (matched : selector.isMatch tree node = true) (matched' : other.isMatch tree node = true) :
    (other.ids < 100 → other.marks < 100 → other.depth < 10 → selector.Outranks other →
      other.score tree node < selector.score tree node) ∧
    ∃ above above',
      PlacedNearest tree selector.subject selector.outer (node :: above) ∧
      PlacedNearest tree other.subject other.outer (node :: above') ∧
      let types := typeTotal tree selector.compounds (node :: above)
      let types' := typeTotal tree other.compounds (node :: above')
      (other.priority < selector.priority →
        (other.score tree node < selector.score tree node ↔
          10000 * other.ids + 100 * other.marks + types' <
            1000000 * (selector.priority.toNat - other.priority.toNat) +
              10000 * selector.ids + 100 * selector.marks + types)) ∧
      (other.priority = selector.priority → other.ids < selector.ids →
        (other.score tree node < selector.score tree node ↔
          100 * other.marks + types' <
            10000 * (selector.ids - other.ids) + 100 * selector.marks + types)) ∧
      (other.priority = selector.priority → other.ids = selector.ids →
        other.marks < selector.marks →
        (other.score tree node < selector.score tree node ↔
          types' < 100 * (selector.marks - other.marks) + types)) ∧
      types' ≤ 10 * other.depth := by
  obtain ⟨above, placed⟩ := isMatch_placed tree node fits matched
  obtain ⟨above', placed'⟩ := isMatch_placed tree node fits' matched'
  let types := typeTotal tree selector.compounds (node :: above)
  let types' := typeTotal tree other.compounds (node :: above')
  have score := score_ranks tree node fits placed
  have score' := score_ranks tree node fits' placed'
  have bound : types' ≤ 10 * other.depth := by
    have length : other.compounds.length = other.depth := by
      simp [compounds, depth, Nat.add_comm]
    exact length ▸ typeTotal_le tree other.compounds (node :: above')
  have compare : other.score tree node < selector.score tree node ↔
      1000000 * other.priority.toNat + 10000 * other.ids + 100 * other.marks + types' <
        1000000 * selector.priority.toNat + 10000 * selector.ids + 100 * selector.marks +
          types := by
    rw [Int32.lt_iff_toInt_lt, score, score']
    omega
  refine ⟨?_, above, above', placed, placed', ?_, ?_, ?_, bound⟩
  · intro fewIds fewMarks shallow outranks
    rw [compare]
    rcases outranks with higher | ⟨level, more | ⟨same, more⟩⟩
    · rw [UInt8.lt_iff_toNat_lt] at higher
      omega
    · rw [level]
      omega
    · rw [level, same]
      omega
  · intro higher
    rw [UInt8.lt_iff_toNat_lt] at higher
    rw [compare]
    omega
  · intro level more
    rw [compare, level]
    omega
  · intro level same more
    rw [compare, level, same]
    omega

/-- A stage with a button in a panel. -/
def panelTree : StyleTree Nat :=
  ((Stage.ofRoot (.ofTypes ["Panel"])).run [.addChild 0
    ⟨["Button", "Widget"], some "save", ["primary"], ["hover"], []⟩]).tree.toStyleTree

/-- The selector of what is named `save`. -/
def saveSelector : Selector := ⟨{ Compound.universal with id := some "save" }, [], 0, .unknown⟩

/-- The selector of a primary button that is hovered over directly in a panel. -/
def hoverSelector : Selector :=
  ⟨⟨some "Button", none, ["primary"], ["hover"]⟩, [(.parent, .ofType "Panel")], 0, .unknown⟩

/-- One id is ahead of a class, a pseudo-class and two types. -/
theorem ranking_id_ahead :
    saveSelector.Fits panelTree 1 ∧ hoverSelector.Fits panelTree 1 ∧
      saveSelector.isMatch panelTree 1 = true ∧ hoverSelector.isMatch panelTree 1 = true ∧
      saveSelector.Outranks hoverSelector ∧
      hoverSelector.score panelTree 1 < saveSelector.score panelTree 1 := by
  have saved : saveSelector.specificity? panelTree 1 = some 10000 := by decide
  have hovered : hoverSelector.specificity? panelTree 1 = some 220 := by decide +kernel
  have fits : saveSelector.Fits panelTree 1 := fits_of panelTree 1 saved (by decide)
  have fits' : hoverSelector.Fits panelTree 1 := fits_of panelTree 1 hovered (by decide)
  have matched : saveSelector.isMatch panelTree 1 = true := by decide
  have matched' : hoverSelector.isMatch panelTree 1 = true := by decide +kernel
  have ahead : saveSelector.Outranks hoverSelector := .inr ⟨rfl, .inl (by decide)⟩
  obtain ⟨inOrder, -⟩ :=
    ranking_exact panelTree 1 saveSelector hoverSelector fits fits' matched matched'
  exact ⟨fits, fits', matched, matched', ahead,
    inOrder (by decide) (by decide) (by decide) ahead⟩

/-- A stage of eleven boxes, one in the other, of which the innermost is primary. -/
def boxTree : StyleTree Nat :=
  ((Stage.ofRoot (.ofTypes ["Box"])).run
    ((List.range 9).map (fun parent => .addChild parent (.ofTypes ["Box"])) ++
      [.addChild 9 ⟨["Box"], none, ["primary"], [], []⟩])).tree.toStyleTree

/-- The selector of what is primary. -/
def primarySelector : Selector :=
  ⟨{ Compound.universal with classes := ["primary"] }, [], 0, .unknown⟩

/-- The selector of a box inside ten boxes. -/
def boxSelector : Selector :=
  ⟨.ofType "Box", List.replicate 10 (.ancestor, .ofType "Box"), 0, .unknown⟩

/-- Eleven types are ahead of a class, although classes are the higher rank. -/
theorem ranking_types_add_up :
    Selector.parse ".primary" = .ok primarySelector ∧
      Selector.parse "Box Box Box Box Box Box Box Box Box Box Box" = .ok boxSelector ∧
      primarySelector.isMatch boxTree 10 = true ∧ boxSelector.isMatch boxTree 10 = true ∧
      primarySelector.Outranks boxSelector ∧
      primarySelector.score boxTree 10 = 101 ∧ boxSelector.score boxTree 10 = 111 := by
  refine ⟨by decide +kernel, by decide +kernel, by decide +kernel, by decide +kernel,
    .inr ⟨rfl, .inr ⟨by decide, by decide⟩⟩, by decide +kernel, by decide +kernel⟩

end Selector

end ThemeMotion
