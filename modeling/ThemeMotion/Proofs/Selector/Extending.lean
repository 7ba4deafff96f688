import Mathlib.Data.List.Forall2
import ThemeMotion.Proofs.Selector.Ranks
import ThemeMotion.Proofs.Selector.Reading

/-!
# What a further compound adds

A compound in front of a selector asks for one more node, above all others. The selector
with it matches less often, and what it scores more is the weight of the compound, as long
as the other compounds stay where they are.

They do when any ancestor will do: an ancestor of a far node is one of the near node below
it as well. A parent is one of its own node alone. A compound in front that asks for one
may move other compounds to farther nodes, where their types can count for less than they
did, and by more than the compound counts for. Scores that do not fit a 32-bit word are not
described.
-/

namespace ThemeMotion

variable {Node : Type}

/-- A node is another one or a strict ancestor of it. -/
def StyleTree.IsAtOrAbove (tree : StyleTree Node) (upper lower : Node) : Prop :=
  Relation.ReflTransGen (fun node parent => tree.parent? node = some parent) lower upper

variable {tree : StyleTree Node}

/-- The parents of two nodes lie to each other as the nodes do. -/
theorem StyleTree.IsAtOrAbove.parents {upper lower upperParent lowerParent : Node}
    (above : tree.IsAtOrAbove upper lower) (upperJoined : tree.parent? upper = some upperParent)
    (lowerJoined : tree.parent? lower = some lowerParent) :
    tree.IsAtOrAbove upperParent lowerParent := by
  rcases Relation.ReflTransGen.cases_head above with rfl | ⟨next, joined, others⟩
  · obtain rfl := Option.some.inj (upperJoined.symm.trans lowerJoined)
    exact .refl
  · obtain rfl := Option.some.inj (joined.symm.trans lowerJoined)
    exact others.tail upperJoined

/-- Where nodes in a row lie farther out than others, the last one does. -/
theorem forall₂_last {relation : Node → Node → Prop} {far near : List Node} {start node : Node}
    (first : relation start node) (others : List.Forall₂ relation far near) :
    relation (far.getLastD start) (near.getLastD node) := by
  induction others generalizing start node with
  | nil => exact first
  | cons next _ inductionHypothesis =>
    rw [List.getLastD_cons, List.getLastD_cons]
    exact inductionHypothesis next

/-- The compounds of a selector and one in front of them are placed together when the node
of the front is joined to the last of the nodes for the others. -/
theorem placed_front_iff {compound front : Compound} {combinator : Combinator}
    {outer : List (Combinator × Compound)} {node upper : Node} {nodes : List Node} :
    Placed tree compound (outer ++ [(combinator, front)]) (node :: (nodes ++ [upper])) ↔
      Placed tree compound outer (node :: nodes) ∧
        combinator.Joins tree (nodes.getLastD node) upper ∧ front.Holds tree upper := by
  induction outer generalizing compound node nodes with
  | nil =>
    constructor
    · intro placed
      obtain rfl : nodes = [] := by simpa using placed.length
      cases placed with
      | step holds joined others =>
        cases others with
        | last frontHolds => exact ⟨.last holds, joined, frontHolds⟩
    · rintro ⟨placed, joined, frontHolds⟩
      cases placed with
      | last holds => exact .step holds joined (.last frontHolds)
  | cons head outer inductionHypothesis =>
    cases nodes with
    | nil =>
      constructor
      · intro placed
        simpa using placed.length
      · rintro ⟨placed, -⟩
        simpa using placed.length
    | cons next nodes =>
      rw [List.getLastD_cons]
      constructor
      · intro placed
        cases placed with
        | step holds joined others =>
          obtain ⟨others, rest⟩ := inductionHypothesis.mp others
          exact ⟨.step holds joined others, rest⟩
      · rintro ⟨placed, rest⟩
        cases placed with
        | step holds joined others =>
          exact .step holds joined (inductionHypothesis.mpr ⟨others, rest⟩)

/-- No placement from a node, or from an ancestor of it, has a node nearer than the nearest
placement.

Induction on the compounds above the first one. The nodes for the next compound are both on
the line of the node. If that of the placement came first, then the nearest placement would
have passed over a node from which the rest can be placed. -/
theorem PlacedNearest.innermost {compound : Compound} {outer : List (Combinator × Compound)}
    {node start : Node} {near far : List Node}
    (nearest : PlacedNearest tree compound outer (node :: near))
    (placed : Placed tree compound outer (start :: far)) (above : tree.IsAtOrAbove start node) :
    List.Forall₂ tree.IsAtOrAbove far near := by
  induction outer generalizing compound node start near far with
  | nil =>
    cases nearest
    cases placed
    exact .nil
  | cons head outer inductionHypothesis =>
    cases nearest with
    | @step _ next combinator _ _ upper nodes _ joined closest others =>
      cases placed with
      | @step _ _ _ _ _ upper' nodes' _ joined' others' =>
        have farther : tree.IsAtOrAbove upper' upper := by
          cases combinator with
          | parent => exact above.parents joined' joined
          | ancestor =>
            have onLine : tree.IsAbove upper' node := Relation.TransGen.trans_right above joined'
            rcases tree.above_cases joined onLine with same | between | between
            · exact same ▸ .refl
            · exact absurd ⟨nodes', others'⟩ (closest rfl upper' onLine between)
            · exact between.to_reflTransGen
        exact .cons farther (inductionHypothesis others others' farther)

/-- A compound in front for which any ancestor will do leaves the other compounds at their
nodes.

Induction on the compounds above the first one. Where the longer row passes over an ancestor
from which the shorter one can be placed, the node of the front is above the last node that
the shorter row has from there, by `innermost`, so that the longer row could be placed from
there too. -/
theorem PlacedNearest.kept {compound front : Compound} {outer : List (Combinator × Compound)}
    {node upper : Node} {near far : List Node}
    (nearest : PlacedNearest tree compound outer (node :: near))
    (longer : PlacedNearest tree compound (outer ++ [(.ancestor, front)])
      (node :: (far ++ [upper]))) : far = near := by
  induction outer generalizing compound node near far with
  | nil =>
    have length := longer.placed.length
    cases nearest
    simpa using length
  | cons head outer inductionHypothesis =>
    cases nearest with
    | @step _ next combinator _ _ first nodes _ joined closest others =>
      cases far with
      | nil => simpa using longer.placed.length
      | cons first' far =>
        cases longer with
        | step _ joined' closest' others' =>
          obtain ⟨placed, top, frontHolds⟩ := placed_front_iff.mp others'.placed
          have same : first' = first := by
            cases combinator with
            | parent => exact Option.some.inj (joined'.symm.trans joined)
            | ancestor =>
              rcases tree.above_cases joined joined' with same | between | between
              · exact same.symm
              · exact absurd ⟨far, placed⟩ (closest rfl first' joined' between)
              · have farther : tree.IsAtOrAbove first' first := between.to_reflTransGen
                have last := forall₂_last farther (others.innermost placed farther)
                have fromNear : tree.IsAbove upper (nodes.getLastD first) :=
                  Relation.TransGen.trans_right last top
                exact absurd ⟨nodes ++ [upper],
                  placed_front_iff.mpr ⟨others.placed, fromNear, frontHolds⟩⟩
                  (closest' rfl first joined between)
          subst same
          rw [inductionHypothesis others others']

/-- A compound that asks for anything counts for something where it holds. -/
theorem Compound.Holds.weight_pos {compound : Compound} {node : Node}
    (holds : compound.Holds tree node) (asking : compound ≠ .universal) :
    0 < compound.weight tree node := by
  rw [Nat.pos_iff_ne_zero]
  intro weightless
  unfold weight at weightless
  have untyped : compound.typeName = none := by
    rw [Option.eq_none_iff_forall_ne_some]
    intro name typed
    obtain ⟨depth, found⟩ := holds.typed name typed
    have counted : compound.typeWeight tree node = max 1 (10 - depth) := by
      simp only [typeWeight, typed, Option.bind_some, found]
    omega
  have unnamed : compound.id = none := by
    rw [← Option.not_isSome_iff_eq_none]
    intro identified
    rw [if_pos identified] at weightless
    omega
  have unclassed : compound.classes = [] := List.eq_nil_of_length_eq_zero (by omega)
  have unmarked : compound.pseudoClasses = [] := List.eq_nil_of_length_eq_zero (by omega)
  obtain ⟨_, _, _, _⟩ := compound
  cases untyped
  cases unnamed
  cases unclassed
  cases unmarked
  exact asking rfl

/-- What the types of compounds count for together with that of one more. -/
theorem typeTotal_concat {compounds : List Compound} {nodes : List Node} (front : Compound)
    (upper : Node) (length : nodes.length = compounds.length) :
    typeTotal tree (compounds ++ [front]) (nodes ++ [upper]) =
      typeTotal tree compounds nodes + front.typeWeight tree upper := by
  simp [typeTotal, List.zipWith_append length.symm]

namespace Selector

/-- A selector with one more compound in front: what the selector matches, where its last
node has a parent or an ancestor for which the compound holds. -/
def under (selector : Selector) (combinator : Combinator) (front : Compound) : Selector :=
  { selector with outer := selector.outer ++ [(combinator, front)] }

/-- A compound with a combinator, written in front of all that is written of a selector,
gives the selector with the compound in front. -/
theorem describes_under {written : WrittenSelector} {source : SourcePosition}
    {selector : Selector} (described : written.Describes source selector)
    (front : WrittenCompound) (combinator : WrittenCombinator) :
    { written with earlier := (front, combinator) :: written.earlier }.Describes source
      (selector.under combinator.combinator front.compound) := by
  rw [describes_iff] at described ⊢
  subst described
  simp [under, WrittenRow.outer]

/-- The scores of a selector with and without a compound in front, when both match. -/
theorem score_under {selector : Selector} {combinator : Combinator} {front : Compound}
    {node upper : Node} {near far : List Node} (fits : selector.Fits tree node)
    (fitsUnder : (selector.under combinator front).Fits tree node)
    (nearest : PlacedNearest tree selector.subject selector.outer (node :: near))
    (longer : PlacedNearest tree selector.subject (selector.outer ++ [(combinator, front)])
      (node :: (far ++ [upper]))) :
    ((selector.under combinator front).score tree node).toInt +
        typeTotal tree selector.compounds (node :: near) =
      (selector.score tree node).toInt + typeTotal tree selector.compounds (node :: far) +
        front.weight tree upper := by
  have compounds : (selector.under combinator front).compounds = selector.compounds ++ [front] := by
    simp [Selector.compounds, under]
  have ids : (selector.under combinator front).ids =
      selector.ids + if front.id.isSome then 1 else 0 := by
    simp [Selector.ids, compounds, idCount]
  have marks : (selector.under combinator front).marks =
      selector.marks + (front.classes.length + front.pseudoClasses.length) := by
    simp [Selector.marks, compounds, markCount]
  have length := (placed_front_iff.mp longer.placed).1.length
  have types : typeTotal tree (selector.under combinator front).compounds
      (node :: (far ++ [upper])) =
        typeTotal tree selector.compounds (node :: far) + front.typeWeight tree upper := by
    rw [compounds]
    exact typeTotal_concat front upper length
  have priority : (selector.under combinator front).priority = selector.priority := rfl
  rw [score_ranks tree node fits nearest, score_ranks tree node fitsUnder longer, ids, marks,
    types, priority]
  unfold Compound.weight
  split <;> omega

/-- Where a selector with one more compound in front matches, the selector matches too. The
longer selector is the one that is written with the compound and its combinator before all
that is written of the shorter. Of the two nearest placements, the one with the front has
every other compound at the same node or farther out, and at the same one if any ancestor
will do for the front. The front adds its weight to the score, while a compound that it moves
counts for the type that it has farther out. So a front for which any ancestor will do never
lowers the score, and raises it if it asks for anything. A front that asks for a parent lowers
the score exactly if the moved compounds lose more than it counts for, and raises it exactly
if they lose less. -/
theorem extending_exact (tree : StyleTree Node) (node : Node) (selector : Selector)
    (combinator : Combinator) (front : Compound) (fits : selector.Fits tree node)
    (fitsUnder : (selector.under combinator front).Fits tree node)
    (matched : (selector.under combinator front).isMatch tree node = true) :
    let longer := selector.under combinator front
    selector.isMatch tree node = true ∧
      (combinator = .ancestor → selector.score tree node ≤ longer.score tree node ∧
        (front ≠ .universal → selector.score tree node < longer.score tree node)) ∧
      (∀ (written : WrittenSelector) (source : SourcePosition), written.Describes source selector →
        ∀ (first : WrittenCompound) (joint : WrittenCombinator),
          first.compound = front → joint.combinator = combinator →
            { written with earlier := (first, joint) :: written.earlier }.Describes source longer) ∧
      ∃ near far upper,
        PlacedNearest tree selector.subject selector.outer (node :: near) ∧
        PlacedNearest tree longer.subject longer.outer (node :: (far ++ [upper])) ∧
        List.Forall₂ tree.IsAtOrAbove far near ∧ (combinator = .ancestor → far = near) ∧
        let weight := front.weight tree upper
        let types := typeTotal tree selector.compounds (node :: near)
        let moved := typeTotal tree selector.compounds (node :: far)
        (front ≠ .universal → 0 < weight) ∧
        (longer.score tree node).toInt + types =
          (selector.score tree node).toInt + moved + weight ∧
        (selector.score tree node ≤ longer.score tree node ↔ types ≤ moved + weight) ∧
        (selector.score tree node < longer.score tree node ↔ types < moved + weight) := by
  intro longer
  obtain ⟨nodes, farthest⟩ := isMatch_placed tree node fitsUnder matched
  have filled : nodes ≠ [] := by
    rintro rfl
    simpa [longer, under] using farthest.placed.length
  obtain ⟨far, upper, rfl⟩ := (List.eq_nil_or_concat' nodes).resolve_left filled
  obtain ⟨placed, -, frontHolds⟩ := placed_front_iff.mp farthest.placed
  have shorter : selector.isMatch tree node = true := (isMatch_iff tree node fits).mpr
    (part_complete tree selector.subject selector.outer node placed)
  obtain ⟨near, nearest⟩ := isMatch_placed tree node fits shorter
  have kept : combinator = .ancestor → far = near := by
    rintro rfl
    exact nearest.kept farthest
  have difference : (longer.score tree node).toInt +
      typeTotal tree selector.compounds (node :: near) = (selector.score tree node).toInt +
        typeTotal tree selector.compounds (node :: far) + front.weight tree upper :=
    score_under fits fitsUnder nearest farthest
  have positive (asking : front ≠ .universal) := frontHolds.weight_pos asking
  refine ⟨shorter, ?_, ?_, near, far, upper, nearest, farthest,
    nearest.innermost placed .refl, kept, positive, difference, ?_, ?_⟩
  · intro loose
    rw [kept loose] at difference
    rw [Int32.le_iff_toInt_le, Int32.lt_iff_toInt_lt]
    constructor
    · omega
    · intro asking
      have counted := positive asking
      omega
  · rintro written source described first joint rfl rfl
    exact describes_under described first joint
  · rw [Int32.le_iff_toInt_le]
    omega
  · rw [Int32.lt_iff_toInt_lt]
    omega

/-- A surface with a shell, in it a box with a button. The shell is a box too, but has come
far from being one, and so has the surface. -/
def shellTree : StyleTree Nat :=
  ((Stage.ofRoot (.ofTypes ["Desktop", "Display", "Output", "Screen", "View", "Surface"])).run
    [.addChild 0 (.ofTypes ["Dock", "Panel", "Bar", "Strip", "Frame", "Shell", "Box"]),
      .addChild 1 (.ofTypes ["Box"]), .addChild 2 (.ofTypes ["Button"])]).tree.toStyleTree

/-- The selector of a button in a box. -/
def boxButton : Selector := ⟨.ofType "Button", [(.ancestor, .ofType "Box")], 0, .unknown⟩

/-- The button scores more as a button in a box anywhere in a surface: the box next to it is
in one. -/
theorem extending_ancestor_raises :
    let surfaceBoxButton := boxButton.under .ancestor (.ofType "Surface")
    boxButton.Fits shellTree 3 ∧ surfaceBoxButton.Fits shellTree 3 ∧
      surfaceBoxButton.isMatch shellTree 3 = true ∧ boxButton.isMatch shellTree 3 = true ∧
      boxButton.score shellTree 3 < surfaceBoxButton.score shellTree 3 := by
  intro surfaceBoxButton
  have shorter : boxButton.specificity? shellTree 3 = some 20 := by decide +kernel
  have longer : surfaceBoxButton.specificity? shellTree 3 = some 25 := by decide +kernel
  have fits : boxButton.Fits shellTree 3 := fits_of shellTree 3 shorter (by decide)
  have fitsUnder : surfaceBoxButton.Fits shellTree 3 := fits_of shellTree 3 longer (by decide)
  have matched : surfaceBoxButton.isMatch shellTree 3 = true := by decide +kernel
  obtain ⟨kept, loose, -⟩ :=
    extending_exact shellTree 3 boxButton .ancestor (.ofType "Surface") fits fitsUnder matched
  exact ⟨fits, fitsUnder, matched, kept, (loose rfl).2 (by decide)⟩

/-- The button scores less as a button in a box directly in a surface. The box next to it is
not directly in one, and the shell loses more as a box than the surface counts for. -/
theorem extending_parent_lowers :
    let surfaceBoxButton := boxButton.under .parent (.ofType "Surface")
    Selector.parse "Box Button" = .ok boxButton ∧
      Selector.parse "Surface > Box Button" = .ok surfaceBoxButton ∧
      surfaceBoxButton.isMatch shellTree 3 = true ∧ boxButton.isMatch shellTree 3 = true ∧
      boxButton.score shellTree 3 = 21 ∧ surfaceBoxButton.score shellTree 3 = 20 := by
  refine ⟨?_, ?_, ?_, ?_, ?_, ?_⟩ <;> decide +kernel

end Selector

end ThemeMotion
