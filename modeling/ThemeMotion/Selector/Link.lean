import ThemeMotion.Selector.Basic

/-!
# Selectors as chains of links

A selector can be walked link by link from its subject. A link holds one compound and
leads to the link that has to hold at the parent, to the one that has to hold at some
ancestor, or to none. Each link has a priority and a source of its own.
-/

namespace ThemeMotion

/-- One compound of a selector, with the links that hold above it. -/
inductive Link where
  | of (compound : Compound) (parent ancestor : Option Link) (priority : UInt8)
      (source : SourcePosition)

namespace Link

/-- What the link asks of its node. -/
def compound : Link → Compound
  | of compound _ _ _ _ => compound

/-- The link for the parent of the node. -/
def parent : Link → Option Link
  | of _ parent _ _ _ => parent

/-- The link for an ancestor of the node. -/
def ancestor : Link → Option Link
  | of _ _ ancestor _ _ => ancestor

/-- The priority that is declared at the link. -/
def priority : Link → UInt8
  | of _ _ _ priority _ => priority

/-- Where the link was declared. -/
def source : Link → SourcePosition
  | of _ _ _ _ source => source

/-- A link and all links above it, the link itself first. -/
def links : Link → List Link
  | of compound parent ancestor priority source =>
    of compound parent ancestor priority source ::
      ((match parent with
        | some above => above.links
        | none => []) ++
      match ancestor with
        | some above => above.links
        | none => [])

/-- All links above a link, each with the way in which it was reached. -/
def path : Link → List (Combinator × Link)
  | of _ parent ancestor _ _ =>
    (match parent with
      | some above => (.parent, above) :: above.path
      | none => []) ++
    match ancestor with
      | some above => (.ancestor, above) :: above.path
      | none => []

end Link

namespace Selector

/-- The links for the parent and for an ancestor that compounds above a node make. -/
def above (source : SourcePosition) : List (Combinator × Compound) → Option Link × Option Link
  | [] => (none, none)
  | (combinator, compound) :: outer =>
    let (parent, ancestor) := above source outer
    let link := Link.of compound parent ancestor 0 source
    match combinator with
    | .parent => (some link, none)
    | .ancestor => (none, some link)

/-- The link of the subject, from which all others are reached. -/
def chain (selector : Selector) : Link :=
  let (parent, ancestor) := above selector.source selector.outer
  .of selector.subject parent ancestor selector.priority selector.source

end Selector

end ThemeMotion
