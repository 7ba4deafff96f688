import ThemeMotion.Progress.Basic
import ThemeMotion.Word

/-!
# Timelines

A timeline says when a transition starts, how long it runs, along which curve, and
how often it repeats. The transitions of one actor play together under a timeline
that starts at once and lasts until the last of them has ended.
-/

namespace ThemeMotion

/-- Delay, duration, curve and repetition of a transition. -/
structure Timeline where
  delay : UInt32
  duration : UInt32
  mode : ProgressMode
  /-- Zero plays once, a positive number plays so many times more, and
  `Timeline.forever` does not end. -/
  repetition : Int32
deriving DecidableEq, Repr

namespace Timeline

/-- The repetition without an end. -/
def forever : Int32 := -1

/-- No delay, no duration, linear, played once. -/
def standard : Timeline := ⟨0, 0, .standard, 0⟩

/-- Delay and duration together, held at the largest word. -/
def total (timeline : Timeline) : UInt32 := Word.saturatingSum timeline.delay timeline.duration

/-- A timeline without an end. -/
def isInfinite (timeline : Timeline) : Bool := timeline.repetition == forever

/-- The timeline under which all members fit: it lasts as long as the longest of them
and repeats as often as the most repeated one that ends. A member that does not end has no
part in the repetition. -/
def synchronized (members : List Timeline) : Timeline where
  delay := 0
  duration := members.foldl (fun longest member => max longest member.total) 0
  mode := .standard
  repetition := members.foldl
    (fun most member => if 0 ≤ member.repetition then max most member.repetition else most) 0

end Timeline

end ThemeMotion
