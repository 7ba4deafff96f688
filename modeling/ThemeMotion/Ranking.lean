/-!
# The best of several

Candidates compete by a rank; some have none and do not compete. The highest rank
wins, and of equal ranks the earlier candidate's.
-/

namespace ThemeMotion

variable {α β : Type}

/-- A winner so far holds its place against a candidate of equal rank. -/
def stronger [LT β] [DecidableLT β] (best : Option (α × β)) (candidate : α) (rank : β) :
    Option (α × β) :=
  match best with
  | none => some (candidate, rank)
  | some (winner, top) => if top < rank then some (candidate, rank) else some (winner, top)

/-- The first candidate of the highest rank, with its rank. -/
def bestBy? [LT β] [DecidableLT β] (rank? : α → Option β) (candidates : List α) :
    Option (α × β) :=
  candidates.foldl (fun best candidate =>
    match rank? candidate with
    | none => best
    | some rank => stronger best candidate rank) none

end ThemeMotion
