/-!
# Lists of items under keys

Items are listed under keys. The item of a key may change; the key keeps the place that it was
given when it was new, which is behind all others.
-/

namespace ThemeMotion.Keyed

variable {Key Item : Type} [DecidableEq Key]

/-- Changes the item under a key, or adds one behind all others where the key is new. -/
def alter (key : Key) (change : Option Item → Item) : List (Key × Item) → List (Key × Item)
  | [] => [(key, change none)]
  | (other, present) :: rest =>
    if other = key then (other, change (some present)) :: rest
    else (other, present) :: alter key change rest

/-- Puts an item in the place of the one under its key, or behind all others. -/
def put (key : Key) (item : Item) (entries : List (Key × Item)) : List (Key × Item) :=
  alter key (fun _ => item) entries

end ThemeMotion.Keyed
