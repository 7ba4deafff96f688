/-!
# Units of a text

Positions in a document count bytes of its UTF-8 form.
-/

namespace ThemeMotion.Text

/-- The bytes that a text takes in UTF-8. -/
def byteLength (text : List Char) : Nat := text.foldr (fun c size => c.utf8Size + size) 0

/-- No text takes no bytes. -/
@[simp]
theorem byteLength_nil : byteLength [] = 0 := rfl

/-- The first character takes its own bytes. -/
@[simp]
theorem byteLength_cons (c : Char) (rest : List Char) :
    byteLength (c :: rest) = c.utf8Size + byteLength rest := rfl

/-- Bytes of texts one after the other add up. -/
@[simp]
theorem byteLength_append (first second : List Char) :
    byteLength (first ++ second) = byteLength first + byteLength second := by
  induction first with
  | nil => simp
  | cons c rest inductionHypothesis =>
    rw [List.cons_append, byteLength_cons, byteLength_cons, inductionHypothesis, Nat.add_assoc]

/-- Only the empty text takes no bytes. -/
theorem byteLength_eq_zero_iff {text : List Char} : byteLength text = 0 ↔ text = [] := by
  cases text with
  | nil => simp
  | cons c rest =>
    have taken := c.utf8Size_pos
    rw [byteLength_cons]
    constructor
    · intro nothing
      omega
    · intro empty
      cases empty

end ThemeMotion.Text
