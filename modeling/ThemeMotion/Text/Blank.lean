/-!
# Blank characters and trimming

Two notions of blank space occur in theme files and their values. Attribute and
property texts are trimmed by the Unicode property White_Space; the text between
two elements of a document is ignorable when it holds only ASCII blanks.
-/

namespace ThemeMotion.Text

/-- The code points of the Unicode property White_Space, as inclusive ranges. -/
def blankRanges : List (Nat × Nat) :=
  [(0x9, 0xD), (0x20, 0x20), (0x85, 0x85), (0xA0, 0xA0), (0x1680, 0x1680),
   (0x2000, 0x200A), (0x2028, 0x2029), (0x202F, 0x202F), (0x205F, 0x205F), (0x3000, 0x3000)]

/-- A blank character has the Unicode property White_Space. -/
def isBlank (c : Char) : Bool :=
  blankRanges.any fun (first, last) => first ≤ c.toNat && c.toNat ≤ last

/-- The blanks of markup: space, tabulator, line feed, carriage return and form feed. -/
def isAsciiBlank (c : Char) : Bool :=
  c == ' ' || c == '\t' || c == '\n' || c == '\r' || c == '\x0c'

/-- The text without its leading blanks. -/
def trimStart (text : List Char) : List Char := text.dropWhile isBlank

/-- The text without its trailing blanks. -/
def trimEnd (text : List Char) : List Char := (text.reverse.dropWhile isBlank).reverse

/-- The text without the blanks at either end. -/
def trim (text : List Char) : List Char := trimEnd (trimStart text)

/-- Blanks ahead are cut off, and a text without blanks is left as it is. -/
theorem trim_blanks_append {blanks solid : List Char}
    (blank : ∀ c ∈ blanks, isBlank c = true) (filled : ∀ c ∈ solid, isBlank c = false) :
    trim (blanks ++ solid) = solid := by
  have kept {text : List Char} (none : ∀ c ∈ text, isBlank c = false) :
      text.dropWhile isBlank = text := by
    cases text with
    | nil => rfl
    | cons c rest => exact List.dropWhile_cons_of_neg (by simp [none c List.mem_cons_self])
  have start : trimStart (blanks ++ solid) = solid := by
    rw [trimStart, List.dropWhile_append_of_pos blank]
    exact kept filled
  have turned : ∀ c ∈ solid.reverse, isBlank c = false :=
    fun c member => filled c (List.mem_reverse.mp member)
  rw [trim, start, trimEnd, kept turned, List.reverse_reverse]

end ThemeMotion.Text
