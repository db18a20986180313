/-!
# White space

The characters with the Unicode property White_Space, and texts without them at either end.
-/

namespace SqlClient.Text

/-- A character with the Unicode property White_Space. -/
def isBlank (c : Char) : Bool :=
  let n := c.toNat
  (9 ≤ n && n ≤ 13) || n == 0x20 || n == 0x85 || n == 0xA0 || n == 0x1680 ||
    (0x2000 ≤ n && n ≤ 0x200A) || n == 0x2028 || n == 0x2029 || n == 0x202F || n == 0x205F ||
    n == 0x3000

/-- Every character that core counts as white space is blank. -/
theorem isBlank_of_isWhitespace {c : Char} (h : c.isWhitespace = true) : isBlank c = true := by
  simp only [Char.isWhitespace, Bool.or_eq_true, decide_eq_true_eq] at h
  rcases h with ((h | h) | h) | h <;> subst h <;> rfl

/-- The characters between the first and the last that are not blank. -/
def trimmed (cs : List Char) : List Char :=
  ((cs.dropWhile isBlank).reverse.dropWhile isBlank).reverse

/-- White space in front has no influence. -/
theorem trimmed_append {pad : List Char} (blank : ∀ c ∈ pad, isBlank c = true) (cs : List Char) :
    trimmed (pad ++ cs) = trimmed cs := by
  rw [trimmed, List.dropWhile_append_of_pos blank, trimmed]

/-- The text without white space at either end. -/
def trim (s : String) : String := String.ofList (trimmed s.toList)

end SqlClient.Text
