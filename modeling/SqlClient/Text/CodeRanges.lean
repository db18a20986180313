/-!
# Ranges of code points

A property of characters is kept as the ranges of code points that have it, in ascending order.
-/

namespace SqlClient.Text

/-- Ranges of code points with both ends included. -/
abbrev CodeRanges := Array (Nat × Nat)

/-- The character lies in one of the ranges. -/
def CodeRanges.contains (ranges : CodeRanges) (c : Char) : Bool :=
  ranges.any fun (low, high) => low ≤ c.toNat && c.toNat ≤ high

theorem CodeRanges.contains_iff {ranges : CodeRanges} {c : Char} :
    ranges.contains c = true ↔ ∃ range ∈ ranges, range.1 ≤ c.toNat ∧ c.toNat ≤ range.2 := by
  rw [CodeRanges.contains, Array.any_eq_true']
  simp

/-- The letters and digits of core are ASCII characters. -/
theorem toNat_lt_of_isAlphanum {c : Char} (h : c.isAlphanum = true) :
    0x30 ≤ c.toNat ∧ c.toNat < 0x7F := by
  change ((decide (0x41 ≤ c.toNat ∧ c.toNat ≤ 0x5A) ||
    (decide (0x61 ≤ c.toNat) && decide (c.toNat ≤ 0x7A))) ||
    (decide (0x30 ≤ c.toNat) && decide (c.toNat ≤ 0x39))) = true at h
  simp only [Bool.or_eq_true, Bool.and_eq_true, decide_eq_true_eq] at h
  omega

end SqlClient.Text
