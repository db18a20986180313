/-!
# Names without regard to case

Labels, parameter names and option words are compared ignoring the case of the ASCII letters.
No other letter has a second form: `é` and `É` are different.
-/

namespace SqlClient.Text

/-- The characters of a name with the ASCII capitals made small. -/
def folded (name : String) : List Char := name.toList.map Char.toLower

/-- The two names differ at most in the case of ASCII letters. -/
def sameName (a b : String) : Bool := folded a == folded b

theorem sameName_iff {a b : String} : sameName a b = true ↔ folded a = folded b := by
  simp [sameName]

@[simp] theorem sameName_refl (a : String) : sameName a a = true := by simp [sameName]

theorem sameName_comm (a b : String) : sameName a b = sameName b a := by
  simp [sameName, Bool.beq_comm]

end SqlClient.Text
