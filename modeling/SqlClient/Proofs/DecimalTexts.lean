import SqlClient.Number.Integer
import SqlClient.Proofs.Outcome
import SqlClient.Text.Blank
import SqlClient.Text.Utf8

/-! # Numbers as decimal texts

A decimal text has digits, a sign in front of them or none, and a point among them or none
(`Number.IsDecimal`).  All of these characters take one byte, so the text takes little more bytes
than it has digits (`IsDecimal.length_encode_le`).

The text of an integer has as many digits as the integer is large (`isDecimal_toString`), and the
integer is read back from it, also with a plus sign or with white space around it
(`integer?_toString`, `integer?_plus`, `Text.trimmed_padded`).
-/
namespace SqlClient

/-! ## White space around a text -/

namespace Text

/-- A digit is not white space. -/
theorem isBlank_of_isDigit {c : Char} (h : c.isDigit = true) : isBlank c = false := by
  have hbounds : 48 ≤ c.toNat ∧ c.toNat ≤ 57 := by
    simpa [Char.isDigit, UInt32.le_iff_toNat_le] using h
  simp only [isBlank, Bool.or_eq_false_iff, Bool.and_eq_false_iff, decide_eq_false_iff_not,
    beq_eq_false_iff_ne]
  omega

/-- **White space at either end has no influence.** -/
theorem trimmed_padded {before cs after : List Char} (hbefore : ∀ c ∈ before, isBlank c = true)
    (hafter : ∀ c ∈ after, isBlank c = true) (hcs : ∀ c ∈ cs, isBlank c = false) :
    trimmed (before ++ cs ++ after) = cs := by
  have hkept {l : List Char} (hl : ∀ c ∈ l, isBlank c = false) : l.dropWhile isBlank = l := by
    cases l with
    | nil => rfl
    | cons c l => rw [List.dropWhile_cons_of_neg (by simp [hl c (List.mem_cons_self ..)])]
  cases cs with
  | nil =>
    have hall : ∀ c ∈ before ++ [] ++ after, isBlank c = true := by
      simpa [or_imp, forall_and] using ⟨hbefore, hafter⟩
    rw [trimmed, List.dropWhile_eq_nil_iff.mpr hall]
    rfl
  | cons c rest =>
    have hhead : (c :: rest ++ after).dropWhile isBlank = c :: rest ++ after :=
      List.dropWhile_cons_of_neg (by simp [hcs c (List.mem_cons_self ..)])
    rw [List.append_assoc, trimmed_append hbefore, trimmed, hhead, List.reverse_append,
      List.dropWhile_append_of_pos (by simpa using hafter),
      hkept (by simpa only [List.mem_reverse] using hcs), List.reverse_reverse]

end Text

namespace Number

/-! ## Reading digits -/

theorem digitsFrom_eq {cs : List Char} (hdigits : ∀ c ∈ cs, c.isDigit = true) (value : Nat) :
    digitsFrom value cs = some (Nat.ofDigitChars 10 cs value) := by
  induction cs generalizing value with
  | nil => rfl
  | cons c rest ih =>
    have hrest : ∀ d ∈ rest, d.isDigit = true := fun d hd => hdigits d (List.mem_cons_of_mem _ hd)
    rw [digitsFrom, if_pos (hdigits c (List.mem_cons_self ..)), ih hrest, Nat.ofDigitChars_cons,
      Nat.mul_comm]

theorem isDigit_of_mem_toDigits {n : Nat} {c : Char} (h : c ∈ Nat.toDigits 10 n) :
    c.isDigit = true :=
  Nat.isDigit_of_mem_toDigits (by decide) (by decide) h

/-- The digits of a number are read as this number. -/
theorem natural?_toDigits (n : Nat) : natural? (Nat.toDigits 10 n) = some n := by
  obtain ⟨c, rest, hdigits⟩ := List.exists_cons_of_ne_nil (@Nat.toDigits_ne_nil n 10)
  have hall : ∀ d ∈ c :: rest, d.isDigit = true := fun d hd =>
    isDigit_of_mem_toDigits (hdigits ▸ hd)
  rw [hdigits, natural?, digitsFrom_eq hall, ← hdigits, Nat.ofDigitChars_ten_toDigits]
  simp

theorem integer?_toDigits (n : Nat) : integer? (Nat.toDigits 10 n) = some (n : Int) := by
  have hnatural := natural?_toDigits n
  have hdigit {c : Char} (hc : c ∈ Nat.toDigits 10 n) := isDigit_of_mem_toDigits hc
  unfold integer?
  split
  · rename_i rest hdigits
    cases hdigit (hdigits ▸ List.mem_cons_self ..)
  · rename_i rest hdigits
    cases hdigit (hdigits ▸ List.mem_cons_self ..)
  · rw [hnatural]
    rfl

theorem toList_toString_of_nonneg {n : Int} (h : 0 ≤ n) :
    (toString n).toList = Nat.toDigits 10 n.toNat := by
  rw [Int.toString_eq_repr, Int.repr_eq_if, if_pos h, Nat.toList_repr]

theorem toList_toString_of_neg {n : Int} (h : n < 0) :
    (toString n).toList = '-' :: Nat.toDigits 10 (-n).toNat := by
  rw [Int.toString_eq_repr, Int.repr_eq_if, if_neg (by omega), String.toList_append,
    Nat.toList_repr]
  rfl

/-- **The text of an integer is read as this integer.** -/
theorem integer?_toString (n : Int) : integer? (toString n).toList = some n := by
  rcases lt_or_ge n 0 with hneg | hpos
  · have hvalue : -((-n).toNat : Int) = n := by omega
    rw [toList_toString_of_neg hneg, integer?, natural?_toDigits]
    exact congrArg some hvalue
  · rw [toList_toString_of_nonneg hpos, integer?_toDigits, Int.toNat_of_nonneg hpos]

/-- A plus sign may be in front of it, if it has no minus sign. -/
theorem integer?_plus {n : Int} (h : 0 ≤ n) : integer? ('+' :: (toString n).toList) = some n := by
  rw [toList_toString_of_nonneg h, integer?, natural?_toDigits]
  exact congrArg some (Int.toNat_of_nonneg h)

/-- There is no white space in it. -/
theorem isBlank_of_mem_toString {n : Int} {c : Char} (hc : c ∈ (toString n).toList) :
    Text.isBlank c = false := by
  rcases lt_or_ge n 0 with hneg | hpos
  · rw [toList_toString_of_neg hneg] at hc
    rcases List.mem_cons.mp hc with rfl | hc
    · rfl
    · exact Text.isBlank_of_isDigit (isDigit_of_mem_toDigits hc)
  · rw [toList_toString_of_nonneg hpos] at hc
    exact Text.isBlank_of_isDigit (isDigit_of_mem_toDigits hc)

/-! ## How long a decimal text is -/

/-- **A decimal text** of so many digits: they may have a sign in front and a point among them. -/
def IsDecimal (s : String) (digits : Nat) : Prop :=
  ∃ sign ∈ [[], ['+'], ['-']], ∃ point ∈ [[], ['.']], ∃ whole places : List Char,
    (∀ c ∈ whole ++ places, c.isDigit = true) ∧ whole.length + places.length = digits ∧
      s.toList = sign ++ whole ++ point ++ places

/-- The text of an integer has no more digits than the power of ten above it has zeros. -/
theorem isDecimal_toString {n : Int} {places : Nat} (hplaces : 0 < places)
    (h : n.natAbs < 10 ^ places) : ∃ digits ≤ places, IsDecimal (toString n) digits := by
  have hlength : (Nat.toDigits 10 n.natAbs).length ≤ places :=
    (Nat.length_toDigits_le_iff (by decide) hplaces).mpr h
  refine ⟨_, hlength, ?_⟩
  have hdigits : ∀ c ∈ Nat.toDigits 10 n.natAbs ++ [], c.isDigit = true := fun c hc =>
    isDigit_of_mem_toDigits (List.append_nil _ ▸ hc)
  rcases lt_or_ge n 0 with hneg | hpos
  · have habs : (-n).toNat = n.natAbs := by omega
    refine ⟨['-'], by simp, [], by simp, Nat.toDigits 10 n.natAbs, [], hdigits, rfl, ?_⟩
    rw [toList_toString_of_neg hneg, habs]
    simp
  · have habs : n.toNat = n.natAbs := by omega
    refine ⟨[], by simp, [], by simp, Nat.toDigits 10 n.natAbs, [], hdigits, rfl, ?_⟩
    rw [toList_toString_of_nonneg hpos, habs]
    simp

/-- A digit takes one byte. -/
theorem utf8Size_of_isDigit {c : Char} (h : c.isDigit = true) : c.utf8Size = 1 := by
  have hbounds : 48 ≤ c.val ∧ c.val ≤ 57 := by simpa [Char.isDigit] using h
  exact Char.utf8Size_eq_one_iff.mpr (UInt32.le_trans hbounds.2 (by decide))

end Number

namespace Utf8

/-- The bytes of a text are those of its characters. -/
theorem length_encode (s : String) : (encode s).length = (s.toList.map Char.utf8Size).sum := by
  rw [encode, List.length_flatMap]
  simp only [String.length_utf8EncodeChar]

/-- **A character takes four bytes at most.** -/
theorem length_encode_le (s : String) : (encode s).length ≤ s.length * 4 := by
  have hsum := List.sum_le_card_nsmul (s.toList.map Char.utf8Size) 4 fun size hsize => by
    obtain ⟨c, -, rfl⟩ := List.mem_map.mp hsize
    exact c.utf8Size_le_four
  rwa [List.length_map, String.length_toList, smul_eq_mul, ← length_encode] at hsum

end Utf8

/-- **A decimal text takes one byte for each digit**, and one for its sign and its point. -/
theorem Number.IsDecimal.length_encode_le {s : String} {digits : Nat} (h : IsDecimal s digits) :
    (Utf8.encode s).length ≤ digits + 2 := by
  obtain ⟨sign, hsign, point, hpoint, whole, places, hdigits, rfl, hs⟩ := h
  have hones {l : List Char} (hl : ∀ c ∈ l, c.utf8Size = 1) :
      (l.map Char.utf8Size).sum = l.length := by
    rw [List.sum_eq_card_nsmul _ 1 (by simpa using hl), List.length_map, smul_eq_mul, Nat.mul_one]
  have hsmall : (sign.map Char.utf8Size).sum ≤ 1 ∧ (point.map Char.utf8Size).sum ≤ 1 := by
    simp only [List.mem_cons, List.not_mem_nil, or_false] at hsign hpoint
    rcases hsign with rfl | rfl | rfl <;> rcases hpoint with rfl | rfl <;> decide
  have hwhole := hones fun c hc => utf8Size_of_isDigit (hdigits c (List.mem_append_left _ hc))
  have hplaces := hones fun c hc => utf8Size_of_isDigit (hdigits c (List.mem_append_right _ hc))
  simp only [Utf8.length_encode, hs, List.map_append, List.sum_append, hwhole, hplaces]
  omega

end SqlClient
