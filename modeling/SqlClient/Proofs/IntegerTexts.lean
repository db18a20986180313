import SqlClient.Proofs.FittingValues

/-! # The integers that values are converted to

A text writes an integer by an optional sign and one or more ASCII digits, with white space around
them or not.  `Number.Writes` says this without reading: the value of the digits is that of their
places, so that leading zeros do not count, and a sign comes last, so that there is a number for the
lowest integer of 64 bits although there is none for its magnitude.

Reading goes from the left and multiplies what it has by ten (`digitsFrom_eq_some_iff`).  It accepts
exactly what writes an integer (`integer?_eq_some_iff`), and white space around it does not matter
(`integer?_trimmed_eq_some_iff`).  Both conversions go through that one reading
(`Value.toInt32?_eq_ok_iff`, `Value.toInt64?_eq_ok_iff`), so they can be different only in their
bounds.
-/
namespace SqlClient

namespace Number

/-! ## Writing -/

/-- The value of a digit. -/
def digitValue (c : Char) : Nat := c.toNat - '0'.toNat

/-- The value of digits by their places, the last of which counts once. -/
def placeValue (digits : List Char) : Nat := Nat.ofDigits 10 (digits.reverse.map digitValue)

/-- One or more ASCII digits. -/
def IsNumeral (cs : List Char) : Prop := cs ≠ [] ∧ ∀ c ∈ cs, c.isDigit = true

/-- **What writes an integer**: digits with a sign in front of them or none. -/
inductive Writes : List Char → Int → Prop
  | unsigned {digits : List Char} : IsNumeral digits → Writes digits (placeValue digits)
  | plus {digits : List Char} : IsNumeral digits → Writes ('+' :: digits) (placeValue digits)
  | minus {digits : List Char} : IsNumeral digits → Writes ('-' :: digits) (-placeValue digits)

theorem placeValue_cons (c : Char) (rest : List Char) :
    placeValue (c :: rest) = digitValue c * 10 ^ rest.length + placeValue rest := by
  simp only [placeValue, List.reverse_cons, List.map_append, List.map_cons, List.map_nil,
    Nat.ofDigits_append, Nat.ofDigits_singleton, List.length_map, List.length_reverse]
  ring

/-! ## Reading -/

/-- **Reading goes on where it stands**: what was read before counts for all digits that follow. -/
theorem digitsFrom_eq_some_iff {value n : Nat} {cs : List Char} : digitsFrom value cs = some n ↔
    (∀ c ∈ cs, c.isDigit = true) ∧ n = value * 10 ^ cs.length + placeValue cs := by
  induction cs generalizing value with
  | nil =>
    have hnone : ∀ c ∈ ([] : List Char), c.isDigit = true := nofun
    have hvalue : value * 10 ^ ([] : List Char).length + placeValue [] = value := by
      simp [placeValue]
    rw [digitsFrom, Option.some_inj, hvalue, eq_comm]
    exact (and_iff_right hnone).symm
  | cons c rest ih =>
    rw [digitsFrom]
    by_cases hc : c.isDigit = true
    · have hplaces : (value * 10 + digitValue c) * 10 ^ rest.length + placeValue rest =
          value * 10 ^ (c :: rest).length + placeValue (c :: rest) := by
        rw [placeValue_cons, List.length_cons, pow_succ]
        ring
      rw [if_pos hc, ← digitValue, ih, hplaces, List.forall_mem_cons]
      simp only [hc, true_and]
    · simp [hc]

theorem natural?_eq_some_iff {n : Nat} {cs : List Char} :
    natural? cs = some n ↔ IsNumeral cs ∧ n = placeValue cs := by
  cases cs with
  | nil => simp [natural?, IsNumeral]
  | cons c rest =>
    have hread : natural? (c :: rest) = digitsFrom 0 (c :: rest) := rfl
    rw [hread, digitsFrom_eq_some_iff, Nat.zero_mul, Nat.zero_add]
    simp [IsNumeral]

/-- An integer that is made of what the digits are read as. -/
theorem map_natural?_eq_some_iff {f : Nat → Int} {n : Int} {digits : List Char} :
    (natural? digits).map f = some n ↔ IsNumeral digits ∧ n = f (placeValue digits) := by
  simp only [Option.map_eq_some_iff, natural?_eq_some_iff]
  constructor
  · rintro ⟨m, ⟨hdigits, rfl⟩, rfl⟩
    exact ⟨hdigits, rfl⟩
  · rintro ⟨hdigits, rfl⟩
    exact ⟨_, ⟨hdigits, rfl⟩, rfl⟩

theorem integer?_minus (digits : List Char) :
    integer? ('-' :: digits) = (natural? digits).map fun m : Nat => -(m : Int) := by
  rw [integer?]
  cases natural? digits <;> rfl

/-- There is a sign in front, or the whole is read as digits. -/
theorem signed_cases (cs : List Char) : (∃ digits, cs = '+' :: digits) ∨
    (∃ digits, cs = '-' :: digits) ∨ integer? cs = (natural? cs).map Int.ofNat := by
  unfold integer?
  split
  · exact .inl ⟨_, rfl⟩
  · exact .inr (.inl ⟨_, rfl⟩)
  · exact .inr (.inr rfl)

/-- **What is read as an integer is what writes it.** -/
theorem integer?_eq_some_iff {n : Int} {cs : List Char} : integer? cs = some n ↔ Writes cs n := by
  constructor
  · intro h
    rcases signed_cases cs with ⟨digits, rfl⟩ | ⟨digits, rfl⟩ | hplain
    · obtain ⟨hdigits, rfl⟩ := map_natural?_eq_some_iff.mp h
      exact .plus hdigits
    · rw [integer?_minus] at h
      obtain ⟨hdigits, rfl⟩ := map_natural?_eq_some_iff.mp h
      exact .minus hdigits
    · rw [hplain] at h
      obtain ⟨hdigits, rfl⟩ := map_natural?_eq_some_iff.mp h
      exact .unsigned hdigits
  · intro h
    cases h with
    | plus hdigits => exact map_natural?_eq_some_iff.mpr ⟨hdigits, rfl⟩
    | minus hdigits =>
      rw [integer?_minus]
      exact map_natural?_eq_some_iff.mpr ⟨hdigits, rfl⟩
    | unsigned hdigits =>
      -- a sign is no digit
      rcases signed_cases cs with ⟨digits, rfl⟩ | ⟨digits, rfl⟩ | hplain
      · cases hdigits.2 '+' (List.mem_cons_self ..)
      · cases hdigits.2 '-' (List.mem_cons_self ..)
      · rw [hplain]
        exact map_natural?_eq_some_iff.mpr ⟨hdigits, rfl⟩

/-! ## White space around it -/

/-- A text writes an integer, with white space around it or not. -/
def WritesWithin (s : String) (n : Int) : Prop :=
  ∃ before cs after, s.toList = before ++ cs ++ after ∧
    (∀ c ∈ before, Text.isBlank c = true) ∧ (∀ c ∈ after, Text.isBlank c = true) ∧ Writes cs n

theorem Writes.isBlank {n : Int} {cs : List Char} (h : Writes cs n) {c : Char} (hc : c ∈ cs) :
    Text.isBlank c = false := by
  cases h with
  | unsigned hdigits => exact Text.isBlank_of_isDigit (hdigits.2 c hc)
  | plus hdigits | minus hdigits =>
    rcases List.mem_cons.mp hc with rfl | hc
    · rfl
    · exact Text.isBlank_of_isDigit (hdigits.2 c hc)

end Number

/-- What is trimmed off is white space. -/
theorem Text.exists_padding (cs : List Char) : ∃ before after,
    cs = before ++ trimmed cs ++ after ∧ (∀ c ∈ before, isBlank c = true) ∧
      ∀ c ∈ after, isBlank c = true := by
  have hfront := List.takeWhile_append_dropWhile (p := isBlank) (l := cs)
  have hback := List.takeWhile_append_dropWhile (p := isBlank) (l := (cs.dropWhile isBlank).reverse)
  refine ⟨cs.takeWhile isBlank, ((cs.dropWhile isBlank).reverse.takeWhile isBlank).reverse, ?_,
    fun c hc => List.mem_takeWhile_imp hc,
    fun c hc => List.mem_takeWhile_imp (List.mem_reverse.mp hc)⟩
  rw [trimmed, List.append_assoc, ← List.reverse_append, hback, List.reverse_reverse, hfront]

/-- **Reading without the white space finds what is written within it.** -/
theorem Number.integer?_trimmed_eq_some_iff {s : String} {n : Int} :
    integer? (Text.trimmed s.toList) = some n ↔ WritesWithin s n := by
  rw [integer?_eq_some_iff]
  constructor
  · intro h
    obtain ⟨before, after, hs, hbefore, hafter⟩ := Text.exists_padding s.toList
    exact ⟨before, _, after, hs, hbefore, hafter, h⟩
  · rintro ⟨before, cs, after, hs, hbefore, hafter, h⟩
    rwa [hs, Text.trimmed_padded hbefore hafter fun c hc => h.isBlank hc]

/-- What is displayed for an integer writes it. -/
theorem Number.writes_display (n : Int64) : Writes (Value.int64 n).display.toList n.toInt :=
  integer?_eq_some_iff.mp (integer?_toString n.toInt)

namespace Value

variable {v : Value} {n : Int} {s : String}

/-! ## Both conversions -/

/-- **The 32-bit form** is the integer that the value is or writes, if it is one of 32 bits. -/
theorem toInt32?_eq_ok_iff : v.toInt32?.map Int32.toInt = .ok n ↔
    v.integer? = some n ∧ -0x80000000 ≤ n ∧ n < 0x80000000 := by
  constructor
  · intro h
    obtain ⟨m, hm, rfl⟩ := map_eq_ok h
    have hlow := Int32.le_toInt m
    have hhigh := Int32.toInt_lt m
    exact ⟨integer?_of_toInt32? hm, by omega, by omega⟩
  · rintro ⟨hn, hlow, hhigh⟩
    obtain ⟨m, hm, rfl⟩ := toInt32?_of_integer? hn hlow hhigh
    rw [hm, Except.map]

/-- **The 64-bit form** is the same integer, if it is one of 64 bits. -/
theorem toInt64?_eq_ok_iff : v.toInt64?.map Int64.toInt = .ok n ↔
    v.integer? = some n ∧ -0x8000000000000000 ≤ n ∧ n < 0x8000000000000000 := by
  constructor
  · intro h
    obtain ⟨m, hm, rfl⟩ := map_eq_ok h
    have hlow := Int64.le_toInt m
    have hhigh := Int64.toInt_lt m
    exact ⟨integer?_of_toInt64? hm, by omega, by omega⟩
  · rintro ⟨hn, hlow, hhigh⟩
    obtain ⟨m, hm, rfl⟩ := toInt64?_of_integer? hn hlow hhigh
    rw [hm, Except.map]

/-- **The values that carry a text**: the text itself, and the bytes it is encoded in. -/
inductive Carries (s : String) : Value → Prop where
  | text : Carries s (.text s)
  | bytes : Carries s (.bytes (Utf8.encode s))

/-- Such a value is the integer that its text writes. -/
theorem Carries.integer?_eq_some_iff (h : v.Carries s) :
    v.integer? = some n ↔ Number.WritesWithin s n := by
  cases h with
  | text => exact Number.integer?_trimmed_eq_some_iff
  | bytes =>
    simp only [integer?, Utf8.decode_encode]
    exact Number.integer?_trimmed_eq_some_iff

/-- **The conversions to integers are exact and agree.**  That to 32 bits gives what that to 64 bits
gives, as far as it fits.  A text, or the bytes of one, is converted exactly when it writes an
integer that fits, and to this integer; so what is displayed for an integer is converted back to
it, whatever white space is put around it. -/
theorem integers_exact :
    (∀ (v : Value) (n : Int), v.toInt32?.map Int32.toInt = .ok n ↔
      v.toInt64?.map Int64.toInt = .ok n ∧ -0x80000000 ≤ n ∧ n < 0x80000000) ∧
    (∀ (s : String) (v : Value), v.Carries s → ∀ n : Int, v.toInt64?.map Int64.toInt = .ok n ↔
      Number.WritesWithin s n ∧ -0x8000000000000000 ≤ n ∧ n < 0x8000000000000000) ∧
    ∀ (n : Int64) (before after : List Char), (∀ c ∈ before, Text.isBlank c = true) →
      (∀ c ∈ after, Text.isBlank c = true) → ∀ v : Value,
      v.Carries (String.ofList (before ++ (int64 n).display.toList ++ after)) →
      v.toInt64?.map Int64.toInt = .ok n.toInt ∧
        (-0x80000000 ≤ n.toInt → n.toInt < 0x80000000 →
          v.toInt32?.map Int32.toInt = .ok n.toInt) := by
  refine ⟨fun v n => ?_, fun s v hv n => ?_, fun n before after hbefore hafter v hv => ?_⟩
  · rw [toInt32?_eq_ok_iff, toInt64?_eq_ok_iff]
    constructor
    · rintro ⟨hn, hlow, hhigh⟩
      exact ⟨⟨hn, by omega, by omega⟩, hlow, hhigh⟩
    · rintro ⟨⟨hn, -, -⟩, hlow, hhigh⟩
      exact ⟨hn, hlow, hhigh⟩
  · rw [toInt64?_eq_ok_iff, hv.integer?_eq_some_iff]
  · have hn : v.integer? = some n.toInt := hv.integer?_eq_some_iff.mpr
      ⟨before, _, after, String.toList_ofList, hbefore, hafter, Number.writes_display n⟩
    have hlow := Int64.le_toInt n
    have hhigh := Int64.toInt_lt n
    exact ⟨toInt64?_eq_ok_iff.mpr ⟨hn, by omega, by omega⟩,
      fun hlow32 hhigh32 => toInt32?_eq_ok_iff.mpr ⟨hn, hlow32, hhigh32⟩⟩

/-- The lowest integer of 64 bits with zeros in front, which has no form of 32 bits, and the lowest
one of 32 bits as it is displayed. -/
theorem integers_exact_lowest :
    let v := bytes (Utf8.encode "\u2003-009223372036854775808\n")
    let w := text (String.ofList (['\t'] ++ (int64 (-0x80000000)).display.toList ++ ['\u00a0']))
    v.toInt64?.map Int64.toInt = .ok (-0x8000000000000000) ∧
      v.toInt32?.map Int32.toInt ≠ .ok (-0x8000000000000000) ∧
      w.toInt32?.map Int32.toInt = .ok (-0x80000000) := by
  intro v w
  obtain ⟨hagree, hreads, hback⟩ := integers_exact
  have hblank {cs : List Char} (h : cs.all Text.isBlank = true) :
      ∀ c ∈ cs, Text.isBlank c = true := List.all_eq_true.mp h
  have hdigits : Number.IsNumeral "009223372036854775808".toList :=
    ⟨by decide, List.all_eq_true.mp (by decide)⟩
  have hwrites : Number.Writes "-009223372036854775808".toList (-0x8000000000000000) :=
    .minus hdigits
  have hv : Number.WritesWithin "\u2003-009223372036854775808\n" (-0x8000000000000000) :=
    ⟨['\u2003'], _, ['\n'], rfl, hblank rfl, hblank rfl, hwrites⟩
  have hw := hback (-0x80000000) ['\t'] ['\u00a0'] (hblank rfl) (hblank rfl) w .text
  refine ⟨(hreads _ v .bytes _).mpr ⟨hv, by decide, by decide⟩, fun h => ?_,
    hw.2 (by decide) (by decide)⟩
  have hlow := ((hagree v _).mp h).2.1
  omega

end Value
end SqlClient
