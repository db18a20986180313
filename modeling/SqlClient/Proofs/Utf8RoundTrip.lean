import Mathlib
import SqlClient.Text.Utf8

/-! # Reading back what was written

The reader of `Utf8.decode` goes through the bytes of one character and comes out between
characters with exactly that character (`decodeFrom_encodeChar`), so a text survives being written
and read (`decode_encode`).

The bytes of a character are made from numbers, so the facts about the machine are stated for
`UInt8.ofNat`: what a first byte does, by the number of bytes it announces (`lead_one` to
`lead_four`), and what the byte `k + 0x80` does inside a character (`step_inside`).

The other way around, bytes that could be read are the bytes of the text that was read
(`encode_of_decode`).  Here the bytes are given, so the cases are those of the first byte
(`lead_eq`), and the bounds say which next bytes there can be (`decodeFrom_inside`).
-/
namespace SqlClient.Utf8

/-! ## One byte -/

theorem lead_one : ∀ k < 0x80, State.start.step (UInt8.ofNat k) = .done (Char.ofNat k) := by decide

theorem lead_two : ∀ k < 32, 2 ≤ k →
    State.start.step (UInt8.ofNat (k + 0xC0)) = .more (.inside 1 k 0 0x80 0xBF) := by decide

/-- The bounds exclude what two bytes can write and the surrogates. -/
theorem lead_three : ∀ k < 16, State.start.step (UInt8.ofNat (k + 0xE0)) =
    .more (.inside 1 k 1 (if k = 0 then 0xA0 else 0x80) (if k = 0xD then 0x9F else 0xBF)) := by
  decide

/-- The bounds exclude what three bytes can write and what lies beyond the last character. -/
theorem lead_four : ∀ k < 5, State.start.step (UInt8.ofNat (k + 0xF0)) =
    .more (.inside 1 k 2 (if k = 0 then 0x90 else 0x80) (if k = 4 then 0x8F else 0xBF)) := by
  decide

/-- A byte that the bounds of the reader allow adds six bits to the value. -/
theorem step_inside {taken value owed k : Nat} {low high : UInt8} (hk : k < 64)
    (hlow : low.toNat ≤ k + 0x80) (hhigh : k + 0x80 ≤ high.toNat) :
    (State.inside taken value owed low high).step (UInt8.ofNat (k + 0x80)) =
      match owed with
      | 0 => .done (Char.ofNat (value * 64 + k))
      | owed + 1 => .more (.inside (taken + 1) (value * 64 + k) owed 0x80 0xBF) := by
  have hb : (UInt8.ofNat (k + 0x80)).toNat = k + 0x80 :=
    UInt8.toNat_ofNat_of_lt' (show k + 0x80 < 256 by omega)
  have hin : low ≤ UInt8.ofNat (k + 0x80) ∧ UInt8.ofNat (k + 0x80) ≤ high := by
    rw [UInt8.le_iff_toNat_le, UInt8.le_iff_toNat_le, hb]
    exact ⟨hlow, hhigh⟩
  cases owed <;> simp only [State.step, if_pos hin, hb, Nat.add_sub_cancel]

/-! ## One character -/

theorem decodeFrom_more {state next : State} {b : UInt8} (h : state.step b = .more next)
    (index : Nat) (text : List Char) (rest : Bytes) :
    decodeFrom state index text (b :: rest) = decodeFrom next index text rest := by
  rw [decodeFrom, h]

theorem decodeFrom_done {state : State} {b : UInt8} {c : Char} (h : state.step b = .done c)
    (index : Nat) (text : List Char) (rest : Bytes) :
    decodeFrom state index text (b :: rest) =
      decodeFrom .start (index + state.taken + 1) (c :: text) rest := by
  rw [decodeFrom, h]

/-- The last byte of a character. -/
theorem decodeFrom_last {taken value k : Nat} {low high : UInt8} (hk : k < 64)
    (hlow : low.toNat ≤ k + 0x80) (hhigh : k + 0x80 ≤ high.toNat) (index : Nat)
    (text : List Char) (rest : Bytes) :
    decodeFrom (.inside taken value 0 low high) index text (UInt8.ofNat (k + 0x80) :: rest) =
      decodeFrom .start (index + taken + 1) (Char.ofNat (value * 64 + k) :: text) rest :=
  decodeFrom_done (step_inside hk hlow hhigh) index text rest

/-- A byte in the middle of a character. -/
theorem decodeFrom_middle {taken value owed k : Nat} {low high : UInt8} (hk : k < 64)
    (hlow : low.toNat ≤ k + 0x80) (hhigh : k + 0x80 ≤ high.toNat) (index : Nat)
    (text : List Char) (rest : Bytes) :
    decodeFrom (.inside taken value (owed + 1) low high) index text
        (UInt8.ofNat (k + 0x80) :: rest) =
      decodeFrom (.inside (taken + 1) (value * 64 + k) owed 0x80 0xBF) index text rest :=
  decodeFrom_more (step_inside hk hlow hhigh) index text rest

/-- **The reader takes up exactly one character.** -/
theorem decodeFrom_encodeChar (c : Char) (index : Nat) (text : List Char) (rest : Bytes) :
    decodeFrom .start index text (String.utf8EncodeChar c ++ rest) =
      decodeFrom .start (index + (String.utf8EncodeChar c).length) (c :: text) rest := by
  have hc : Char.ofNat c.val.toNat = c := Char.ofNat_toNat c
  have hvalid := c.valid
  simp only [UInt32.isValidChar, Nat.isValidChar] at hvalid
  unfold String.utf8EncodeChar
  generalize c.val.toNat = v at hc hvalid
  simp only
  -- one to four bytes; `hv` puts the six-bit groups together again
  split
  · rw [List.singleton_append, decodeFrom_done (lead_one v (by omega)), hc]
    rfl
  split
  · have hv : v / 64 % 32 * 64 + v % 64 = v := by omega
    simp only [List.cons_append, List.nil_append]
    rw [decodeFrom_more (lead_two (v / 64 % 32) (by omega) (by omega)),
      decodeFrom_last (by omega) (by simp) (by simp; omega), hv, hc]
    rfl
  split
  · have hv : (v / 4096 % 16 * 64 + v / 64 % 64) * 64 + v % 64 = v := by omega
    have hlow : (if v / 4096 % 16 = 0 then 0xA0 else 0x80 : UInt8).toNat ≤ v / 64 % 64 + 0x80 := by
      split
      · show 0xA0 ≤ v / 64 % 64 + 0x80
        omega
      · exact Nat.le_add_left ..
    -- a surrogate would lie beyond this bound, but is no character
    have hhigh : v / 64 % 64 + 0x80 ≤
        (if v / 4096 % 16 = 0xD then 0x9F else 0xBF : UInt8).toNat := by
      split
      · show v / 64 % 64 + 0x80 ≤ 0x9F
        omega
      · show v / 64 % 64 + 0x80 ≤ 0xBF
        omega
    simp only [List.cons_append, List.nil_append]
    rw [decodeFrom_more (lead_three (v / 4096 % 16) (by omega)),
      decodeFrom_middle (by omega) hlow hhigh,
      decodeFrom_last (by omega) (by simp) (by simp; omega), hv, hc]
    rfl
  · have hv : ((v / 262144 % 8 * 64 + v / 4096 % 64) * 64 + v / 64 % 64) * 64 + v % 64 = v := by
      omega
    have hlow : (if v / 262144 % 8 = 0 then 0x90 else 0x80 : UInt8).toNat ≤
        v / 4096 % 64 + 0x80 := by
      split
      · show 0x90 ≤ v / 4096 % 64 + 0x80
        omega
      · exact Nat.le_add_left ..
    have hhigh : v / 4096 % 64 + 0x80 ≤
        (if v / 262144 % 8 = 4 then 0x8F else 0xBF : UInt8).toNat := by
      split
      · show v / 4096 % 64 + 0x80 ≤ 0x8F
        omega
      · show v / 4096 % 64 + 0x80 ≤ 0xBF
        omega
    simp only [List.cons_append, List.nil_append]
    rw [decodeFrom_more (lead_four (v / 262144 % 8) (by omega)),
      decodeFrom_middle (by omega) hlow hhigh,
      decodeFrom_middle (by omega) (by simp) (by simp; omega),
      decodeFrom_last (by omega) (by simp) (by simp; omega), hv, hc]
    rfl

/-! ## A whole text -/

theorem decodeFrom_flatMap_encodeChar (cs : List Char) (index : Nat) (text : List Char) :
    decodeFrom .start index text (cs.flatMap String.utf8EncodeChar) =
      .ok (text.reverse ++ cs) := by
  induction cs generalizing index text with
  | nil => simp [decodeFrom]
  | cons c cs ih =>
    rw [List.flatMap_cons, decodeFrom_encodeChar, ih]
    simp

/-- **A text survives being written and read.** -/
theorem decode_encode (s : String) : decode (encode s) = .ok s := by
  rw [decode, encode, decodeFrom_flatMap_encodeChar]
  exact congrArg Except.ok String.ofList_toList

/-! ## Writing back what was read -/

/-- What every first byte does. -/
theorem lead_eq : ∀ k < 256, lead (UInt8.ofNat k) =
    if k < 0x80 then .done (Char.ofNat k)
    else if k < 0xC2 then .refused
    else if k < 0xE0 then .more (.inside 1 (k - 0xC0) 0 0x80 0xBF)
    else if k < 0xF0 then .more (.inside 1 (k - 0xE0) 1 (if k = 0xE0 then 0xA0 else 0x80)
      (if k = 0xED then 0x9F else 0xBF))
    else if k < 0xF5 then .more (.inside 1 (k - 0xF0) 2 (if k = 0xF0 then 0x90 else 0x80)
      (if k = 0xF4 then 0x8F else 0xBF))
    else .refused := by decide +kernel

/-- **Inside a character the next byte is one that the bounds allow**, if the bytes are read to
their end. -/
theorem decodeFrom_inside {taken value owed index : Nat} {low high : UInt8} {text cs : List Char}
    {bytes : Bytes} (hlow : 0x80 ≤ low.toNat) (hhigh : high.toNat ≤ 0xBF)
    (h : decodeFrom (.inside taken value owed low high) index text bytes = .ok cs) :
    ∃ k rest, bytes = UInt8.ofNat (k + 0x80) :: rest ∧ k < 64 ∧ low.toNat ≤ k + 0x80 ∧
      k + 0x80 ≤ high.toNat ∧
      match owed with
      | 0 => decodeFrom .start (index + taken + 1) (Char.ofNat (value * 64 + k) :: text) rest = .ok cs
      | owed + 1 =>
        decodeFrom (.inside (taken + 1) (value * 64 + k) owed 0x80 0xBF) index text rest = .ok cs := by
  cases bytes with
  | nil => cases h
  | cons b rest =>
    by_cases hb : low ≤ b ∧ b ≤ high
    · have hlow' := UInt8.le_iff_toNat_le.mp hb.1
      have hhigh' := UInt8.le_iff_toNat_le.mp hb.2
      obtain ⟨k, hk⟩ : ∃ k, b.toNat = k + 0x80 := ⟨b.toNat - 0x80, by omega⟩
      obtain rfl : b = UInt8.ofNat (k + 0x80) := by rw [← hk, UInt8.ofNat_toNat]
      have hstep : (State.inside taken value owed low high).step (UInt8.ofNat (k + 0x80)) = _ :=
        step_inside (by omega) (by omega) (by omega)
      refine ⟨k, rest, rfl, by omega, by omega, by omega, ?_⟩
      cases owed with
      | zero => rwa [decodeFrom_done hstep] at h
      | succ owed => rwa [decodeFrom_more hstep] at h
    · simp only [decodeFrom, State.step, if_neg hb] at h
      cases h

theorem encodeChar_ofNat {n : Nat} (hn : n.isValidChar) :
    String.utf8EncodeChar (Char.ofNat n) =
      if n ≤ 0x7F then [UInt8.ofNat n]
      else if n ≤ 0x7FF then [UInt8.ofNat (n / 64 % 32 + 0xC0), UInt8.ofNat (n % 64 + 0x80)]
      else if n ≤ 0xFFFF then
        [UInt8.ofNat (n / 4096 % 16 + 0xE0), UInt8.ofNat (n / 64 % 64 + 0x80),
          UInt8.ofNat (n % 64 + 0x80)]
      else
        [UInt8.ofNat (n / 262144 % 8 + 0xF0), UInt8.ofNat (n / 4096 % 64 + 0x80),
          UInt8.ofNat (n / 64 % 64 + 0x80), UInt8.ofNat (n % 64 + 0x80)] := by
  have hval : (Char.ofNat n).val.toNat = n := by
    have h := Char.toNat_ofNat n
    rwa [if_pos hn] at h
  rw [String.utf8EncodeChar, hval]

theorem encodeChar_two {v k : Nat} (hv : 2 ≤ v) (hv' : v < 32) (hk : k < 64) :
    String.utf8EncodeChar (Char.ofNat (v * 64 + k)) =
      [UInt8.ofNat (v + 0xC0), UInt8.ofNat (k + 0x80)] := by
  rw [encodeChar_ofNat (.inl (by omega)), if_neg (by omega), if_pos (by omega),
    show (v * 64 + k) / 64 % 32 = v by omega, show (v * 64 + k) % 64 = k by omega]

theorem encodeChar_three {v j k : Nat} (hv : v < 16) (hj : j < 64) (hk : k < 64)
    (hlow : v = 0 → 32 ≤ j) (hhigh : v = 0xD → j < 32) :
    String.utf8EncodeChar (Char.ofNat ((v * 64 + j) * 64 + k)) =
      [UInt8.ofNat (v + 0xE0), UInt8.ofNat (j + 0x80), UInt8.ofNat (k + 0x80)] := by
  have hvalid : ((v * 64 + j) * 64 + k).isValidChar := by
    unfold Nat.isValidChar
    omega
  rw [encodeChar_ofNat hvalid, if_neg (by omega), if_neg (by omega), if_pos (by omega),
    show ((v * 64 + j) * 64 + k) / 4096 % 16 = v by omega,
    show ((v * 64 + j) * 64 + k) / 64 % 64 = j by omega,
    show ((v * 64 + j) * 64 + k) % 64 = k by omega]

theorem encodeChar_four {v i j k : Nat} (hv : v < 5) (hi : i < 64) (hj : j < 64) (hk : k < 64)
    (hlow : v = 0 → 16 ≤ i) (hhigh : v = 4 → i < 16) :
    String.utf8EncodeChar (Char.ofNat (((v * 64 + i) * 64 + j) * 64 + k)) =
      [UInt8.ofNat (v + 0xF0), UInt8.ofNat (i + 0x80), UInt8.ofNat (j + 0x80),
        UInt8.ofNat (k + 0x80)] := by
  have hvalid : (((v * 64 + i) * 64 + j) * 64 + k).isValidChar := by
    unfold Nat.isValidChar
    omega
  rw [encodeChar_ofNat hvalid, if_neg (by omega), if_neg (by omega), if_neg (by omega),
    show (((v * 64 + i) * 64 + j) * 64 + k) / 262144 % 8 = v by omega,
    show (((v * 64 + i) * 64 + j) * 64 + k) / 4096 % 64 = i by omega,
    show (((v * 64 + i) * 64 + j) * 64 + k) / 64 % 64 = j by omega,
    show (((v * 64 + i) * 64 + j) * 64 + k) % 64 = k by omega]

/-- **A character that was read is written back as the bytes it was read from.** -/
theorem encodeChar_of_decodeFrom {index : Nat} {text cs : List Char} {b : UInt8} {rest : Bytes}
    (h : decodeFrom .start index text (b :: rest) = .ok cs) :
    ∃ c index' rest', String.utf8EncodeChar c ++ rest' = b :: rest ∧
      decodeFrom .start index' (c :: text) rest' = .ok cs := by
  obtain ⟨k, hk, rfl⟩ : ∃ k < 256, b = UInt8.ofNat k :=
    ⟨b.toNat, b.toNat_lt, (UInt8.ofNat_toNat).symm⟩
  have hlead : State.start.step (UInt8.ofNat k) = _ := lead_eq k hk
  -- one byte, a byte that begins nothing, then two to four bytes, and again nothing
  split at hlead
  · rw [decodeFrom_done hlead] at h
    refine ⟨Char.ofNat k, _, rest, ?_, h⟩
    rw [encodeChar_ofNat (.inl (by omega)), if_pos (by omega)]
    rfl
  split at hlead
  · rw [decodeFrom, hlead] at h
    cases h
  split at hlead
  · rw [decodeFrom_more hlead] at h
    obtain ⟨k₁, rest', rfl, hk₁, -, -, h⟩ := decodeFrom_inside (by decide) (by decide) h
    refine ⟨_, _, rest', ?_, h⟩
    rw [encodeChar_two (by omega) (by omega) hk₁, show k - 0xC0 + 0xC0 = k by omega]
    rfl
  split at hlead
  · rw [decodeFrom_more hlead] at h
    obtain ⟨k₁, _, rfl, hk₁, hlow, hhigh, h⟩ :=
      decodeFrom_inside (by split <;> decide) (by split <;> decide) h
    obtain ⟨k₂, rest', rfl, hk₂, -, -, h⟩ := decodeFrom_inside (by decide) (by decide) h
    refine ⟨_, _, rest', ?_, h⟩
    have hlow' : k - 0xE0 = 0 → 32 ≤ k₁ := by
      intro hv
      rw [if_pos (by omega)] at hlow
      change 0xA0 ≤ k₁ + 0x80 at hlow
      omega
    have hhigh' : k - 0xE0 = 0xD → k₁ < 32 := by
      intro hv
      rw [if_pos (by omega)] at hhigh
      change k₁ + 0x80 ≤ 0x9F at hhigh
      omega
    rw [encodeChar_three (by omega) hk₁ hk₂ hlow' hhigh', show k - 0xE0 + 0xE0 = k by omega]
    rfl
  split at hlead
  · rw [decodeFrom_more hlead] at h
    obtain ⟨k₁, _, rfl, hk₁, hlow, hhigh, h⟩ :=
      decodeFrom_inside (by split <;> decide) (by split <;> decide) h
    obtain ⟨k₂, _, rfl, hk₂, -, -, h⟩ := decodeFrom_inside (by decide) (by decide) h
    obtain ⟨k₃, rest', rfl, hk₃, -, -, h⟩ := decodeFrom_inside (by decide) (by decide) h
    refine ⟨_, _, rest', ?_, h⟩
    have hlow' : k - 0xF0 = 0 → 16 ≤ k₁ := by
      intro hv
      rw [if_pos (by omega)] at hlow
      change 0x90 ≤ k₁ + 0x80 at hlow
      omega
    have hhigh' : k - 0xF0 = 4 → k₁ < 16 := by
      intro hv
      rw [if_pos (by omega)] at hhigh
      change k₁ + 0x80 ≤ 0x8F at hhigh
      omega
    rw [encodeChar_four (by omega) hk₁ hk₂ hk₃ hlow' hhigh', show k - 0xF0 + 0xF0 = k by omega]
    rfl
  · rw [decodeFrom, hlead] at h
    cases h

theorem flatMap_encodeChar_of_decodeFrom {index : Nat} {text cs : List Char} {bytes : Bytes}
    (h : decodeFrom .start index text bytes = .ok cs) :
    ∃ read, cs = text.reverse ++ read ∧ read.flatMap String.utf8EncodeChar = bytes := by
  -- every character takes at least one byte
  induction hn : bytes.length using Nat.strong_induction_on generalizing index text bytes with
  | _ n ih =>
    cases bytes with
    | nil =>
      cases h
      exact ⟨[], by simp⟩
    | cons b rest =>
      obtain ⟨c, index', rest', hbytes, h'⟩ := encodeChar_of_decodeFrom h
      have hsize := c.utf8Size_pos
      have hlength := congrArg List.length hbytes
      rw [List.length_append, String.length_utf8EncodeChar] at hlength
      obtain ⟨read, rfl, hread⟩ := ih rest'.length (by omega) h' rfl
      exact ⟨c :: read, by simp, by rw [List.flatMap_cons, hread, hbytes]⟩

/-- **The bytes of a text that was read are the bytes it was read from.** -/
theorem encode_of_decode {bytes : Bytes} {s : String} (h : decode bytes = .ok s) :
    encode s = bytes := by
  rw [decode] at h
  cases hcs : decodeFrom .start 0 [] bytes with
  | error fault =>
    rw [hcs] at h
    cases h
  | ok cs =>
    rw [hcs] at h
    cases h
    obtain ⟨read, rfl, hread⟩ := flatMap_encodeChar_of_decodeFrom hcs
    rwa [encode, String.toList_ofList]

end SqlClient.Utf8
