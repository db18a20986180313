import SqlClient.Buffer
import SqlClient.Proofs.Outcome
import SqlClient.Proofs.Utf8RoundTrip

/-! # The canonical form of a value

A value that goes through a buffer comes out in the form its host type gives it: NULL for what
binds as NULL, and otherwise the integer, double, bytes or text that the value converts to.
`Value.canonical?` says which value that is, without any buffer.

The `encode_of_` lemmas say what becomes of a value whose conversion is known, and `encode_cases`
says all that an encoding can do.  From it follows `decode_of_encode`: decoding what was encoded
gives the canonical form.  A value is refused only because it does not convert or does not fit
(`encode_error`).

What an encoding depends on is small: of the buffer only its capacity counts
(`encode_eq_of_capacity_eq`), which it keeps (`capacity_of_encode`).
-/
namespace SqlClient

/-- **The canonical form** of a value under a host type. -/
def Value.canonical? (host : HostType) (v : Value) : Except Error Value :=
  if v.isNullInput then .ok .null
  else
    match host with
    | .int32 => v.toInt32?.map .int32
    | .int64 => v.toInt64?.map .int64
    | .double => v.toDouble?.map .double
    | .bytes | .blob => v.toBytes?.map .bytes
    | .decimal | .text | .clob => v.toText?.map .text

/-! ## Why a value is refused -/

/-- If this fails, then because a conversion does. -/
def FailsByConversion {α : Type} (x : Except Error α) : Prop :=
  ∀ e, x = .error e → ∃ fault, e = .conversion fault

namespace FailsByConversion

variable {α β : Type}

theorem ok (a : α) : FailsByConversion (.ok a) := fun _ h => nomatch h

theorem conversion (fault : ConversionFault) :
    FailsByConversion (.error (.conversion fault) : Except Error α) :=
  fun _ h => ⟨fault, (Except.error.inj h).symm⟩

theorem map {x : Except Error α} (hx : FailsByConversion x) (f : α → β) :
    FailsByConversion (x.map f) := by
  cases x with
  | ok a => exact ok (f a)
  | error e =>
    obtain ⟨fault, rfl⟩ := hx e rfl
    exact conversion fault

theorem bind {x : Except Error α} {f : α → Except Error β} (hx : FailsByConversion x)
    (hf : ∀ a, FailsByConversion (f a)) : FailsByConversion (x >>= f) := by
  cases x with
  | ok a => exact hf a
  | error e =>
    obtain ⟨fault, rfl⟩ := hx e rfl
    exact conversion fault

end FailsByConversion

namespace Value

open FailsByConversion

theorem toText?_fails (v : Value) : FailsByConversion v.toText? := by
  cases v with
  | bytes b =>
    rw [toText?]
    cases Utf8.decode b with
    | ok s => exact ok s
    | error fault => exact conversion _
  | lob ref => exact conversion _
  | _ => exact ok _

theorem toBytes?_fails (v : Value) : FailsByConversion v.toBytes? := by
  cases v with
  | lob ref => exact conversion _
  | _ => exact ok _

theorem readInteger_fails (s : String) (low high : Int) :
    FailsByConversion (readInteger s low high) := by
  unfold readInteger
  split
  · split
    · exact ok _
    · exact conversion _
  · exact conversion _

theorem readDouble_fails (s : String) : FailsByConversion (readDouble s) := by
  unfold readDouble
  split
  · exact ok _
  · exact conversion _

theorem toInt32?_fails (v : Value) : FailsByConversion v.toInt32? := by
  cases v with
  | int32 n => exact ok n
  | int64 n =>
    rw [toInt32?]
    split
    · exact ok _
    · exact conversion _
  | text s => exact (readInteger_fails s _ _).map _
  | bytes b =>
    exact (toText?_fails (bytes b)).bind fun s => (readInteger_fails s _ _).bind fun _ => ok _
  | _ => exact conversion _

theorem toInt64?_fails (v : Value) : FailsByConversion v.toInt64? := by
  cases v with
  | int32 n | int64 n => exact ok _
  | text s => exact (readInteger_fails s _ _).map _
  | bytes b =>
    exact (toText?_fails (bytes b)).bind fun s => (readInteger_fails s _ _).bind fun _ => ok _
  | _ => exact conversion _

theorem toDouble?_fails (v : Value) : FailsByConversion v.toDouble? := by
  cases v with
  | int32 n | int64 n | double d => exact ok _
  | text s => exact readDouble_fails s
  | bytes b => exact (toText?_fails (bytes b)).bind readDouble_fails
  | _ => exact conversion _

end Value

/-! ## Through a buffer -/

/-- Reading back what was written gives the number, up to the bytes there was room for. -/
theorem Bytes.toNat_ofNat (width n : Nat) : (ofNat width n).toNat = n % 256 ^ width := by
  induction width generalizing n with
  | zero => simp [ofNat, toNat, Nat.mod_one]
  | succ width ih =>
    calc (ofNat (width + 1) n).toNat
      _ = n % 256 + 256 * (n / 256 % 256 ^ width) := by simp [ofNat, toNat, ih]
      _ = n % (256 * 256 ^ width) := Nat.mod_mul.symm
      _ = n % 256 ^ (width + 1) := by rw [Nat.pow_succ']

theorem Value.canonical?_null (host : HostType) : Value.null.canonical? host = .ok .null := rfl

namespace Buffer

variable {b b' c : Buffer} {host : HostType} {v : Value}

/-! ## What is held is read back -/

theorem decode_setNull (b : Buffer) (host : HostType) : b.setNull.decode host = .ok .null := rfl

/-- The first bytes of a buffer that holds a scalar give its number. -/
theorem fixed?_of_content {width n : Nat} (h : b.content = Bytes.ofNat width n)
    (hn : n < 256 ^ width) : b.fixed? width = .ok n := by
  have htake : b.content.take width = Bytes.ofNat width n := by
    rw [h, List.take_of_length_le (by simp)]
  rw [fixed?, if_neg (by simp [h]), htake, Bytes.toNat_ofNat, Nat.mod_eq_of_lt hn]

theorem decode_putInt32 (b : Buffer) (n : Int32) :
    (b.putInt32 n).decode .int32 = .ok (.int32 n) := by
  have hfixed : (b.putInt32 n).fixed? 4 = .ok n.toUInt32.toNat :=
    fixed?_of_content rfl n.toUInt32.toNat_lt
  have hbytes : (b.putInt32 n).bytes? = some (Bytes.ofNat 4 n.toUInt32.toNat) := by
    simp [bytes?, isNull, putInt32, nullIndicator]
  rw [decode, hbytes]
  simp [int32?, hfixed, Except.map]

theorem decode_putInt64 (b : Buffer) (n : Int64) :
    (b.putInt64 n).decode .int64 = .ok (.int64 n) := by
  have hfixed : (b.putInt64 n).fixed? 8 = .ok n.toUInt64.toNat :=
    fixed?_of_content rfl n.toUInt64.toNat_lt
  have hbytes : (b.putInt64 n).bytes? = some (Bytes.ofNat 8 n.toUInt64.toNat) := by
    simp [bytes?, isNull, putInt64, nullIndicator]
  rw [decode, hbytes]
  simp [int64?, hfixed, Except.map]

theorem decode_putDouble (b : Buffer) (d : Binary64) :
    (b.putDouble d).decode .double = .ok (.double d) := by
  have hfixed : (b.putDouble d).fixed? 8 = .ok d.bits.toNat :=
    fixed?_of_content rfl d.bits.toNat_lt
  have hbytes : (b.putDouble d).bytes? = some (Bytes.ofNat 8 d.bits.toNat) := by
    simp [bytes?, isNull, putDouble, nullIndicator]
  rw [decode, hbytes]
  simp [double?, hfixed, Except.map]

/-- All that storing variable data can do. -/
theorem putBytes_eq_ok_iff {data : Bytes} : b.putBytes data = .ok b' ↔
    data.length ≤ b.capacity ∧ b' = { b with content := data, indicator := data.length } := by
  unfold putBytes
  constructor
  · intro h
    split at h
    · cases h
    · rename_i hfits
      exact ⟨Nat.not_lt.mp hfits, (Except.ok.inj h).symm⟩
  · rintro ⟨hfits, rfl⟩
    exact if_neg (Nat.not_lt.mpr hfits)

/-- Variable data is refused because it does not fit. -/
theorem putBytes_error {data : Bytes} {e : Error} (h : b.putBytes data = .error e) :
    e = .bufferTooSmall data.length b.capacity := by
  unfold putBytes at h
  split at h
  · exact (Except.error.inj h).symm
  · cases h

/-- Variable data that was accepted is held as it is, and is not NULL. -/
theorem bytes?_of_putBytes {data : Bytes} (h : b.putBytes data = .ok b') :
    b'.bytes? = some data := by
  obtain ⟨-, rfl⟩ := putBytes_eq_ok_iff.mp h
  have hnull : ((data.length : Int) == nullIndicator) = false := by
    rw [beq_eq_false_iff_ne]
    unfold nullIndicator
    omega
  simp [bytes?, isNull, hnull]

theorem decode_bytes_of_putBytes {data : Bytes} (hhost : host = .bytes ∨ host = .blob)
    (h : b.putBytes data = .ok b') : b'.decode host = .ok (.bytes data) := by
  rcases hhost with rfl | rfl <;> rw [decode, bytes?_of_putBytes h]

theorem decode_text_of_putBytes {s : String}
    (hhost : host = .decimal ∨ host = .text ∨ host = .clob)
    (h : b.putBytes (Utf8.encode s) = .ok b') : b'.decode host = .ok (.text s) := by
  rcases hhost with rfl | rfl | rfl <;>
    simp only [decode, bytes?_of_putBytes h, Utf8.decode_encode, Except.map, Except.mapError]

/-! ## How a value is encoded -/

theorem encode_of_isNullInput (hnull : v.isNullInput = true) (b : Buffer) (host : HostType) :
    b.encode host v = .ok b.setNull := if_pos hnull

theorem encode_of_toInt32? (hnull : v.isNullInput = false) {n : Int32}
    (hn : v.toInt32? = .ok n) (b : Buffer) : b.encode .int32 v = .ok (b.putInt32 n) := by
  simp only [encode, if_neg (Bool.eq_false_iff.mp hnull), hn]
  rfl

theorem encode_of_toInt64? (hnull : v.isNullInput = false) {n : Int64}
    (hn : v.toInt64? = .ok n) (b : Buffer) : b.encode .int64 v = .ok (b.putInt64 n) := by
  simp only [encode, if_neg (Bool.eq_false_iff.mp hnull), hn]
  rfl

theorem encode_of_toDouble? (hnull : v.isNullInput = false) {d : Binary64}
    (hd : v.toDouble? = .ok d) (b : Buffer) : b.encode .double v = .ok (b.putDouble d) := by
  simp only [encode, if_neg (Bool.eq_false_iff.mp hnull), hd]
  rfl

/-- Bytes are stored as they are. -/
theorem encode_of_toBytes? (hnull : v.isNullInput = false) {data : Bytes}
    (hhost : host = .bytes ∨ host = .blob) (hdata : v.toBytes? = .ok data) (b : Buffer) :
    b.encode host v = b.putBytes data := by
  unfold encode
  rw [if_neg (Bool.eq_false_iff.mp hnull)]
  rcases hhost with rfl | rfl <;> simp only [hdata] <;> rfl

/-- Of a text the bytes are stored. -/
theorem encode_of_toText? (hnull : v.isNullInput = false) {s : String}
    (hhost : host = .decimal ∨ host = .text ∨ host = .clob) (hs : v.toText? = .ok s)
    (b : Buffer) : b.encode host v = b.putBytes (Utf8.encode s) := by
  unfold encode
  rw [if_neg (Bool.eq_false_iff.mp hnull)]
  rcases hhost with rfl | rfl | rfl <;> simp only [hs] <;> rfl

/-- How a value that is not NULL gets into a buffer: it is converted as its host type wants. -/
inductive Written (b : Buffer) (v : Value) : HostType → Buffer → Prop
  | int32 {n : Int32} : v.toInt32? = .ok n → Written b v .int32 (b.putInt32 n)
  | int64 {n : Int64} : v.toInt64? = .ok n → Written b v .int64 (b.putInt64 n)
  | double {d : Binary64} : v.toDouble? = .ok d → Written b v .double (b.putDouble d)
  | bytes {host : HostType} {data : Bytes} {b' : Buffer} : host = .bytes ∨ host = .blob →
      v.toBytes? = .ok data → b.putBytes data = .ok b' → Written b v host b'
  | text {host : HostType} {s : String} {b' : Buffer} :
      host = .decimal ∨ host = .text ∨ host = .clob →
      v.toText? = .ok s → b.putBytes (Utf8.encode s) = .ok b' → Written b v host b'

/-- All that an encoding can do. -/
theorem encode_cases (h : b.encode host v = .ok b') :
    (v.isNullInput = true ∧ b' = b.setNull) ∨ (v.isNullInput = false ∧ Written b v host b') := by
  unfold encode at h
  split at h
  · rename_i hnull
    exact Or.inl ⟨hnull, (Except.ok.inj h).symm⟩
  · rename_i hnull
    refine Or.inr ⟨Bool.eq_false_iff.mpr hnull, ?_⟩
    cases host with
    | int32 =>
      obtain ⟨n, hn, rfl⟩ := map_eq_ok h
      exact .int32 hn
    | int64 =>
      obtain ⟨n, hn, rfl⟩ := map_eq_ok h
      exact .int64 hn
    | double =>
      obtain ⟨d, hd, rfl⟩ := map_eq_ok h
      exact .double hd
    | bytes | blob =>
      obtain ⟨data, hdata, hput⟩ := bind_eq_ok h
      exact .bytes (by decide) hdata hput
    | decimal | text | clob =>
      obtain ⟨s, hs, hput⟩ := bind_eq_ok h
      exact .text (by decide) hs hput

/-- **Decoding what was encoded gives the canonical form of the value.** -/
theorem decode_of_encode (h : b.encode host v = .ok b') :
    ∃ c, v.canonical? host = .ok c ∧ b'.decode host = .ok c := by
  unfold Value.canonical?
  rcases encode_cases h with ⟨hnull, rfl⟩ | ⟨hnull, hwritten⟩
  · exact ⟨.null, if_pos hnull, decode_setNull b host⟩
  · rw [if_neg (Bool.eq_false_iff.mp hnull)]
    cases hwritten with
    | @int32 n hn => exact ⟨.int32 n, by rw [hn, Except.map], decode_putInt32 b n⟩
    | @int64 n hn => exact ⟨.int64 n, by rw [hn, Except.map], decode_putInt64 b n⟩
    | @double d hd => exact ⟨.double d, by rw [hd, Except.map], decode_putDouble b d⟩
    | @bytes _ data _ hhost hdata hput =>
      refine ⟨.bytes data, ?_, decode_bytes_of_putBytes hhost hput⟩
      rcases hhost with rfl | rfl <;> simp only [hdata, Except.map]
    | @text _ s _ hhost hs hput =>
      refine ⟨.text s, ?_, decode_text_of_putBytes hhost hput⟩
      rcases hhost with rfl | rfl | rfl <;> simp only [hs, Except.map]

/-- A value is refused because it does not convert or does not fit. -/
theorem encode_error {e : Error} (h : b.encode host v = .error e) :
    (∃ fault, e = .conversion fault) ∨ ∃ needed, e = .bufferTooSmall needed b.capacity := by
  unfold encode at h
  split at h
  · cases h
  · cases host with
    | int32 => exact Or.inl ((v.toInt32?_fails).map _ e h)
    | int64 => exact Or.inl ((v.toInt64?_fails).map _ e h)
    | double => exact Or.inl ((v.toDouble?_fails).map _ e h)
    | bytes | blob =>
      rcases bind_eq_error h with hconvert | ⟨data, -, hdata⟩
      · exact Or.inl (v.toBytes?_fails e hconvert)
      · exact Or.inr ⟨data.length, putBytes_error hdata⟩
    | decimal | text | clob =>
      rcases bind_eq_error h with hconvert | ⟨s, -, hs⟩
      · exact Or.inl (v.toText?_fails e hconvert)
      · exact Or.inr ⟨_, putBytes_error hs⟩

/-! ## What an encoding depends on -/

theorem setNull_eq_of_capacity_eq (h : b.capacity = c.capacity) : b.setNull = c.setNull := by
  simp [setNull, h]

theorem putBytes_eq_of_capacity_eq (h : b.capacity = c.capacity) (data : Bytes) :
    b.putBytes data = c.putBytes data := by
  simp [putBytes, h]

/-- **Of the buffer only its capacity counts for an encoding.** -/
theorem encode_eq_of_capacity_eq (h : b.capacity = c.capacity) (host : HostType) (v : Value) :
    b.encode host v = c.encode host v := by
  have hint32 : b.putInt32 = c.putInt32 := by funext n; simp [putInt32, h]
  have hint64 : b.putInt64 = c.putInt64 := by funext n; simp [putInt64, h]
  have hdouble : b.putDouble = c.putDouble := by funext d; simp [putDouble, h]
  have hbytes : b.putBytes = c.putBytes := funext (putBytes_eq_of_capacity_eq h)
  unfold encode
  rw [setNull_eq_of_capacity_eq h, hint32, hint64, hdouble, hbytes]

theorem capacity_of_putBytes {data : Bytes} (h : b.putBytes data = .ok b') :
    b'.capacity = b.capacity := by
  obtain ⟨-, rfl⟩ := putBytes_eq_ok_iff.mp h
  rfl

/-- An encoding keeps the capacity of the buffer. -/
theorem capacity_of_encode (h : b.encode host v = .ok b') : b'.capacity = b.capacity := by
  rcases encode_cases h with ⟨-, rfl⟩ | ⟨-, hwritten⟩
  · rfl
  · cases hwritten with
    | int32 | int64 | double => rfl
    | bytes _ _ hput | text _ _ hput => exact capacity_of_putBytes hput

end Buffer
end SqlClient
