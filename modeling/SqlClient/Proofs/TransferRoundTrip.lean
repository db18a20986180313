import SqlClient.Proofs.BufferIndicator

/-! # Encoding and decoding undo each other

Under a host type a value that is not NULL becomes another value, carried in some number of bytes
(`Value.Becomes`), or it does not convert.  Nothing else decides about an encoding but the capacity:
`encode_of_becomes`, `encode_of_long` and `encode_of_not_becomes` say of every value what comes of
it, and `restores` that decoding gives back what the value becomes.

In the other direction a decoded value is encoded as it was, in any buffer of the same capacity
(`reencode`).  There is one exception.  A text without characters binds as NULL, but a byte string
without bytes is written as such a text; when it is read it is a text, and the next encoding makes
it NULL.  After that nothing changes any more (`reproduces`).
-/
namespace SqlClient

/-! ## Values without a text -/

namespace Value

variable {v : Value}

theorem isNullInput_iff : v.isNullInput = true ↔ v = .null ∨ v = .text "" := by
  cases v <;> simp [isNullInput]

theorem isNullInput_eq_false_iff : v.isNullInput = false ↔ v ≠ .null ∧ v ≠ .text "" := by
  rw [← Bool.not_eq_true, isNullInput_iff, not_or]

end Value

theorem Decimal.positional_ne_empty (d : Decimal) : d.positional ≠ "" := by
  unfold positional
  simp only
  split
  · simp [String.ofList_eq_empty_iff]
  · simp

/-- A double is always written with something. -/
theorem Binary64.text_ne_empty (d : Binary64) : d.text ≠ "" := by
  unfold text
  simp only
  -- not a number, negative, an infinity, and a finite number with or without a fraction
  repeat' split
  all_goals simp [Decimal.positional_ne_empty]

theorem toString_int_ne_empty (n : Int) : toString n ≠ "" := by
  intro h
  have hlength := congrArg String.length h
  rw [Int.toString_eq_repr, Int.repr_eq_if] at hlength
  split at hlength <;> simp at hlength

/-- **A text without characters comes from no bytes**, if not from NULL or an empty text. -/
theorem Value.eq_of_toText?_empty {v : Value} (hnull : v.isNullInput = false)
    (h : v.toText? = .ok "") : v = .bytes [] := by
  cases v with
  | null => cases hnull
  | text s =>
    cases h
    cases hnull
  | int32 n => exact absurd (Except.ok.inj h) (toString_int_ne_empty n.toInt)
  | int64 n => exact absurd (Except.ok.inj h) (toString_int_ne_empty n.toInt)
  | double d => exact absurd (Except.ok.inj h) d.text_ne_empty
  | bytes b =>
    rw [toText?] at h
    cases hdecode : Utf8.decode b with
    | error fault =>
      rw [hdecode] at h
      cases h
    | ok s =>
      rw [hdecode] at h
      cases h
      rw [← Utf8.encode_of_decode hdecode]
      rfl
  | lob ref => cases h

/-! ## What a value becomes -/

/-- **What a value that is not NULL becomes** under a host type: another value, carried in so many
bytes. -/
inductive Value.Becomes (v : Value) : HostType → Value → Nat → Prop where
  | int32 {n : Int32} : v.toInt32? = .ok n → Becomes v .int32 (.int32 n) 4
  | int64 {n : Int64} : v.toInt64? = .ok n → Becomes v .int64 (.int64 n) 8
  | double {d : Binary64} : v.toDouble? = .ok d → Becomes v .double (.double d) 8
  | bytes {host : HostType} {data : Bytes} : host = .bytes ∨ host = .blob →
      v.toBytes? = .ok data → Becomes v host (.bytes data) data.length
  | text {host : HostType} {s : String} : host = .decimal ∨ host = .text ∨ host = .clob →
      v.toText? = .ok s → Becomes v host (.text s) (Utf8.encode s).length

/-- A value becomes one value under a host type. -/
theorem Value.Becomes.unique {v u u' : Value} {host : HostType} {n n' : Nat}
    (h : v.Becomes host u n) (h' : v.Becomes host u' n') : u = u' ∧ n = n' := by
  cases h <;> cases h' <;> grind

namespace Buffer

variable {b b' c : Buffer} {host : HostType} {u v : Value} {n : Nat}

/-- The buffer holds `n` bytes, from which `u` is read. -/
structure Holds (b : Buffer) (host : HostType) (u : Value) (n : Nat) : Prop where
  decode : b.decode host = .ok u
  indicator : b.indicator = n
  length : b.content.length = n

theorem holds_putInt32 (b : Buffer) (n : Int32) : (b.putInt32 n).Holds .int32 (.int32 n) 4 :=
  ⟨decode_putInt32 b n, rfl, Bytes.length_ofNat 4 _⟩

theorem holds_putInt64 (b : Buffer) (n : Int64) : (b.putInt64 n).Holds .int64 (.int64 n) 8 :=
  ⟨decode_putInt64 b n, rfl, Bytes.length_ofNat 8 _⟩

theorem holds_putDouble (b : Buffer) (d : Binary64) : (b.putDouble d).Holds .double (.double d) 8 :=
  ⟨decode_putDouble b d, rfl, Bytes.length_ofNat 8 _⟩

theorem holds_of_putBytes {data : Bytes} (h : b.putBytes data = .ok b')
    (hdecode : b'.decode host = .ok u) : b'.Holds host u data.length := by
  obtain ⟨-, rfl⟩ := putBytes_eq_ok_iff.mp h
  exact ⟨hdecode, rfl, rfl⟩

/-! ## Decoding undoes encoding -/

/-- What was written is what the value becomes. -/
theorem Written.holds (h : Written b v host b') :
    ∃ u n, v.Becomes host u n ∧ b'.Holds host u n := by
  cases h with
  | int32 hn => exact ⟨_, _, .int32 hn, b.holds_putInt32 _⟩
  | int64 hn => exact ⟨_, _, .int64 hn, b.holds_putInt64 _⟩
  | double hd => exact ⟨_, _, .double hd, b.holds_putDouble _⟩
  | bytes hhost hdata hput =>
    exact ⟨_, _, .bytes hhost hdata, holds_of_putBytes hput (decode_bytes_of_putBytes hhost hput)⟩
  | text hhost hs hput =>
    exact ⟨_, _, .text hhost hs, holds_of_putBytes hput (decode_text_of_putBytes hhost hput)⟩

theorem holds_of_encode (hnull : v.isNullInput = false) (h : b.encode host v = .ok b') :
    ∃ u n, v.Becomes host u n ∧ b'.Holds host u n := by
  rcases encode_cases h with ⟨hinput, -⟩ | ⟨-, hwritten⟩
  · cases hnull.symm.trans hinput
  · exact hwritten.holds

theorem putBytes_of_le {data : Bytes} (hfits : data.length ≤ b.capacity) :
    ∃ b', b.putBytes data = .ok b' :=
  ⟨_, putBytes_eq_ok_iff.mpr ⟨hfits, rfl⟩⟩

/-- **A value that converts is accepted**, if its variable-length form fits. -/
theorem encode_of_becomes (hnull : v.isNullInput = false) (h : v.Becomes host u n)
    (hfits : host.fixedSize? = none → n ≤ b.capacity) : ∃ b', b.encode host v = .ok b' := by
  cases h with
  | int32 hn => exact ⟨_, encode_of_toInt32? hnull hn b⟩
  | int64 hn => exact ⟨_, encode_of_toInt64? hnull hn b⟩
  | double hd => exact ⟨_, encode_of_toDouble? hnull hd b⟩
  | bytes hhost hdata =>
    rw [encode_of_toBytes? hnull hhost hdata]
    exact putBytes_of_le (hfits (by rcases hhost with rfl | rfl <;> rfl))
  | text hhost hs =>
    rw [encode_of_toText? hnull hhost hs]
    exact putBytes_of_le (hfits (by rcases hhost with rfl | rfl | rfl <;> rfl))

/-- **A variable-length form that is too long is refused.** -/
theorem encode_of_long (hnull : v.isNullInput = false) (h : v.Becomes host u n)
    (hvariable : host.fixedSize? = none) (hlong : b.capacity < n) :
    b.encode host v = .error (.bufferTooSmall n b.capacity) := by
  cases h with
  | int32 | int64 | double => cases hvariable
  | bytes hhost hdata => exact (encode_of_toBytes? hnull hhost hdata b).trans (if_pos hlong)
  | text hhost hs => exact (encode_of_toText? hnull hhost hs b).trans (if_pos hlong)

/-- A value that does not convert is refused. -/
theorem encode_of_not_becomes (hnull : v.isNullInput = false) (hnone : ∀ u n, ¬ v.Becomes host u n)
    (b : Buffer) : ∃ e, b.encode host v = .error e := by
  cases hencode : b.encode host v with
  | error e => exact ⟨e, rfl⟩
  | ok b' =>
    obtain ⟨u, n, hbecomes, -⟩ := holds_of_encode hnull hencode
    exact absurd hbecomes (hnone u n)

/-- NULL is never refused. -/
theorem isNullInput_of_encode_error {e : Error} (h : b.encode host v = .error e) :
    v.isNullInput = false := by
  by_contra hinput
  cases (encode_of_isNullInput (Bool.not_eq_false _ ▸ hinput) b host).symm.trans h

/-- **What is refused does not convert, or is too long.** -/
theorem misfit_of_encode_error {e : Error} (h : b.encode host v = .error e) :
    (∀ u n, ¬ v.Becomes host u n) ∨
      host.fixedSize? = none ∧ ∃ u n, v.Becomes host u n ∧ b.capacity < n := by
  by_cases hbecomes : ∃ u n, v.Becomes host u n
  · obtain ⟨u, n, hbecomes⟩ := hbecomes
    refine .inr ?_
    by_contra hfits
    have hroom : host.fixedSize? = none → n ≤ b.capacity := fun hvariable =>
      Nat.not_lt.mp fun hlong => hfits ⟨hvariable, u, n, hbecomes, hlong⟩
    obtain ⟨b', hencode⟩ := encode_of_becomes (isNullInput_of_encode_error h) hbecomes hroom
    cases hencode.symm.trans h
  · exact .inl fun u n h => hbecomes ⟨u, n, h⟩

/-- **What comes of a value** that is encoded in a buffer and decoded again. -/
structure Restores (b : Buffer) (host : HostType) (v : Value) : Prop where
  /-- NULL and an empty text are always accepted, and read as NULL. -/
  null : v = .null ∨ v = .text "" →
    ∃ b', b.encode host v = .ok b' ∧ b'.decode host = .ok .null ∧ b'.indicator = -1
  /-- Any other value that is accepted is read as what it becomes, and the indicator is the number
  of its bytes. -/
  value : v ≠ .null → v ≠ .text "" → ∀ b', b.encode host v = .ok b' →
    ∃ u n, v.Becomes host u n ∧ b'.decode host = .ok u ∧ b'.indicator = n ∧ b'.content.length = n
  /-- A value is refused if it does not convert, or its variable-length form is too long. -/
  refused_iff : (∃ e, b.encode host v = .error e) ↔ (v ≠ .null ∧ v ≠ .text "") ∧
    ((∀ u n, ¬ v.Becomes host u n) ∨
      host.fixedSize? = none ∧ ∃ u n, v.Becomes host u n ∧ b.capacity < n)

/-- **Decoding undoes encoding**, in every buffer, under every host type and for every value. -/
theorem restores (b : Buffer) (host : HostType) (v : Value) : b.Restores host v where
  null := fun hv =>
    ⟨b.setNull, encode_of_isNullInput (Value.isNullInput_iff.mpr hv) b host,
      decode_setNull b host, rfl⟩
  value := by
    intro hv hv' b' hencode
    obtain ⟨u, n, hbecomes, hholds⟩ :=
      holds_of_encode (Value.isNullInput_eq_false_iff.mpr ⟨hv, hv'⟩) hencode
    exact ⟨u, n, hbecomes, hholds.decode, hholds.indicator, hholds.length⟩
  refused_iff := by
    rw [← Value.isNullInput_eq_false_iff]
    constructor
    · rintro ⟨e, hrefused⟩
      exact ⟨isNullInput_of_encode_error hrefused, misfit_of_encode_error hrefused⟩
    · rintro ⟨hnull, hnone | ⟨hvariable, u, n, hbecomes, hlong⟩⟩
      · exact encode_of_not_becomes hnull hnone b
      · exact ⟨_, encode_of_long hnull hbecomes hvariable hlong⟩

/-- A number is not checked against the capacity. -/
example : ((new 0).encode .int64 (.int32 (-2))).bind (·.decode .int64) = .ok (.int64 (-2)) := by
  decide

/-! ## Encoding undoes decoding -/

/-- The buffer holds a text without characters, and not NULL. -/
def HoldsEmptyText (b : Buffer) (host : HostType) : Prop :=
  host.isText = true ∧ b.isNull = false ∧ b.content = []

theorem content_of_putBytes {data : Bytes} (h : b.putBytes data = .ok b') : b'.content = data := by
  obtain ⟨-, rfl⟩ := putBytes_eq_ok_iff.mp h
  rfl

theorem isNull_of_putBytes {data : Bytes} (h : b.putBytes data = .ok b') : b'.isNull = false := by
  have hbytes := bytes?_of_putBytes h
  unfold bytes? at hbytes
  split at hbytes
  · cases hbytes
  · rename_i hnull
    exact Bool.eq_false_of_not_eq_true hnull

/-- A text has no bytes if it has no characters. -/
theorem encode_text_eq_nil_iff {s : String} : Utf8.encode s = [] ↔ s = "" := by
  constructor
  · intro h
    have hdecode := Utf8.decode_encode s
    rw [h] at hdecode
    exact (Except.ok.inj hdecode).symm
  · rintro rfl
    rfl

/-- Only a byte string without bytes is written as an empty text. -/
theorem Written.holdsEmptyText_iff (hnull : v.isNullInput = false) (h : Written b v host b') :
    b'.HoldsEmptyText host ↔ host.isText = true ∧ v = .bytes [] := by
  refine and_congr_right fun htext => ?_
  cases h with
  | int32 | int64 | double => cases htext
  | bytes hhost => rcases hhost with rfl | rfl <;> cases htext
  | @text _ s _ hhost hs hput =>
    rw [isNull_of_putBytes hput, content_of_putBytes hput, encode_text_eq_nil_iff]
    constructor
    · rintro ⟨-, rfl⟩
      exact Value.eq_of_toText?_empty hnull hs
    · rintro rfl
      exact ⟨rfl, (Except.ok.inj hs).symm⟩

/-- **What was written is written again** by encoding the value that is read, unless that is an
empty text, which makes NULL. -/
theorem Written.reencode (h : Written b v host b') :
    ∃ u, b'.decode host = .ok u ∧
      (¬ b'.HoldsEmptyText host → b.encode host u = .ok b') ∧
      (b'.HoldsEmptyText host → b.encode host u = .ok b'.setNull) := by
  have hother (hhost : host.isText = false) : ¬ b'.HoldsEmptyText host := fun hempty => by
    cases hhost.symm.trans hempty.1
  cases h with
  | int32 => exact ⟨_, decode_putInt32 b _, fun _ => rfl, fun hempty => absurd hempty (hother rfl)⟩
  | int64 => exact ⟨_, decode_putInt64 b _, fun _ => rfl, fun hempty => absurd hempty (hother rfl)⟩
  | double =>
    exact ⟨_, decode_putDouble b _, fun _ => rfl, fun hempty => absurd hempty (hother rfl)⟩
  | bytes hhost hdata hput =>
    refine ⟨_, decode_bytes_of_putBytes hhost hput, fun _ => ?_, fun hempty => ?_⟩
    · exact (encode_of_toBytes? rfl hhost rfl b).trans hput
    · exact absurd hempty (hother (by rcases hhost with rfl | rfl <;> rfl))
  | @text _ s _ hhost hs hput =>
    have htext : host.isText = true := by rcases hhost with rfl | rfl | rfl <;> rfl
    have hempty_iff : b'.HoldsEmptyText host ↔ s = "" := by
      rw [HoldsEmptyText, isNull_of_putBytes hput, content_of_putBytes hput,
        encode_text_eq_nil_iff]
      exact ⟨fun h => h.2.2, fun h => ⟨htext, rfl, h⟩⟩
    refine ⟨_, decode_text_of_putBytes hhost hput, fun hempty => ?_, fun hempty => ?_⟩
    · have hnull : (Value.text s).isNullInput = false :=
        Value.isNullInput_eq_false_iff.mpr
          ⟨by simp, fun h => hempty (hempty_iff.mpr (Value.text.inj h))⟩
      exact (encode_of_toText? hnull hhost rfl b).trans hput
    · obtain rfl := hempty_iff.mp hempty
      rw [setNull_eq_of_capacity_eq (capacity_of_putBytes hput)]
      exact encode_of_isNullInput rfl b host

/-- The same for anything that was encoded: NULL is written again, too. -/
theorem reencode (h : b.encode host v = .ok b') :
    ∃ u, b'.decode host = .ok u ∧
      (¬ b'.HoldsEmptyText host → b.encode host u = .ok b') ∧
      (b'.HoldsEmptyText host → b.encode host u = .ok b'.setNull) := by
  rcases encode_cases h with ⟨-, rfl⟩ | ⟨-, hwritten⟩
  · exact ⟨.null, decode_setNull b host, fun _ => rfl, fun _ => rfl⟩
  · exact hwritten.reencode

theorem holdsEmptyText_iff (h : b.encode host v = .ok b') :
    b'.HoldsEmptyText host ↔ host.isText = true ∧ v = .bytes [] := by
  rcases encode_cases h with ⟨hnull, rfl⟩ | ⟨hnull, hwritten⟩
  · refine iff_of_false (fun hempty => ?_) ?_
    · cases hempty.2.1
    · rintro ⟨-, rfl⟩
      cases hnull
  · exact hwritten.holdsEmptyText_iff hnull

/-! ## Rounds -/

/-- The buffer after its value was read and encoded again. -/
def round (b : Buffer) (host : HostType) : Except Error Buffer :=
  (b.decode host).bind (b.encode host)

/-- The buffer after a number of rounds. -/
def rounds (host : HostType) : Nat → Buffer → Except Error Buffer
  | 0, b => .ok b
  | n + 1, b => (b.round host).bind (rounds host n)

/-- A buffer that a round leaves as it is stays so. -/
theorem rounds_of_fixed (h : b.round host = .ok b) (n : Nat) : rounds host n b = .ok b := by
  induction n with
  | zero => rfl
  | succ n ih =>
    rw [rounds, h]
    exact ih

theorem round_setNull (b : Buffer) (host : HostType) : b.setNull.round host = .ok b.setNull := rfl

/-- **After one round nothing changes any more.** -/
theorem exists_rounds (h : b.encode host v = .ok b') :
    ∃ settled, ∀ n, rounds host (n + 1) b' = .ok settled := by
  obtain ⟨u, hdecode, hkept, hempty⟩ := reencode h
  have hround : b'.round host = b.encode host u := by
    rw [round, hdecode]
    exact encode_eq_of_capacity_eq (capacity_of_encode h) host u
  by_cases hholds : b'.HoldsEmptyText host
  · refine ⟨b'.setNull, fun n => ?_⟩
    rw [rounds, hround, hempty hholds]
    exact rounds_of_fixed (round_setNull b' host) n
  · exact ⟨b', fun n => rounds_of_fixed (hround.trans (hkept hholds)) (n + 1)⟩

/-- **What comes of a buffer** whose value is decoded and encoded again; the value was made by
encoding `v`. -/
structure Reproduces (host : HostType) (v : Value) (b : Buffer) : Prop where
  /-- In every buffer of the same capacity the same bytes are stored, under the same indicator, but
  a text without characters becomes NULL. -/
  again : ∀ c : Buffer, c.capacity = b.capacity → ∃ u c',
    b.decode host = .ok u ∧ c.encode host u = .ok c' ∧
      (¬ b.HoldsEmptyText host → c'.content = b.content ∧ c'.indicator = b.indicator) ∧
      (b.HoldsEmptyText host → c'.content = [] ∧ c'.indicator = -1)
  /-- A text without characters comes from a byte string without bytes only. -/
  empty_iff : b.HoldsEmptyText host ↔ host.isText = true ∧ v = .bytes []
  /-- From the second round on nothing changes. -/
  settled : ∃ settled, ∀ n, rounds host (n + 1) b = .ok settled

/-- **Encoding undoes decoding** in every buffer that was written under the same host type, up to
texts without characters. -/
theorem reproduces (h : b.encode host v = .ok b') : b'.Reproduces host v where
  again := by
    intro c hcapacity
    obtain ⟨u, hdecode, hkept, hempty⟩ := reencode h
    rw [encode_eq_of_capacity_eq (hcapacity.trans (capacity_of_encode h)).symm] at hkept hempty
    by_cases hholds : b'.HoldsEmptyText host
    · exact ⟨u, b'.setNull, hdecode, hempty hholds, fun h => absurd hholds h, fun _ => ⟨rfl, rfl⟩⟩
    · exact ⟨u, b', hdecode, hkept hholds, fun _ => ⟨rfl, rfl⟩, fun h => absurd h hholds⟩
  empty_iff := holdsEmptyText_iff h
  settled := exists_rounds h

/-- A number under a text type is stored as its digits; they are read as a text, and stored again as
the same bytes.  A byte string without bytes is a text without characters, and then NULL. -/
theorem reproduces_text :
    (∃ b, (new 4).encode .text (.int32 (-75)) = .ok b ∧ b.Reproduces .text (.int32 (-75)) ∧
      b.content = Utf8.encode "-75" ∧ ¬ b.HoldsEmptyText .text ∧
      b.decode .text = .ok (.text "-75") ∧ b.round .text = .ok b) ∧
    (new 4).encode .text (.bytes []) = .ok (new 4) ∧ (new 4).Reproduces .text (.bytes []) ∧
      (new 4).HoldsEmptyText .text ∧ (new 4).round .text = .ok (new 4).setNull := by
  have hnumber : (new 4).encode .text (.int32 (-75)) =
      .ok { new 4 with content := Utf8.encode "-75", indicator := 3 } := by rfl
  have hempty : (new 4).encode .text (.bytes []) = .ok (new 4) := by rfl
  refine ⟨⟨_, hnumber, reproduces hnumber, rfl, fun hholds => ?_, by rfl, by rfl⟩,
    hempty, reproduces hempty, ⟨rfl, rfl, rfl⟩, by rfl⟩
  cases (holdsEmptyText_iff hnumber).mp hholds |>.2

end Buffer
end SqlClient
