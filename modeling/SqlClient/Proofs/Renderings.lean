import SqlClient.Proofs.FittingValues

/-! # The renderings of a value

A value is rendered in three ways: as its text, if it has one, as the bytes of that text, and as
what is displayed for it, which there is always.  Three readings of bytes are involved: one that
refuses what is ill-formed, one that replaces it, and none at all.

Where the strict reader accepts, the lossy one goes the same way through the bytes
(`Utf8.decodeLossyFrom_of_decodeFrom`), and what was read is written back as it was
(`Utf8.decode_eq_ok_iff`).  So a byte string is displayed as it is exactly if it is well-formed
(`Utf8.encode_decodeLossy_iff`), and nothing distinguishes a text from the bytes it is encoded in
(`Value.convertsAlike_encode`).
-/
namespace SqlClient

namespace Utf8

variable {bytes : Bytes} {s : String}

/-! ## Bytes that encode a text -/

/-- The bytes of some text. -/
def WellFormed (bytes : Bytes) : Prop := ∃ s, encode s = bytes

/-- The strict reader accepts the bytes of a text, and gives this text. -/
theorem decode_eq_ok_iff : decode bytes = .ok s ↔ encode s = bytes := by
  constructor
  · exact encode_of_decode
  · rintro rfl
    exact decode_encode s

/-- It refuses everything else. -/
theorem decode_eq_error_iff : (∃ fault, decode bytes = .error fault) ↔ ¬ WellFormed bytes := by
  constructor
  · rintro ⟨fault, hfault⟩ ⟨s, hs⟩
    cases hfault.symm.trans (decode_eq_ok_iff.mpr hs)
  · intro hill
    cases hdecode : decode bytes with
    | ok s => exact absurd ⟨s, decode_eq_ok_iff.mp hdecode⟩ hill
    | error fault => exact ⟨fault, rfl⟩

/-! ## Reading without refusing -/

theorem decodeLossyFrom_done {state : State} {b : UInt8} {c : Char} (h : state.step b = .done c)
    (text : List Char) (rest : Bytes) :
    decodeLossyFrom state text (b :: rest) = decodeLossyFrom .start (c :: text) rest := by
  rw [decodeLossyFrom.eq_def]
  simp only [h]

theorem decodeLossyFrom_more {state next : State} {b : UInt8} (h : state.step b = .more next)
    (text : List Char) (rest : Bytes) :
    decodeLossyFrom state text (b :: rest) = decodeLossyFrom next text rest := by
  rw [decodeLossyFrom.eq_def]
  simp only [h]

/-- **Where the strict reader comes to the end, the lossy one goes the same way.** -/
theorem decodeLossyFrom_of_decodeFrom {state : State} {index : Nat} {text cs : List Char}
    (h : decodeFrom state index text bytes = .ok cs) : decodeLossyFrom state text bytes = cs := by
  induction bytes generalizing state index text with
  | nil =>
    cases state with
    | start => exact Except.ok.inj h
    | inside => cases h
  | cons b rest ih =>
    cases hstep : state.step b with
    | done c =>
      rw [decodeFrom_done hstep] at h
      rw [decodeLossyFrom_done hstep]
      exact ih h
    | more next =>
      rw [decodeFrom_more hstep] at h
      rw [decodeLossyFrom_more hstep]
      exact ih h
    | refused =>
      rw [decodeFrom, hstep] at h
      cases h

theorem decodeLossy_encode (s : String) : decodeLossy (encode s) = s := by
  have hread := decodeFrom_flatMap_encodeChar s.toList 0 []
  rw [decodeLossy, encode, decodeLossyFrom_of_decodeFrom hread, List.reverse_nil, List.nil_append,
    String.ofList_toList]

/-- **Lossy reading loses nothing exactly if there is nothing to replace.** -/
theorem encode_decodeLossy_iff : encode (decodeLossy bytes) = bytes ↔ WellFormed bytes := by
  constructor
  · exact fun h => ⟨_, h⟩
  · rintro ⟨s, rfl⟩
    rw [decodeLossy_encode]

end Utf8

namespace Value

variable {v : Value}

/-! ## Text, bytes, and what is displayed -/

/-- **How the renderings of a value agree.** -/
structure RendersAlike (v : Value) : Prop where
  /-- There is a text unless the value is a byte string that encodes none. -/
  toText?_fails_iff : (∃ e, v.toText? = .error e) ↔ ∃ b, v = .bytes b ∧ ¬ Utf8.WellFormed b
  /-- The text is displayed, and its bytes are the bytes of the value. -/
  toText?_ok : ∀ t, v.toText? = .ok t → v.display = t ∧ v.toBytes? = .ok (Utf8.encode t)
  toBytes?_ok : ∃ data, v.toBytes? = .ok data
  /-- The bytes of a byte string are its own. -/
  toBytes?_own : ∀ b, v = .bytes b → v.toBytes? = .ok b

/-- A byte string has no text if it is ill-formed. -/
theorem toText?_bytes_fails_iff {b : Bytes} :
    (∃ e, (bytes b).toText? = .error e) ↔ ¬ Utf8.WellFormed b := by
  rw [← Utf8.decode_eq_error_iff]
  constructor
  · rintro ⟨e, he⟩
    cases hdecode : Utf8.decode b with
    | ok s => cases he.symm.trans (toText?_of_decode hdecode)
    | error fault => exact ⟨fault, rfl⟩
  · rintro ⟨fault, hfault⟩
    rw [toText?, hfault]
    exact ⟨_, rfl⟩

theorem rendersAlike_bytes (b : Bytes) : (bytes b).RendersAlike where
  toText?_fails_iff := by
    rw [toText?_bytes_fails_iff]
    simp
  toText?_ok := by
    intro t ht
    have hencode := Utf8.encode_of_decode (decode_of_toText? ht)
    subst hencode
    exact ⟨Utf8.decodeLossy_encode t, rfl⟩
  toBytes?_ok := ⟨b, rfl⟩
  toBytes?_own := by
    rintro _ ⟨⟩
    rfl

/-- Any other value but a large object has the text that is displayed for it, and its bytes. -/
theorem rendersAlike_of_display (hbytes : v.bytes? = none) (htext : v.toText? = .ok v.display)
    (hdata : v.toBytes? = .ok (Utf8.encode v.display)) : v.RendersAlike where
  toText?_fails_iff := by
    constructor
    · rintro ⟨e, he⟩
      cases htext.symm.trans he
    · rintro ⟨b, rfl, -⟩
      cases hbytes
  toText?_ok := by
    intro t ht
    obtain rfl : v.display = t := Except.ok.inj (htext.symm.trans ht)
    exact ⟨rfl, hdata⟩
  toBytes?_ok := ⟨_, hdata⟩
  toBytes?_own := by
    rintro b rfl
    cases hbytes

/-! ## A text and its bytes -/

/-- Two values that no conversion tells apart, not even by how it fails. -/
structure ConvertsAlike (v w : Value) : Prop where
  toInt32? : v.toInt32? = w.toInt32?
  toInt64? : v.toInt64? = w.toInt64?
  toDouble? : v.toDouble? = w.toDouble?
  toText? : v.toText? = w.toText?
  toBytes? : v.toBytes? = w.toBytes?

/-- **A text and the bytes it is encoded in are converted alike.** -/
theorem convertsAlike_encode (s : String) : (text s).ConvertsAlike (bytes (Utf8.encode s)) := by
  have htext : (bytes (Utf8.encode s)).toText? = .ok s := toText?_of_decode (Utf8.decode_encode s)
  have hmap {α : Type} (f : Int → α) (x : Except Error Int) :
      x.map f = (do return f (← x) : Except Error α) := by
    cases x <;> rfl
  refine ⟨?_, ?_, ?_, htext.symm, rfl⟩
  · rw [Value.toInt32?, Value.toInt32?, htext]
    exact hmap _ _
  · rw [Value.toInt64?, Value.toInt64?, htext]
    exact hmap _ _
  · rw [Value.toDouble?, Value.toDouble?, htext]
    rfl

/-- **The renderings of a value agree.**  A value that is no large object has a text unless it is an
ill-formed byte string, and it has bytes in any case; if there is a text, it is what is displayed
and what the bytes encode.  So a byte string is displayed as it is if it is well-formed, and no
conversion tells it from the text it encodes. -/
theorem renderings_agree :
    (∀ v : Value, v.lob? = none → v.RendersAlike) ∧
    (∀ b : Bytes, Utf8.WellFormed b → Utf8.encode (bytes b).display = b) ∧
    ∀ s : String, (text s).ConvertsAlike (bytes (Utf8.encode s)) := by
  refine ⟨fun v hlob => ?_, fun b => Utf8.encode_decodeLossy_iff.mpr, convertsAlike_encode⟩
  cases v with
  | lob ref => cases hlob
  | bytes b => exact rendersAlike_bytes b
  | _ => exact rendersAlike_of_display rfl rfl rfl

/-- Bytes of a text with characters of two and four bytes, and bytes that end inside of one. -/
theorem renderings_agree_cut :
    let whole := Utf8.encode "é😀"
    let cut := whole.take 5
    (bytes whole).display = "é😀" ∧ (∃ e, (bytes cut).toText? = .error e) ∧
      (bytes cut).toBytes? = .ok cut := by
  intro whole cut
  obtain ⟨hrender, hdisplay, halike⟩ := renderings_agree
  have hwhole : (bytes whole).toText? = .ok "é😀" := (halike "é😀").toText?.symm
  have hcut : ¬ Utf8.WellFormed cut := Utf8.decode_eq_error_iff.mp ⟨.incomplete 2, by decide⟩
  exact ⟨((hrender _ rfl).toText?_ok _ hwhole).1,
    (hrender (bytes cut) rfl).toText?_fails_iff.mpr ⟨cut, rfl, hcut⟩,
    (hrender (bytes cut) rfl).toBytes?_own cut rfl⟩

end Value
end SqlClient
