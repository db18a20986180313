import SqlClient.Proofs.DecimalTexts
import SqlClient.Proofs.DeclaredMaxima
import SqlClient.Proofs.TransferRoundTrip

/-! # Values that fit their declaration

A parameter declares how large its values may be: a number by its precision, a text by its number
of characters.  A value within that is transferred without loss.

An integer of a precision fits the host type that this precision is given (`Value.Gives.becomes`):
32 bits hold nine digits, 64 bits hold fifteen, and a decimal text has four bytes for each digit
that is declared, where one is needed, and another for its sign and its point.  A text has four
bytes for each character, which is the most that one takes.

What a parameter was used for before has no influence, so it *conveys* a value if it does so when
it is new (`Parameter.conveys_of_becomes`).
-/
namespace SqlClient

/-! ## Integers of some precision -/

namespace Value

variable {v : Value} {precision n : Int}

/-- **The values that stand for the integer `n`** where an integer of some precision is wanted.
Only where it is read as a number, its text may have white space around it and a plus sign. -/
inductive Gives (precision n : Int) : Value → Prop where
  | int32 {m : Int32} : m.toInt = n → Gives precision n (.int32 m)
  | int64 {m : Int64} : m.toInt = n → Gives precision n (.int64 m)
  | text : Gives precision n (.text (toString n))
  | padded {before after : List Char} : precision ≤ 15 →
      (∀ c ∈ before, Text.isBlank c = true) → (∀ c ∈ after, Text.isBlank c = true) →
      Gives precision n (.text (String.ofList (before ++ (toString n).toList ++ after)))
  | signed {before after : List Char} : precision ≤ 15 → 0 ≤ n →
      (∀ c ∈ before, Text.isBlank c = true) → (∀ c ∈ after, Text.isBlank c = true) →
      Gives precision n (.text (String.ofList (before ++ '+' :: (toString n).toList ++ after)))

/-- **How the integer `n` is held** where an integer of some precision is wanted. -/
def IsInteger (precision n : Int) : Value → Prop
  | .int32 m => precision ≤ 9 ∧ m.toInt = n
  | .int64 m => 9 < precision ∧ precision ≤ 15 ∧ m.toInt = n
  | .text s => 15 < precision ∧ s = toString n
  | _ => False

/-- None of these values is NULL. -/
theorem Gives.isNullInput (h : v.Gives precision n) : v.isNullInput = false := by
  rw [isNullInput_eq_false_iff]
  cases h with
  | int32 | int64 => exact ⟨nofun, nofun⟩
  | text => exact ⟨nofun, fun heq => toString_int_ne_empty n (Value.text.inj heq)⟩
  | padded | signed =>
    refine ⟨nofun, fun heq => ?_⟩
    simp [String.ofList_eq_empty_iff, -Int.toString_eq_repr, toString_int_ne_empty] at heq

/-- **All of them are read as this integer.** -/
theorem Gives.integer? (h : v.Gives precision n) : v.integer? = some n := by
  cases h with
  | int32 hm | int64 hm => exact congrArg some hm
  | text =>
    have htrimmed : Text.trimmed (toString n).toList = (toString n).toList := by
      have hnone : ∀ c ∈ ([] : List Char), Text.isBlank c = true := nofun
      simpa using Text.trimmed_padded hnone hnone fun c hc => Number.isBlank_of_mem_toString hc
    rw [Value.integer?, htrimmed, Number.integer?_toString]
  | padded _ hbefore hafter =>
    rw [Value.integer?, String.toList_ofList, Text.trimmed_padded hbefore hafter
      fun c hc => Number.isBlank_of_mem_toString hc, Number.integer?_toString]
  | signed _ hpos hbefore hafter =>
    have hblank : ∀ c ∈ '+' :: (toString n).toList, Text.isBlank c = false := by
      intro c hc
      rcases List.mem_cons.mp hc with rfl | hc
      · rfl
      · exact Number.isBlank_of_mem_toString hc
    rw [Value.integer?, String.toList_ofList, Text.trimmed_padded hbefore hafter hblank,
      Number.integer?_plus hpos]

theorem readInteger_of_integer? {s : String} {low high : Int}
    (h : Number.integer? (Text.trimmed s.toList) = some n) (hlow : low ≤ n) (hhigh : n < high) :
    readInteger s low high = .ok n := by
  simp [readInteger, h, hlow, hhigh]

theorem toText?_of_decode {b : Bytes} {s : String} (h : Utf8.decode b = .ok s) :
    toText? (.bytes b) = .ok s := by
  rw [toText?, h]
  rfl

/-- **What is read as an integer of 32 bits is converted to it.** -/
theorem toInt32?_of_integer? (h : v.integer? = some n) (hlow : -0x80000000 ≤ n)
    (hhigh : n < 0x80000000) : ∃ m, v.toInt32? = .ok m ∧ m.toInt = n := by
  have hexact : (Int32.ofInt n).toInt = n := Int32.toInt_ofInt_of_le (by omega) (by omega)
  cases v with
  | int32 m => exact ⟨m, rfl, Option.some.inj h⟩
  | int64 m =>
    obtain rfl : m.toInt = n := Option.some.inj h
    exact ⟨_, if_pos ⟨hlow, hhigh⟩, hexact⟩
  | text s =>
    refine ⟨Int32.ofInt n, ?_, hexact⟩
    rw [toInt32?, readInteger_of_integer? h hlow hhigh]
    rfl
  | bytes b =>
    rw [integer?] at h
    split at h
    · rename_i s hdecode
      refine ⟨Int32.ofInt n, ?_, hexact⟩
      simp only [toInt32?, toText?_of_decode hdecode, bind, Except.bind,
        readInteger_of_integer? h hlow hhigh]
      rfl
    · cases h
  | null | double | lob => cases h

/-- **What is read as an integer of 64 bits is converted to it.** -/
theorem toInt64?_of_integer? (h : v.integer? = some n) (hlow : -0x8000000000000000 ≤ n)
    (hhigh : n < 0x8000000000000000) : ∃ m, v.toInt64? = .ok m ∧ m.toInt = n := by
  have hexact : (Int64.ofInt n).toInt = n := Int64.toInt_ofInt_of_le (by omega) (by omega)
  cases v with
  | int32 m => exact ⟨m.toInt64, rfl, (Int32.toInt_toInt64 m).trans (Option.some.inj h)⟩
  | int64 m => exact ⟨m, rfl, Option.some.inj h⟩
  | text s =>
    refine ⟨Int64.ofInt n, ?_, hexact⟩
    rw [toInt64?, readInteger_of_integer? h hlow hhigh]
    rfl
  | bytes b =>
    rw [integer?] at h
    split at h
    · rename_i s hdecode
      refine ⟨Int64.ofInt n, ?_, hexact⟩
      simp only [toInt64?, toText?_of_decode hdecode, bind, Except.bind,
        readInteger_of_integer? h hlow hhigh]
      rfl
    · cases h
  | null | double | lob => cases h

/-- Where the text is transferred as it is, it is the text of the integer. -/
theorem Gives.toText? (h : v.Gives precision n) (hwide : 15 < precision) :
    v.toText? = .ok (toString n) := by
  cases h with
  | int32 hm | int64 hm => exact congrArg (fun k : Int => Except.ok (toString k)) hm
  | text => rfl
  | padded hnarrow | signed hnarrow => omega

/-- **An integer of some precision fits the host type of this precision.** -/
theorem Gives.becomes (h : v.Gives precision n) (hprecision : 1 ≤ precision)
    (hsmall : n.natAbs < 10 ^ precision.toNat) (hlow : -0x8000000000000000 ≤ n)
    (hhigh : n < 0x8000000000000000) :
    ∃ u size, v.Becomes (.ofNumber precision 0) u size ∧ u.IsInteger precision n ∧
      ((HostType.ofNumber precision 0).fixedSize? = none → size ≤ precision.toNat * 4) := by
  rcases lt_or_ge 15 precision with hwide | hnarrow
  · have hhost : HostType.ofNumber precision 0 = .decimal := if_pos hwide
    obtain ⟨digits, hdigits, hdecimal⟩ := Number.isDecimal_toString (by omega) hsmall
    have hlength := hdecimal.length_encode_le
    rw [hhost]
    exact ⟨_, _, .text (.inl rfl) (h.toText? hwide), ⟨hwide, rfl⟩, fun _ => by omega⟩
  · rcases lt_or_ge 9 precision with hlong | hshort
    · have hhost : HostType.ofNumber precision 0 = .int64 := by
        simp [HostType.ofNumber, HostType.doubleDigits, HostType.int32Digits, hnarrow.not_gt, hlong]
      obtain ⟨m, hm, hexact⟩ := toInt64?_of_integer? h.integer? hlow hhigh
      rw [hhost]
      exact ⟨_, _, .int64 hm, ⟨hlong, hnarrow, hexact⟩, fun hvariable => by cases hvariable⟩
    · have hhost : HostType.ofNumber precision 0 = .int32 := by
        simp [HostType.ofNumber, HostType.doubleDigits, HostType.int32Digits, hnarrow.not_gt,
          hshort.not_gt]
      have hpower : 10 ^ precision.toNat ≤ 10 ^ 9 := Nat.pow_le_pow_right (by decide) (by omega)
      obtain ⟨m, hm, hexact⟩ := toInt32?_of_integer? h.integer? (by omega) (by omega)
      rw [hhost]
      exact ⟨_, _, .int32 hm, ⟨hshort, hexact⟩, fun hvariable => by cases hvariable⟩

end Value

/-! ## What a parameter conveys -/

/-- A number that has no fixed size is a decimal text. -/
theorem HostType.maxBytes_ofNumber {precision scale : Int}
    (h : (ofNumber precision scale).fixedSize? = none) (length byteLength : Int) :
    (ofNumber precision scale).maxBytes length byteLength = length.toNat * 4 := by
  revert h
  unfold ofNumber
  split_ifs <;> first | exact fun _ => rfl | exact nofun

namespace Parameter

variable {p : Parameter} {v u : Value}

/-- No use changes the shape of a parameter. -/
theorem shape_after (p : Parameter) (use : Use) : (p.after use).shape = p.shape := by
  cases use with
  | bind position v =>
    rw [after]
    cases hbind : p.bind position v with
    | ok p' => exact shape_of_bind hbind
    | error e => rfl
  | encode v => exact shape_withBuffer (Buffer.capacity_perform (by simp) _)
  | putBytes data => exact shape_withBuffer (Buffer.capacity_perform (by simp) _)

theorem shape_afterAll (p : Parameter) (uses : List Use) : (p.afterAll uses).shape = p.shape := by
  induction uses generalizing p with
  | nil => rfl
  | cons use uses ih => exact (ih (p.after use)).trans (p.shape_after use)

/-- **The parameter conveys `v` as `u`**: whatever it was used for, it takes `v`, and then `u` is
read from it. -/
def Conveys (p : Parameter) (v u : Value) : Prop :=
  ∀ uses position, ∃ p', (p.afterAll uses).bind position v = .ok p' ∧ p'.output = .ok u

/-- What a parameter conveys when it is new, it always conveys. -/
theorem conveys_of_encode (hin : p.binding.mode.isInput = true) {buffer : Buffer}
    (hencode : p.binding.buffer.encode p.binding.host v = .ok buffer)
    (hdecode : buffer.decode p.binding.host = .ok u) : p.Conveys v u := by
  intro uses position
  have hbind : p.bind position v = .ok (p.withBuffer buffer) := by
    rw [bind, if_pos hin, hencode]
    rfl
  have hshape := (p.shape_afterAll uses).symm
  exact ⟨_, (bind_eq_of_shape_eq hshape hin).symm.trans hbind, hdecode⟩

/-- **A value that converts is conveyed**, if its variable-length form has room. -/
theorem conveys_of_becomes (hin : p.binding.mode.isInput = true) (hnull : v.isNullInput = false)
    {size : Nat} (hbecomes : v.Becomes p.binding.host u size)
    (hfits : p.binding.host.fixedSize? = none → size ≤ p.maxBytes) : p.Conveys v u := by
  obtain ⟨buffer, hencode⟩ := Buffer.encode_of_becomes hnull hbecomes hfits
  obtain ⟨u', size', hbecomes', hholds⟩ := Buffer.holds_of_encode hnull hencode
  obtain rfl := (hbecomes.unique hbecomes').1
  exact conveys_of_encode hin hencode hholds.decode

/-- **What a parameter for numbers conveys.** -/
structure ConveysNumbers (p : Parameter) (precision : Int) : Prop where
  /-- Every integer of the precision, in any form. -/
  integer : ∀ (n : Int64) (v : Value), n.toInt.natAbs < 10 ^ precision.toNat →
    v.Gives precision n.toInt → ∃ u, u.IsInteger precision n.toInt ∧ p.Conveys v u
  /-- Above fifteen digits, every decimal text of no more digits, to the letter. -/
  numeral : 15 < precision → ∀ s digits, s ≠ "" → Number.IsDecimal s digits → digits ≤ precision →
    p.Conveys (.text s) (.text s)

/-- A parameter for numbers without a fraction. -/
theorem conveysNumbers {precision : Int} (hprecision : 1 ≤ precision)
    (hin : p.binding.mode.isInput = true) (hhost : p.binding.host = .ofNumber precision 0)
    (hroom : p.binding.host.fixedSize? = none → p.maxBytes = precision.toNat * 4) :
    p.ConveysNumbers precision where
  integer := by
    intro n v hsmall hgives
    obtain ⟨u, size, hbecomes, hinteger, hfits⟩ :=
      hgives.becomes hprecision hsmall n.le_toInt n.toInt_lt
    rw [← hhost] at hbecomes hfits
    exact ⟨u, hinteger, conveys_of_becomes hin hgives.isNullInput hbecomes fun hvariable => by
      rw [hroom hvariable]
      exact hfits hvariable⟩
  numeral := by
    intro hwide s digits hsome hdecimal hdigits
    have hdecimalHost : p.binding.host = .decimal := hhost.trans (if_pos hwide)
    have hlength := hdecimal.length_encode_le
    refine conveys_of_becomes hin ?_ (.text (.inl hdecimalHost) rfl) fun hvariable => ?_
    · exact Value.isNullInput_eq_false_iff.mpr ⟨nofun, fun heq => hsome (Value.text.inj heq)⟩
    · rw [hroom hvariable]
      omega

/-- **What a parameter for texts conveys**: every text of no more characters than it declares.  The
empty text is NULL. -/
def ConveysTexts (p : Parameter) (length : Int) : Prop :=
  ∀ s : String, s.length ≤ length → p.Conveys (.text s) (if s = "" then .null else .text s)

/-- A parameter for texts. -/
theorem conveysTexts {length : Int} (hin : p.binding.mode.isInput = true)
    (hhost : p.binding.host = .text) (hroom : p.maxBytes = length.toNat * 4) :
    p.ConveysTexts length := by
  intro s hs
  by_cases hempty : s = ""
  · rw [if_pos hempty]
    have hnull : (Value.text s).isNullInput = true :=
      Value.isNullInput_iff.mpr (.inr (congrArg Value.text hempty))
    exact conveys_of_encode hin (Buffer.encode_of_isNullInput hnull _ _) (Buffer.decode_setNull _ _)
  · rw [if_neg hempty]
    have hlength := Utf8.length_encode_le s
    refine conveys_of_becomes hin ?_ (.text (.inr (.inl hhost)) rfl) fun _ => ?_
    · exact Value.isNullInput_eq_false_iff.mpr ⟨nofun, fun heq => hempty (Value.text.inj heq)⟩
    · rw [hroom]
      omega

/-- A parameter of a known type has a buffer for the largest value that is declared. -/
theorem exists_ofDescription {d : ParameterDescription} {t : SqlType}
    (htype : SqlType.ofCode? d.typeCode = some t) (marker : Option Marker) :
    ∃ p, ofDescription d marker = .ok p ∧ p.binding.mode = d.mode ∧
      p.binding.host = .resolve t d.precision d.scale ∧
      p.maxBytes = p.binding.host.maxBytes d.length d.byteLength := by
  rw [ofDescription, htype]
  exact ⟨_, rfl, rfl, rfl, rfl⟩

end Parameter

/-- **Every value that fits its declaration is transferred without loss.** -/
theorem fitting_values_conveyed :
    (∀ precision byteLength mode marker, 1 ≤ precision → ParameterMode.isInput mode = true →
      ∃ p, Parameter.ofDescription { ParameterDescription.ofDigits precision 0 mode with byteLength }
          marker = .ok p ∧ p.ConveysNumbers precision) ∧
    ∀ (d : ParameterDescription) (t : SqlType) marker, SqlType.ofCode? d.typeCode = some t →
      HostType.resolve t d.precision d.scale = .text → d.mode.isInput = true →
      ∃ p, Parameter.ofDescription d marker = .ok p ∧ p.ConveysTexts d.length := by
  constructor
  · intro precision byteLength mode marker hprecision hin
    obtain ⟨p, hp, hmode, hhost, hroom⟩ := Parameter.exists_ofDescription
      (d := { ParameterDescription.ofDigits precision 0 mode with byteLength })
      (SqlType.ofCode?_code .fixed) marker
    refine ⟨p, hp, Parameter.conveysNumbers hprecision (hmode ▸ hin) hhost fun hvariable => ?_⟩
    rw [hroom, hhost]
    rw [hhost] at hvariable
    exact HostType.maxBytes_ofNumber hvariable precision byteLength
  · intro d t marker htype htext hin
    obtain ⟨p, hp, hmode, hhost, hroom⟩ := Parameter.exists_ofDescription htype marker
    rw [htext] at hhost
    rw [hhost] at hroom
    exact ⟨p, hp, Parameter.conveysTexts (hmode ▸ hin) hhost hroom⟩

/-- The largest number of nine digits, a text of sixteen digits with a sign and a point, and two
characters of four bytes each. -/
theorem fitting_values_conveyed_at_the_edge :
    (∃ p, Parameter.ofDescription (.ofDigits 9 0 .inputOutput) none = .ok p ∧
      p.Conveys (.text " +999999999\n") (.int32 999999999)) ∧
    (∃ p, Parameter.ofDescription (.ofDigits 16 0 .input) none = .ok p ∧
      p.Conveys (.text "-1234567890.123456") (.text "-1234567890.123456")) ∧
    ∃ p, Parameter.ofDescription (.ofLength SqlType.varcharAscii.code 2 .input) none = .ok p ∧
      p.Conveys (.text "𝄞😀") (.text "𝄞😀") := by
  refine ⟨?_, ?_, ?_⟩
  · obtain ⟨p, hp, hconveys⟩ :=
      fitting_values_conveyed.1 9 9 .inputOutput none (by decide) rfl
    have hgives : (Value.text " +999999999\n").Gives 9 (999999999 : Int64).toInt :=
      @Value.Gives.signed 9 _ [' '] ['\n'] (by decide) (by decide) (by simp; rfl) (by simp; rfl)
    obtain ⟨u, hu, hp'⟩ := hconveys.integer 999999999 _ (by decide) hgives
    have hvalue : u = .int32 999999999 := by
      cases u with
      | int32 m => exact congrArg Value.int32 (Int32.toInt_inj.mp hu.2)
      | int64 m => exact absurd hu.1 (by decide)
      | text s => exact absurd hu.1 (by decide)
      | null | double | bytes | lob => exact hu.elim
    exact ⟨p, hp, hvalue ▸ hp'⟩
  · have hdecimal : Number.IsDecimal "-1234567890.123456" 16 :=
      ⟨['-'], by decide, ['.'], by decide, "1234567890".toList, "123456".toList,
        by simp, rfl, rfl⟩
    obtain ⟨p, hp, hconveys⟩ := fitting_values_conveyed.1 16 16 .input none (by decide) rfl
    exact ⟨p, hp, hconveys.numeral (by decide) _ 16 (by decide) hdecimal (by decide)⟩
  · obtain ⟨p, hp, hconveys⟩ := fitting_values_conveyed.2
      (.ofLength SqlType.varcharAscii.code 2 .input) _ none
      (SqlType.ofCode?_code .varcharAscii) rfl rfl
    exact ⟨p, hp, hconveys "𝄞😀" (by decide)⟩

end SqlClient
