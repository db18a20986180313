import SqlClient.Proofs.ScriptedObjects
import SqlClient.Proofs.Utf8RoundTrip

/-! # What a read finds

A content is a row of units: bytes of a binary object, the encodings of characters of the other
kind (`Lob.fragments`).  With units of different sizes but one notion of them, a read is the same
for both kinds: it gives the longest front of the units that are left that fits the room
(`Lob.slice_of_lt`), and a handle of the same kind makes a value of it (`LobHandle.valueOf_fit`).

A read can find no units, or bytes that its handle makes no value of.  Which failures there are is
said once: `Lob.skipTo_eq_error`, `Lob.slice_eq_error` and `LobHandle.valueOf_eq_error`.
-/
namespace SqlClient

namespace Scripted.Lob

/-! ## Units -/

/-- The units of a content, each with its bytes. -/
def fragments (kind : LobKind) (content : Bytes) : Except Error (List Bytes) :=
  match kind with
  | .binary => .ok (content.map fun b => [b])
  | .character => (characters content).map (List.map String.utf8EncodeChar)

/-- The longest front of units that takes at most `room` bytes. -/
def fit (room : Nat) : List Bytes → List Bytes
  | [] => []
  | u :: rest => if u.length ≤ room then u :: fit (room - u.length) rest else []

theorem fit_isPrefix (room : Nat) (us : List Bytes) : fit room us <+: us := by
  induction us generalizing room with
  | nil => exact List.prefix_rfl
  | cons u rest ih =>
    unfold fit
    split
    · exact List.cons_prefix_cons.mpr ⟨rfl, ih _⟩
    · exact List.nil_prefix

theorem length_flatten_fit_le (room : Nat) (us : List Bytes) :
    (fit room us).flatten.length ≤ room := by
  induction us generalizing room with
  | nil => exact Nat.zero_le room
  | cons u rest ih =>
    unfold fit
    split
    · have hrest := ih (room - u.length)
      rw [List.flatten_cons, List.length_append]
      omega
    · exact Nat.zero_le room

/-- Where the first unit fits, something is read. -/
theorem length_fit_pos {room : Nat} {us : List Bytes} (hus : us ≠ [])
    (hfits : ∀ u ∈ us, u.length ≤ room) : 0 < (fit room us).length := by
  obtain ⟨u, rest, rfl⟩ := List.exists_cons_of_ne_nil hus
  rw [fit, if_pos (hfits u (List.mem_cons_self ..))]
  exact Nat.succ_pos _

theorem fit_bytes (room : Nat) (content : Bytes) :
    fit room (content.map fun b => [b]) = (content.take room).map fun b => [b] := by
  induction content generalizing room with
  | nil => rw [List.take_nil, List.map_nil, fit]
  | cons b rest ih =>
    cases room with
    | zero => rfl
    | succ room =>
      rw [List.map_cons, fit, if_pos (by simp), List.take_succ_cons, List.map_cons]
      exact congrArg _ (ih room)

theorem fit_characters (room : Nat) (cs : List Char) :
    fit room (cs.map String.utf8EncodeChar) = (fitting room cs).map String.utf8EncodeChar := by
  induction cs generalizing room with
  | nil => rfl
  | cons c rest ih =>
    have hwidth : (String.utf8EncodeChar c).length = Utf8.width c := String.length_utf8EncodeChar c
    rw [List.map_cons, fit, fitting, hwidth]
    split
    · rw [List.map_cons, ih]
    · rfl

theorem bytesOf_eq (cs : List Char) : bytesOf cs = (cs.map String.utf8EncodeChar).flatten := by
  rw [bytesOf, Utf8.encode, String.toList_ofList, List.flatMap_def]

variable {kind : LobKind} {content : Bytes} {us : List Bytes}

/-- The units of a text are its characters. -/
theorem fragments_character (h : fragments .character content = .ok us) :
    ∃ cs, characters content = .ok cs ∧ us = cs.map String.utf8EncodeChar := by
  obtain ⟨cs, hcs, hus⟩ := map_eq_ok h
  exact ⟨cs, hcs, hus.symm⟩

/-- The characters of a content are all of it. -/
theorem bytesOf_of_characters {cs : List Char} (h : characters content = .ok cs) :
    bytesOf cs = content := by
  rw [characters] at h
  cases hdecode : Utf8.decode content with
  | error fault =>
    rw [hdecode] at h
    cases h
  | ok text =>
    rw [hdecode] at h
    cases h
    rw [bytesOf, String.ofList_toList]
    exact Utf8.encode_of_decode hdecode

/-- **The units make up the content.** -/
theorem flatten_fragments (h : fragments kind content = .ok us) : us.flatten = content := by
  cases kind with
  | binary =>
    cases h
    simp [← List.flatMap_def]
  | character =>
    obtain ⟨cs, hcs, rfl⟩ := fragments_character h
    rw [← bytesOf_eq, bytesOf_of_characters hcs]

/-- What is a text if it has to be one has units. -/
theorem exists_fragments
    (hvalid : kind = .character → ∃ text, Utf8.decode content = .ok text) :
    ∃ us, fragments kind content = .ok us := by
  cases kind with
  | binary => exact ⟨_, rfl⟩
  | character =>
    obtain ⟨text, htext⟩ := hvalid rfl
    refine ⟨text.toList.map String.utf8EncodeChar, ?_⟩
    simp only [fragments, characters, htext]
    rfl

/-- The size from which on a read has room for a unit. -/
def leastRead : LobKind → Nat
  | .binary => 1
  | .character => 4

/-- A unit has some bytes, and no more than a read of the least size has room for. -/
theorem length_of_mem_fragments (h : fragments kind content = .ok us) {u : Bytes} (hu : u ∈ us) :
    0 < u.length ∧ u.length ≤ leastRead kind := by
  cases kind with
  | binary =>
    cases h
    obtain ⟨b, -, rfl⟩ := List.mem_map.mp hu
    exact ⟨Nat.one_pos, le_refl 1⟩
  | character =>
    obtain ⟨cs, -, rfl⟩ := fragments_character h
    obtain ⟨c, -, rfl⟩ := List.mem_map.mp hu
    rw [String.length_utf8EncodeChar]
    exact ⟨c.utf8Size_pos, c.utf8Size_le_four⟩

/-- Only no units have no bytes. -/
theorem eq_nil_of_flatten_eq_nil (h : fragments kind content = .ok us) {part : List Bytes}
    (hpart : ∀ u ∈ part, u ∈ us) (hnil : part.flatten = []) : part = [] := by
  rw [List.flatten_eq_nil_iff] at hnil
  refine List.eq_nil_iff_forall_not_mem.mpr fun u hu => ?_
  have hpos := (length_of_mem_fragments h (hpart u hu)).1
  rw [hnil u hu] at hpos
  exact Nat.lt_irrefl 0 hpos

/-! ## What a read finds -/

variable {skip room : Nat}

/-- Of bytes a read gives as many as there is room for. -/
theorem slice_binary (hskip : skip < content.length) :
    slice .binary content skip room =
      .ok (some ((content.drop skip).take room, ((content.drop skip).take room).length)) := by
  have hrest : content.drop skip ≠ [] := by
    rw [Ne, List.drop_eq_nil_iff]
    omega
  obtain ⟨b, rest, hdrop⟩ := List.exists_cons_of_ne_nil hrest
  simp only [slice, hdrop]

/-- Of a text a read gives the characters that fit. -/
theorem slice_character {cs : List Char} (hcs : characters content = .ok cs)
    (hskip : skip < cs.length) :
    slice .character content skip room =
      .ok (some (bytesOf (fitting room (cs.drop skip)),
        (fitting room (cs.drop skip)).length)) := by
  have hrest : cs.drop skip ≠ [] := by
    rw [Ne, List.drop_eq_nil_iff]
    omega
  obtain ⟨c, rest, hdrop⟩ := List.exists_cons_of_ne_nil hrest
  simp only [slice, hcs, hdrop]

/-- **A read gives the longest front that fits** of the units that are left. -/
theorem slice_of_lt (h : fragments kind content = .ok us) (hskip : skip < us.length) :
    slice kind content skip room =
      .ok (some ((fit room (us.drop skip)).flatten, (fit room (us.drop skip)).length)) := by
  cases kind with
  | binary =>
    cases h
    rw [List.length_map] at hskip
    rw [← List.map_drop, fit_bytes, List.length_map, ← List.flatMap_def, List.flatMap_singleton',
      slice_binary hskip]
  | character =>
    obtain ⟨cs, hcs, rfl⟩ := fragments_character h
    rw [List.length_map] at hskip
    rw [← List.map_drop, fit_characters, List.length_map, ← bytesOf_eq, slice_character hcs hskip]

theorem slice_of_le (h : fragments kind content = .ok us) (hskip : us.length ≤ skip) :
    slice kind content skip room = .ok none := by
  cases kind with
  | binary =>
    cases h
    rw [List.length_map] at hskip
    rw [slice, List.drop_eq_nil_of_le hskip]
  | character =>
    obtain ⟨cs, hcs, rfl⟩ := fragments_character h
    rw [List.length_map] at hskip
    simp only [slice, hcs, List.drop_eq_nil_of_le hskip]

theorem slice_of_error {e : Error} (h : fragments kind content = .error e) :
    slice kind content skip room = .error e := by
  cases kind with
  | binary => cases h
  | character =>
    rw [fragments] at h
    cases hcs : characters content with
    | ok cs =>
      rw [hcs] at h
      cases h
    | error e' =>
      rw [hcs] at h
      cases h
      simp only [slice, hcs]

/-- A content that is read without units is no text. -/
theorem slice_eq_error {e : Error} (h : slice kind content skip room = .error e) :
    ∃ fault, e = .conversion (.notUtf8 .lobContent fault) := by
  cases hfragments : fragments kind content with
  | ok us =>
    by_cases hskip : skip < us.length
    · rw [slice_of_lt hfragments hskip] at h
      cases h
    · rw [slice_of_le hfragments (Nat.le_of_not_lt hskip)] at h
      cases h
  | error e' =>
    rw [slice_of_error hfragments] at h
    cases h
    cases kind with
    | binary => cases hfragments
    | character =>
      rw [fragments, characters] at hfragments
      cases hdecode : Utf8.decode content with
      | ok text =>
        rw [hdecode] at hfragments
        cases hfragments
      | error fault =>
        rw [hdecode] at hfragments
        cases hfragments
        exact ⟨fault, rfl⟩

/-- **What was read is whole units**: bytes as many as there is room for, or a text. -/
theorem slice_eq_some {bytes : Bytes} {units : Nat}
    (h : slice kind content skip room = .ok (some (bytes, units))) :
    bytes.length ≤ room ∧ (bytes = [] → units = 0) ∧
      (kind = .binary → units = min room (content.length - skip)) ∧
      (kind = .character → ∃ cs, bytes = bytesOf cs) := by
  cases hfragments : fragments kind content with
  | error e =>
    rw [slice_of_error hfragments] at h
    cases h
  | ok us =>
    by_cases hskip : skip < us.length
    · rw [slice_of_lt hfragments hskip] at h
      cases h
      refine ⟨length_flatten_fit_le room _, fun hnil => ?_, ?_, ?_⟩
      · have hpart (u : Bytes) (hu : u ∈ fit room (us.drop skip)) : u ∈ us :=
          List.mem_of_mem_drop ((fit_isPrefix room (us.drop skip)).mem hu)
        rw [eq_nil_of_flatten_eq_nil hfragments hpart hnil, List.length_nil]
      · rintro rfl
        cases hfragments
        rw [← List.map_drop, fit_bytes, List.length_map, List.length_take, List.length_drop]
      · rintro rfl
        obtain ⟨cs, -, rfl⟩ := fragments_character hfragments
        rw [← List.map_drop, fit_characters, ← bytesOf_eq]
        exact ⟨_, rfl⟩
    · rw [slice_of_le hfragments (Nat.le_of_not_lt hskip)] at h
      cases h

/-- The only positions that are refused are those in front of the first. -/
theorem skipTo_eq_error {lob : Lob} {start : Option Int64} {e : Error}
    (h : lob.skipTo start = .error e) :
    ∃ p, start = some p ∧ p.toInt < 1 ∧ e = .refused (.lobPosition p.toInt) := by
  cases start with
  | none => cases h
  | some p =>
    by_cases hp : p.toInt < 1
    · rw [skipTo, if_pos hp] at h
      cases h
      exact ⟨p, rfl, hp, rfl⟩
    · rw [skipTo, if_neg hp] at h
      cases h

/-- **The length is the number of units**, if there are units. -/
theorem length_eq_map {lob : Lob} {s : Server} (hnull : lob.isNull = false) :
    Lob.length lob s = (fragments lob.kind (s.content lob.content)).map List.length := by
  rw [Lob.length, if_neg (by simp [hnull])]
  cases lob.kind with
  | binary => simp [fragments, Except.map]
  | character =>
    simp only [fragments]
    cases characters (s.content lob.content) <;> simp [Except.map]

theorem length_eq {lob : Lob} {s : Server} (hnull : lob.isNull = false)
    (h : fragments lob.kind (s.content lob.content) = .ok us) :
    Lob.length lob s = .ok us.length := by
  rw [length_eq_map hnull, h]
  rfl

end Scripted.Lob

/-! ## Values that are read -/

namespace Value

/-- The bytes that a value holds. -/
def raw : Value → Bytes
  | bytes b => b
  | text t => Utf8.encode t
  | _ => []

/-- The number of bytes or characters of a value. -/
def units : Value → Nat
  | bytes b => b.length
  | text t => t.length
  | _ => 0

/-- The value is one that is read from an object of some kind. -/
def IsRead : LobKind → Value → Prop
  | .binary, bytes _ => True
  | .character, text _ => True
  | _, _ => False

/-- What is read where nothing is left. -/
def nothing : LobKind → Value
  | .binary => bytes []
  | .character => text ""

end Value

namespace LobHandle

open Scripted (Lob Server)

theorem delivered_data {bytes : Bytes} {size : Nat} (h : bytes.length ≤ size) :
    delivered (.data bytes bytes.length) size = bytes := by
  simp [delivered, Nat.min_eq_left h]

theorem valueOf_noData (kind : LobKind) (size : Nat) :
    valueOf kind .noData size = .ok (.nothing kind) := by
  cases kind <;> rfl

/-- What a handle on characters makes of bytes. -/
theorem valueOf_character {bytes : Bytes} {size : Nat} (h : bytes.length ≤ size) :
    valueOf .character (.data bytes bytes.length) size =
      if bytes = [] ∧ size ≠ 0 then .error (.conversion (.readTooSmall size))
      else ((Utf8.decode bytes).map .text).mapError fun fault =>
        .conversion (.notUtf8 .lobData fault) := by
  have hdelivered := delivered_data h
  cases bytes with
  | nil =>
    cases size with
    | zero => rfl
    | succ size => rfl
  | cons b rest =>
    rw [if_neg fun hnil => List.cons_ne_nil b rest hnil.1]
    change ((Utf8.decode (delivered (.data (b :: rest) (b :: rest).length) size)).map _).mapError _ =
      _
    rw [hdelivered]

/-- **Whole units are a value of their kind.** -/
theorem valueOf_fit {kind : LobKind} {content : Bytes} {us : List Bytes}
    (h : Lob.fragments kind content = .ok us) {skip size : Nat}
    (hsome : 0 < (Lob.fit size (us.drop skip)).length) :
    ∃ v, valueOf kind (.data (Lob.fit size (us.drop skip)).flatten
        (Lob.fit size (us.drop skip)).flatten.length) size = .ok v ∧
      v.IsRead kind ∧ v.raw = (Lob.fit size (us.drop skip)).flatten ∧
      v.units = (Lob.fit size (us.drop skip)).length := by
  have hle := Lob.length_flatten_fit_le size (us.drop skip)
  have hnonempty : (Lob.fit size (us.drop skip)).flatten ≠ [] := by
    intro hnil
    have hpart (u : Bytes) (hu : u ∈ Lob.fit size (us.drop skip)) : u ∈ us :=
      List.mem_of_mem_drop ((Lob.fit_isPrefix size (us.drop skip)).mem hu)
    rw [Lob.eq_nil_of_flatten_eq_nil h hpart hnil] at hsome
    exact Nat.lt_irrefl 0 hsome
  cases kind with
  | binary =>
    refine ⟨_, congrArg (fun b => Except.ok (Value.bytes b)) (delivered_data hle), trivial, rfl, ?_⟩
    cases h
    rw [← List.map_drop, Lob.fit_bytes, ← List.flatMap_def, List.flatMap_singleton', List.length_map]
    rfl
  | character =>
    rw [valueOf_character hle, if_neg fun hnil => hnonempty hnil.1]
    obtain ⟨cs, -, rfl⟩ := Lob.fragments_character h
    rw [← List.map_drop, Lob.fit_characters, ← Lob.bytesOf_eq, Lob.bytesOf, Utf8.decode_encode]
    exact ⟨_, rfl, trivial, rfl, by simp [Value.units]⟩

/-- A chunk without data is always a value. -/
theorem valueOf_null (kind : LobKind) (size : Nat) :
    valueOf kind .null size = .ok (.nothing kind) := by
  cases kind <;> rfl

/-- **A chunk that is no value**: no character fitted, or bytes of a binary object are no text. -/
theorem valueOf_eq_error {kind of : LobKind} {content bytes : Bytes} {skip size units : Nat}
    {e : Error} (hslice : Lob.slice of content skip size = .ok (some (bytes, units)))
    (hvalue : valueOf kind (.data bytes bytes.length) size = .error e) :
    e = .conversion (.readTooSmall size) ∧ units = 0 ∨
      ∃ fault, e = .conversion (.notUtf8 .lobData fault) ∧ of ≠ kind ∧
        units = min size (content.length - skip) := by
  obtain ⟨hle, hnone, hbinary, hcharacter⟩ := Lob.slice_eq_some hslice
  cases kind with
  | binary => cases hvalue
  | character =>
    rw [valueOf_character hle] at hvalue
    by_cases hsmall : bytes = [] ∧ size ≠ 0
    · rw [if_pos hsmall] at hvalue
      cases hvalue
      exact .inl ⟨rfl, hnone hsmall.1⟩
    · rw [if_neg hsmall] at hvalue
      cases of with
      | binary =>
        cases hdecode : Utf8.decode bytes with
        | ok text =>
          rw [hdecode] at hvalue
          cases hvalue
        | error fault =>
          rw [hdecode] at hvalue
          cases hvalue
          exact .inr ⟨fault, rfl, nofun, hbinary rfl⟩
      | character =>
        obtain ⟨cs, rfl⟩ := hcharacter rfl
        rw [Lob.bytesOf, Utf8.decode_encode] at hvalue
        cases hvalue

end LobHandle
end SqlClient
