import SqlClient.Proofs.LobUnits

/-! # Contents as lists of units

A binary object is a list of bytes and a character object a list of characters (`LobKind.Unit`).
The server keeps bytes for both.  `Lob.view` reads the units of a content, and `Lob.encode` gives
the bytes of units back, so that a position is the number of units in front of it, however many
bytes these take.

Seen in this way reads and writes are the same for both kinds.  An object is somewhere in its units
or behind the last of them (`Lob.Placed`).  A read leaves it among them (`Placed.read`), and a write
puts units over those that follow, and behind the last (`Placed.write_eq`, `overwritten`).
-/
namespace SqlClient

/-- A unit of an object: a byte, or a character. -/
abbrev LobKind.Unit : LobKind → Type
  | .binary => UInt8
  | .character => Char

/-! ## Writing over a list -/

section Overwritten
variable {α : Type} {us ds es : List α} {offset : Nat}

/-- `ds` in the place of what follows after `offset` units. -/
def overwritten (us : List α) (offset : Nat) (ds : List α) : List α :=
  us.take offset ++ ds ++ us.drop (offset + ds.length)

theorem length_overwritten (hoffset : offset ≤ us.length) :
    (overwritten us offset ds).length = max us.length (offset + ds.length) := by
  simp only [overwritten, List.length_append, List.length_take, List.length_drop]
  omega

/-- **Units outside the written range stay.** -/
theorem getElem?_overwritten (hoffset : offset ≤ us.length) {i : Nat}
    (hi : i < offset ∨ offset + ds.length ≤ i) : (overwritten us offset ds)[i]? = us[i]? := by
  have hfront : (us.take offset).length = offset := List.length_take_of_le hoffset
  rcases hi with hi | hi
  · rw [overwritten, List.append_assoc, List.getElem?_append_left (by omega),
      List.getElem?_take_of_lt hi]
  · rw [overwritten, List.getElem?_append_right (by rw [List.length_append]; omega),
      List.length_append, hfront, List.getElem?_drop]
    congr 1
    omega

/-- **Writing in two pieces is writing at once.** -/
theorem overwritten_overwritten (hoffset : offset ≤ us.length) :
    overwritten (overwritten us offset ds) (offset + ds.length) es =
      overwritten us offset (ds ++ es) := by
  have hfront : (us.take offset ++ ds).length = offset + ds.length := by
    rw [List.length_append, List.length_take_of_le hoffset]
  have htake : (overwritten us offset ds).take (offset + ds.length) = us.take offset ++ ds := by
    rw [overwritten, List.take_left' hfront]
  have hdrop : (overwritten us offset ds).drop (offset + ds.length + es.length) =
      us.drop (offset + (ds ++ es).length) := by
    rw [overwritten, ← List.drop_drop, List.drop_left' hfront, List.drop_drop, List.length_append,
      Nat.add_assoc]
  rw [overwritten, htake, hdrop, overwritten, List.append_assoc (us.take offset)]

end Overwritten

namespace Scripted.Lob

/-! ## Units of a content -/

/-- The units of a content.  A text must be valid. -/
def view : (kind : LobKind) → Bytes → Except Error (List kind.Unit)
  | .binary, content => .ok content
  | .character, content => characters content

/-- The bytes of units. -/
def encode : (kind : LobKind) → List kind.Unit → Bytes
  | .binary, us => us
  | .character, us => bytesOf us

variable {kind : LobKind} {content : Bytes} {us : List kind.Unit}

/-- What was written is read. -/
@[simp] theorem view_encode (us : List kind.Unit) : view kind (encode kind us) = .ok us := by
  cases kind with
  | binary => rfl
  | character =>
    rw [view, encode, characters, bytesOf, Utf8.decode_encode]
    exact congrArg Except.ok String.toList_ofList

theorem fragments_of_view (h : view kind content = .ok us) :
    ∃ fs, fragments kind content = .ok fs ∧ fs.length = us.length := by
  cases kind with
  | binary =>
    cases h
    exact ⟨_, rfl, List.length_map _⟩
  | character =>
    refine ⟨us.map String.utf8EncodeChar, ?_, List.length_map _⟩
    rw [fragments, show characters content = .ok us from h]
    rfl

/-- A read does not go beyond the last unit. -/
theorem skip_add_units_le (h : view kind content = .ok us) {skip room units : Nat} {bytes : Bytes}
    (hslice : slice kind content skip room = .ok (some (bytes, units))) :
    skip + units ≤ us.length := by
  obtain ⟨fs, hfs, hlength⟩ := fragments_of_view h
  by_cases hskip : skip < fs.length
  · rw [slice_of_lt hfs hskip] at hslice
    cases hslice
    have hle := (fit_isPrefix room (fs.drop skip)).length_le
    rw [List.length_drop] at hle
    omega
  · rw [slice_of_le hfs (Nat.le_of_not_lt hskip)] at hslice
    cases hslice

/-- **A write replaces units.** -/
theorem splice_eq (h : view kind content = .ok us) {offset : Nat} (hoffset : offset ≤ us.length)
    (ds : List kind.Unit) :
    splice kind content offset (encode kind ds) =
      .ok (encode kind (overwritten us offset ds), ds.length) := by
  cases kind with
  | binary =>
    cases h
    -- a position among the units leaves no gap that bytes would be padded into
    have hgap : offset - content.length = 0 := Nat.sub_eq_zero_of_le hoffset
    simp [splice, encode, Bytes.overwrite, overwritten, hgap]
  | character =>
    have hcontent : characters content = .ok us := h
    have hdata : characters (bytesOf ds) = .ok ds := view_encode ds
    rw [splice, hcontent, encode, hdata]
    rfl

/-! ## Units of an object -/

/-- The units of an object; a NULL object has none. -/
def units? (kind : LobKind) (lob : Lob) (s : Server) : Except Error (List kind.Unit) :=
  if lob.isNull then .ok [] else view kind (s.content lob.content)

/-- **An object stands among its units** or behind the last of them. -/
structure Placed (kind : LobKind) (lob : Lob) (s : Server) (us : List kind.Unit) : Prop where
  kind_eq : lob.kind = kind
  /-- Its content is one that the server keeps. -/
  stored : lob.content < s.contents.length
  units : units? kind lob s = .ok us
  offset_le : lob.offset ≤ us.length

variable {lob : Lob} {s : Server}

/-- Only a NULL object has other units than its content. -/
theorem units?_of_notNull (hnull : lob.isNull = false) :
    units? kind lob s = view kind (s.content lob.content) :=
  if_neg (by simp [hnull])

theorem units?_of_null (hnull : lob.isNull = true) : units? kind lob s = .ok [] :=
  if_pos hnull

/-- A content that was replaced is the new one. -/
theorem content_setContent {n : Nat} (hn : n < s.contents.length) (content : Bytes) :
    (s.setContent n content).content n = content := by
  simp [Server.setContent, Server.content, hn]

theorem setContent_setContent (s : Server) (n : Nat) (content content' : Bytes) :
    (s.setContent n content).setContent n content' = s.setContent n content' := by
  simp [Server.setContent]

namespace Placed

theorem length_eq (h : Placed kind lob s us) : Lob.length lob s = .ok us.length := by
  obtain ⟨rfl, -, hunits, -⟩ := h
  cases hnull : lob.isNull with
  | true =>
    rw [units?_of_null hnull] at hunits
    cases hunits
    exact if_pos hnull
  | false =>
    rw [units?_of_notNull hnull] at hunits
    obtain ⟨fs, hfs, hlength⟩ := fragments_of_view hunits
    rw [Lob.length_eq hnull hfs, hlength]

/-- A NULL object has not moved. -/
theorem offset_of_null (h : Placed kind lob s us) (hnull : lob.isNull = true) : lob.offset = 0 := by
  have hunits := h.units
  rw [units?_of_null hnull] at hunits
  cases hunits
  exact Nat.le_zero.mp h.offset_le

/-- **A read leaves the object among its units**, wherever it starts and whatever comes of it. -/
theorem read (h : Placed kind lob s us) (room : Nat) (start : Option Int64) :
    ∃ offset, leaves (Lob.read room start (lob, s)) = ({ lob with offset }, s) ∧
      offset ≤ us.length := by
  obtain ⟨rfl, -, hunits, hle⟩ := h
  rw [read_eq]
  by_cases hnull : lob.isNull = true
  · rw [if_pos hnull]
    exact ⟨lob.offset, rfl, hle⟩
  · rw [units?_of_notNull (Bool.eq_false_of_not_eq_true hnull)] at hunits
    rw [if_neg hnull]
    cases lob.skipTo start with
    | error e => exact ⟨lob.offset, rfl, hle⟩
    | ok skip =>
      simp only
      split
      · exact ⟨lob.offset, rfl, hle⟩
      · exact ⟨lob.offset, rfl, hle⟩
      · rename_i bytes units hslice
        exact ⟨skip + units, rfl, skip_add_units_le hunits hslice⟩

/-- **A write puts units over those that follow**, and goes behind them.  A NULL object has no
units to begin with. -/
theorem write_eq (h : Placed kind lob s us) (ds : List kind.Unit) :
    Lob.write (encode kind ds) (lob, s) =
      .ok () ({ lob with offset := lob.offset + ds.length, isNull := false },
        s.setContent lob.content (encode kind (overwritten us lob.offset ds))) := by
  obtain ⟨rfl, hstored, hunits, hle⟩ := h
  cases hnull : lob.isNull with
  | true =>
    -- the first write empties the content, whatever bytes it had while the object was NULL
    rw [units?_of_null hnull] at hunits
    cases hunits
    have hempty : view lob.kind [] = .ok [] := by
      cases lob.kind <;> rfl
    have hsplice := splice_eq hempty hle ds
    simp only [Lob.write, hnull, if_true, content_setContent hstored, hsplice,
      setContent_setContent]
  | false =>
    rw [units?_of_notNull hnull] at hunits
    have hsplice := splice_eq hunits hle ds
    simp only [Lob.write, hnull, Bool.false_eq_true, if_false, hsplice]

/-- **After a write** the object stands behind what was written. -/
theorem write (h : Placed kind lob s us) (ds : List kind.Unit) :
    Placed kind { lob with offset := lob.offset + ds.length, isNull := false }
      (s.setContent lob.content (encode kind (overwritten us lob.offset ds)))
      (overwritten us lob.offset ds) where
  kind_eq := h.kind_eq
  stored := by simpa [Server.setContent] using h.stored
  units := by rw [units?_of_notNull rfl, content_setContent h.stored, view_encode]
  offset_le := by
    rw [length_overwritten h.offset_le]
    exact Nat.le_max_right ..

end Placed
end Scripted.Lob
end SqlClient
