import SqlClient.Proofs.CellFidelity

/-! # Rows are decoded faithfully

A row is decoded column by column in a world that changes on the way, since handles are opened and
copies are made.  Nevertheless a column gives what it gives alone: a row decodes exactly when every
column does, its values are those of its cells (`Decoded`), and its error is that of the first
column that fails (`FirstFailure`).  `decodeCells_cases` says so for any columns, by induction along
the decoding; `decodesFaithfully` is what it means for a cursor.
-/
namespace SqlClient

open Scripted

/-- The value of variable size that is transferred for a host type: bytes, or the bytes of a
text. -/
def Value.payload? (v : Value) : HostType → Option Bytes
  | .bytes => v.toBytes?.toOption
  | .decimal | .text => v.toText?.toOption.map Utf8.encode
  | _ => none

/-- The number of a handle is that of a reference. -/
theorem Value.exists_of_handle? {v : Value} {id : Nat} (h : v.handle? = some id) :
    ∃ ref, v = .lob ref ∧ ref.id = id := by
  cases v with
  | lob ref => exact ⟨ref, rfl, Option.some.inj h⟩
  | null | int32 | int64 | double | text | bytes => cases h

/-- The world with another content under a number. -/
def World.withContent (w : ClientWorld) (n : Nat) (content : Bytes) : ClientWorld :=
  { w with server := w.server.setContent n content }

namespace Scripted

variable {w w' : ClientWorld} {cell : Nat → Except Error Cell} {number : Nat}
  {column : Column} {columns : List Column} {vs : List Value}

/-! ## A column alone -/

/-- The value of one column, decoded alone. -/
def decodeCell (cell : Nat → Except Error Cell) (number : Nat) (column : Column) :
    EStateM Error ClientWorld Value := fun w =>
  match cell number with
  | .error e => .error e w
  | .ok c => c.decode column w

/-- A column gives or fails alike in a world that has grown. -/
theorem failure?_decodeCell_of_grown (hgrown : w.Grown w')
    (hcell : ∀ c, cell number = .ok c → c.Stored w.server.contents.length) :
    failure? (decodeCell cell number column w') = failure? (decodeCell cell number column w) := by
  unfold decodeCell
  cases hc : cell number with
  | error e => rfl
  | ok c => exact Cell.failure?_decode_of_grown hgrown (hcell c hc)

end Scripted

/-! ## What does not fit -/

/-- A value of variable size is of no fixed-size and no large-object type. -/
theorem Value.payload?_cases {v : Value} {host : HostType} {data : Bytes}
    (h : v.payload? host = some data) :
    host = .bytes ∧ v.toBytes? = .ok data ∨
      (host = .decimal ∨ host = .text) ∧ ∃ t, v.toText? = .ok t ∧ Utf8.encode t = data := by
  cases host with
  | bytes =>
    refine .inl ⟨rfl, ?_⟩
    rw [payload?] at h
    cases hbytes : v.toBytes? with
    | error e =>
      rw [hbytes] at h
      cases h
    | ok b =>
      rw [hbytes] at h
      cases h
      rfl
  | decimal | text =>
    refine .inr ⟨by decide, ?_⟩
    simp only [payload?] at h
    cases htext : v.toText? with
    | error e =>
      rw [htext] at h
      cases h
    | ok t =>
      rw [htext] at h
      cases h
      exact ⟨t, rfl, rfl⟩
  | int32 | int64 | double | blob | clob => cases h

/-- **Data that does not fit is refused**; it is not cut. -/
theorem Buffer.encode_of_overlong {b : Buffer} {host : HostType} {v : Value} {data : Bytes}
    (hdata : v.payload? host = some data) (hnull : v.isNullInput = false)
    (hlong : b.capacity < data.length) :
    b.encode host v = .error (.bufferTooSmall data.length b.capacity) := by
  have hrefused : b.putBytes data = .error (.bufferTooSmall data.length b.capacity) := if_pos hlong
  rcases Value.payload?_cases hdata with ⟨rfl, hbytes⟩ | ⟨hhost, t, htext, rfl⟩
  · exact (encode_of_toBytes? hnull (.inl rfl) hbytes b).trans hrefused
  · exact (encode_of_toText? hnull (hhost.imp_right .inl) htext b).trans hrefused

namespace Scripted

variable {w w' : ClientWorld} {cell : Nat → Except Error Cell} {number : Nat}
  {column : Column} {columns : List Column} {vs : List Value}

/-- Neither NULL nor an empty text is long. -/
theorem Cell.isNullInput_of_overlong {c : Cell} {s : Server} {host : HostType} {data : Bytes}
    (hdata : (c.value s).payload? host = some data) (hlong : 0 < data.length) :
    (c.value s).isNullInput = false := by
  have hempty (v : Value) (hv : v = .null ∨ v = .text "") (hv' : v.payload? host = some data) :
      False := by
    rcases Value.payload?_cases hv' with ⟨-, hbytes⟩ | ⟨-, t, htext, rfl⟩
    · rcases hv with rfl | rfl <;> cases hbytes <;> cases hlong
    · rcases hv with rfl | rfl <;> cases htext <;> cases hlong
  cases c with
  | null => exact (hempty _ (.inl rfl) hdata).elim
  | text t =>
    cases ht : t.isEmpty with
    | false => exact ht
    | true => exact (hempty _ (.inr (by rw [value, String.isEmpty_iff.mp ht])) hdata).elim
  | int | double | bytes | lob => rfl

theorem Cell.decode_of_overlong {c : Cell} {data : Bytes}
    (hdata : (c.value w.server).payload? column.hostType = some data)
    (hlong : column.bufferSize < data.length) :
    c.decode column w = .error (.bufferTooSmall data.length column.bufferSize) w := by
  have hkind : column.hostType.lobKind? = none := by
    rcases Value.payload?_cases hdata with ⟨hhost, -⟩ | ⟨hhost | hhost, -⟩ <;> rw [hhost] <;> rfl
  have hnull := isNullInput_of_overlong hdata (Nat.zero_lt_of_lt hlong)
  have hput : ResultSet.putCell w.server column.hostType c (.new column.bufferSize) =
      .error (.bufferTooSmall data.length column.bufferSize) := by
    have hencode := Buffer.encode_of_overlong (b := .new column.bufferSize) hdata hnull hlong
    cases c with
    | null => cases hnull
    | text t => exact (if_neg (Bool.eq_false_iff.mp hnull)).trans hencode
    | int | double | bytes | lob => exact hencode
  rw [decode_of_scalar hkind, hput]
  rfl

/-! ## Contents that are not read -/

/-- **A large object is opened unread**, and so is everything else: a cell that decodes, decodes
alike when a content is another one, unless that content is the value of the cell. -/
theorem Cell.decode_withContent {c : Cell} {n : Nat} {v : Value} (content : Bytes)
    (hn : n < w.server.contents.length)
    (hother : column.hostType.lobKind? = none → c ≠ .lob n) (h : c.decode column w = .ok v w') :
    c.decode column (w.withContent n content) = .ok v (w'.withContent n content) := by
  have hvalue (hc : c ≠ .lob n) : c.value (w.withContent n content).server = c.value w.server := by
    cases c with
    | lob m =>
      have hm : n ≠ m := fun hm => hc (by rw [hm])
      simp [value, World.withContent, Server.setContent, Server.content, List.getElem?_set_ne hm]
    | null | int | double | text | bytes => rfl
  cases hkind : column.hostType.lobKind? with
  | none =>
    have hput : ResultSet.putCell (w.withContent n content).server column.hostType c
        (.new column.bufferSize) =
        ResultSet.putCell w.server column.hostType c (.new column.bufferSize) := by
      cases c with
      | lob m => rw [ResultSet.putCell_lob, ResultSet.putCell_lob, hvalue (hother hkind)]
      | null | int | double | text | bytes => rfl
    rw [decode_of_scalar hkind] at h ⊢
    rw [hput]
    split at h
    · cases h
      rfl
    · cases h
  | some kind =>
    rw [decode_of_lob hkind] at h ⊢
    by_cases hnull : c = .null
    · subst hnull
      cases h
      rfl
    · rcases ResultSet.lobContent_cases w.server hnull with ⟨m, rfl, hlob⟩ | ⟨hplain, hlob⟩
      · rw [hlob] at h
        cases h
        rfl
      · -- the copy is kept behind the content that is another one
        have hbytes : c.lobBytes (w.withContent n content).server = c.lobBytes w.server := by
          rw [lobBytes, hvalue (hplain n), lobBytes]
        obtain ⟨m, hm, -⟩ | ⟨-, hlob'⟩ :=
          ResultSet.lobContent_cases (w.withContent n content).server hnull
        · exact absurd hm (hplain m)
        rw [hlob] at h
        rw [hlob', hbytes]
        cases h
        have hset : (w.server.contents.set n content) ++ [c.lobBytes w.server] =
            (w.server.contents ++ [c.lobBytes w.server]).set n content :=
          (List.set_append_left n content hn).symm
        simp [World.withContent, Server.setContent, World.enter, hset]

theorem decodeCells_withContent {n : Nat} {decoded : List Value} (content : Bytes)
    (hn : n < w.server.contents.length)
    (hother : ∀ i column, columns[i]? = some column → column.hostType.lobKind? = none →
      cell (number + i) ≠ .ok (.lob n))
    (h : decodeCells cell number decoded columns w = .ok vs w') :
    decodeCells cell number decoded columns (w.withContent n content) =
      .ok vs (w'.withContent n content) := by
  induction columns generalizing number decoded w with
  | nil =>
    cases h
    rfl
  | cons column rest ih =>
    rw [decodeCells] at h ⊢
    cases hcell : cell number with
    | error e =>
      rw [hcell] at h
      cases h
    | ok c =>
      rw [hcell] at h
      simp only at h ⊢
      cases hdecode : c.decode column w with
      | error e w₁ =>
        rw [hdecode] at h
        cases h
      | ok v w₁ =>
        have hfirst := c.decode_withContent content hn (fun hkind hc =>
          hother 0 column rfl hkind (by rw [Nat.add_zero, hcell, hc])) hdecode
        have hgrown := (Cell.gains_decode hdecode).fewer.contents.length_le
        rw [hdecode] at h
        rw [hfirst]
        exact ih (Nat.lt_of_lt_of_le hn hgrown) (fun i column' hcolumn hkind => by
          have := hother (i + 1) column' hcolumn hkind
          rwa [show number + (i + 1) = number + 1 + i by omega] at this) h

/-! ## All columns -/

/-- **Columns from a number on are decoded** as these values, one for each, and the handles among
them are different ones. -/
structure Decoded (w w' : ClientWorld) (cell : Nat → Except Error Cell) (number : Nat)
    (columns : List Column) (vs : List Value) : Prop where
  length : vs.length = columns.length
  alone : ∀ i column, columns[i]? = some column →
    failure? (decodeCell cell (number + i) column w) = none
  faithful : ∀ i column v, columns[i]? = some column → vs[i]? = some v →
    ∃ c, cell (number + i) = .ok c ∧ Faithful w w' column c v
  ordered : (vs.filterMap Value.handle?).Pairwise (· < ·)

/-- **The `k`-th column is the first that fails** alone. -/
structure FirstFailure (w : ClientWorld) (cell : Nat → Except Error Cell) (number : Nat)
    (columns : List Column) (k : Nat) (e : Error) : Prop where
  fails : ∃ column, columns[k]? = some column ∧
    failure? (decodeCell cell (number + k) column w) = some e
  first : ∀ i < k, ∀ column, columns[i]? = some column →
    failure? (decodeCell cell (number + i) column w) = none

theorem Decoded.nil (w : ClientWorld) (cell : Nat → Except Error Cell) (number : Nat) :
    Decoded w w cell number [] [] where
  length := rfl
  alone := by simp
  faithful := by simp
  ordered := .nil

/-- The handles of decoded values are new. -/
theorem Decoded.fresh (h : Decoded w w' cell number columns vs) {id : Nat}
    (hid : id ∈ vs.filterMap Value.handle?) : w.handles.length ≤ id := by
  obtain ⟨v, hv, hhandle⟩ := List.mem_filterMap.mp hid
  obtain ⟨i, hi⟩ := List.mem_iff_getElem?.mp hv
  obtain ⟨ref, rfl, rfl⟩ := Value.exists_of_handle? hhandle
  have hlt : i < columns.length := h.length ▸ (List.getElem?_eq_some_iff.mp hi).1
  obtain ⟨c, -, hfaithful⟩ := h.faithful i _ _ (List.getElem?_eq_getElem hlt) hi
  obtain ⟨_, _, -, hopens⟩ := hfaithful.opens ref rfl
  exact hopens.fresh

section Run
variable (hstored : ∀ number c, cell number = .ok c → c.Stored w.server.contents.length)
include hstored

/-- One column more in front. -/
theorem Decoded.cons {w₁ : ClientWorld} {c : Cell} {v : Value} (hcell : cell number = .ok c)
    (hdecode : c.decode column w = .ok v w₁) (hgrown : w₁.Grown w')
    (h : Decoded w₁ w' cell (number + 1) columns vs) :
    Decoded w w' cell number (column :: columns) (v :: vs) := by
  obtain ⟨hfirst, hgrown₁⟩ := Cell.faithful_decode (hstored number c hcell) hdecode
  refine ⟨congrArg (· + 1) h.length, ?_, ?_, ?_⟩
  · rintro (_ | i) column' hcolumn
    · cases hcolumn
      simp only [Nat.add_zero, decodeCell, hcell, hdecode]
      rfl
    · rw [show number + (i + 1) = number + 1 + i by omega, ← failure?_decodeCell_of_grown hgrown₁
        (hstored _)]
      exact h.alone i column' hcolumn
  · rintro (_ | i) column' u hcolumn hu
    · cases hcolumn
      cases hu
      exact ⟨c, hcell, hfirst.grown hgrown⟩
    · obtain ⟨c', hc', hfaithful⟩ := h.faithful i column' u hcolumn hu
      rw [show number + (i + 1) = number + 1 + i by omega]
      exact ⟨c', hc', hfaithful.of_grown hgrown₁ (hstored _ c' hc')⟩
  · cases hv : v.handle? with
    | none =>
      rw [List.filterMap_cons_none hv]
      exact h.ordered
    | some id =>
      rw [List.filterMap_cons_some hv, List.pairwise_cons]
      refine ⟨fun later hlater => ?_, h.ordered⟩
      obtain ⟨ref, rfl, rfl⟩ := Value.exists_of_handle? hv
      obtain ⟨_, _, -, hopens⟩ := hfirst.opens ref rfl
      exact Nat.lt_of_lt_of_le (List.getElem?_eq_some_iff.mp hopens.handle).1 (h.fresh hlater)

/-- A failure behind a column that decodes. -/
theorem FirstFailure.cons {w₁ : ClientWorld} {c : Cell} {v : Value} {k : Nat} {e : Error}
    (hcell : cell number = .ok c) (hdecode : c.decode column w = .ok v w₁)
    (h : FirstFailure w₁ cell (number + 1) columns k e) :
    FirstFailure w cell number (column :: columns) (k + 1) e := by
  have hgrown := (Cell.faithful_decode (hstored number c hcell) hdecode).2
  have hsame (i : Nat) (column' : Column) :
      failure? (decodeCell cell (number + (i + 1)) column' w) =
        failure? (decodeCell cell (number + 1 + i) column' w₁) := by
    rw [show number + (i + 1) = number + 1 + i by omega,
      failure?_decodeCell_of_grown hgrown (hstored _)]
  obtain ⟨⟨column', hcolumn, hfails⟩, hfirst⟩ := h
  refine ⟨⟨column', hcolumn, (hsame k column').trans hfails⟩, ?_⟩
  rintro (_ | i) hi column₁ hcolumn₁
  · cases hcolumn₁
    simp only [Nat.add_zero, decodeCell, hcell, hdecode]
    rfl
  · exact (hsame i column₁).trans (hfirst i (Nat.lt_of_succ_lt_succ hi) column₁ hcolumn₁)

/-- **All that decoding columns can come to.** -/
theorem decodeCells_cases (number : Nat) (decoded : List Value) (columns : List Column) :
    (∃ vs w', decodeCells cell number decoded columns w = .ok (decoded.reverse ++ vs) w' ∧
        w.Grown w' ∧ Decoded w w' cell number columns vs) ∨
      ∃ e w' k, decodeCells cell number decoded columns w = .error e w' ∧
        FirstFailure w cell number columns k e := by
  induction columns generalizing number decoded w with
  | nil =>
    exact .inl ⟨[], w, by rw [decodeCells, List.append_nil]; rfl, .refl w, .nil w cell number⟩
  | cons column rest ih =>
    rw [decodeCells]
    cases hcell : cell number with
    | error e =>
      refine .inr ⟨e, _, 0, rfl, ⟨column, rfl, ?_⟩, by simp⟩
      simp only [Nat.add_zero, decodeCell, hcell]
      rfl
    | ok c =>
      simp only
      cases hdecode : c.decode column w with
      | error e w₁ =>
        refine .inr ⟨e, _, 0, rfl, ⟨column, rfl, ?_⟩, by simp⟩
        simp only [Nat.add_zero, decodeCell, hcell, hdecode]
        rfl
      | ok v w₁ =>
        have hgrown := (Cell.faithful_decode (hstored number c hcell) hdecode).2
        have hstored₁ (m : Nat) (c' : Cell) (hc' : cell m = .ok c') :
            c'.Stored w₁.server.contents.length :=
          (hstored m c' hc').mono hgrown.contents.length_le
        rcases ih hstored₁ (number + 1) (v :: decoded) with
          ⟨vs, w', hrest, hgrown', hdecoded⟩ | ⟨e, w', k, hrest, hfails⟩
        · refine .inl ⟨v :: vs, w', hrest.trans ?_, hgrown.trans hgrown',
            hdecoded.cons hstored hcell hdecode hgrown'⟩
          rw [List.reverse_cons, List.append_assoc, List.singleton_append]
        · exact .inr ⟨e, w', k + 1, hrest, hfails.cons hstored hcell hdecode⟩

end Run
end Scripted

/-! ## The row of a cursor -/

namespace Cursor

variable {c : Cursor ResultSet} {w : ClientWorld}

/-- **What decoding the current row means for its columns.** -/
structure DecodesFaithfully (c : Cursor ResultSet) (w : ClientWorld) : Prop where
  /-- The row decodes exactly when every column decodes alone. -/
  decodes_iff : (∃ row state, decodeRow (c, w) = .ok row state) ↔
    ∀ i column, c.columns[i]? = some column →
      ∃ v state, decodeColumn (i + 1) column (c, w) = .ok v state
  /-- A row has one value for each column, in order, and each is faithful to its cell.  No two of
  them are the same handle. -/
  row : ∀ row c' w', decodeRow (c, w) = .ok row (c', w') →
    row.columns = c.columns ∧ row.values.length = c.columns.length ∧
      (row.values.filterMap Value.handle?).Nodup ∧
      ∀ i column v, c.columns[i]? = some column → row.values[i]? = some v →
        ∃ cell, c.rows.cell (i + 1) = .ok cell ∧ Faithful w w' column cell v
  /-- A content that only large objects show is not read: it may be any other. -/
  unread : ∀ row c' w' n content, decodeRow (c, w) = .ok row (c', w') →
    n < w.server.contents.length →
    (∀ i column, c.columns[i]? = some column → column.hostType.lobKind? = none →
      c.rows.cell (i + 1) ≠ .ok (.lob n)) →
    ∃ c'', decodeRow (c, w.withContent n content) = .ok row (c'', w'.withContent n content)
  /-- A row that fails, fails as the first column that fails alone. -/
  error : ∀ e state, decodeRow (c, w) = .error e state →
    ∃ k column state', c.columns[k]? = some column ∧
      decodeColumn (k + 1) column (c, w) = .error e state' ∧
      ∀ i < k, ∀ column, c.columns[i]? = some column →
        ∃ v state, decodeColumn (i + 1) column (c, w) = .ok v state
  /-- A column without a cell fails. -/
  missing : ∀ i column e, c.columns[i]? = some column → c.rows.isClosed = false →
    c.rows.cell (i + 1) = .error e → ∃ state, decodeColumn (i + 1) column (c, w) = .error e state
  /-- Text and bytes longer than the buffer fail; they are not cut. -/
  overlong : ∀ i column cell data, c.columns[i]? = some column → c.rows.isClosed = false →
    c.rows.cell (i + 1) = .ok cell →
    (cell.value w.server).payload? column.hostType = some data → column.bufferSize < data.length →
    ∃ state, decodeColumn (i + 1) column (c, w) =
      .error (.bufferTooSmall data.length column.bufferSize) state

/-- The cell that is shown is one of the row. -/
theorem cell_of_shown {r : ResultSet} {number : Nat} {cell : Cell}
    (h : r.shown number = .ok cell) : r.cell number = .ok cell := by
  unfold ResultSet.shown at h
  split at h
  · cases h
  · exact h

/-- A column succeeds or fails as it does alone. -/
theorem decodeColumn_cases (number : Nat) (column : Column) (c : Cursor ResultSet)
    (w : ClientWorld) :
    (∃ v state, decodeColumn number column (c, w) = .ok v state) ∧
        failure? (decodeCell c.rows.shown number column w) = none ∨
      ∃ e state, decodeColumn number column (c, w) = .error e state ∧
        failure? (decodeCell c.rows.shown number column w) = some e := by
  obtain ⟨buffer, hcolumn⟩ := decodeColumn_eq number column c w
  have halone : decodeColumn number column (c, w) =
      c.withRead buffer (decodeCell c.rows.shown number column w) := hcolumn
  rw [halone]
  cases decodeCell c.rows.shown number column w with
  | ok v w' => exact .inl ⟨⟨v, _, rfl⟩, rfl⟩
  | error e w' => exact .inr ⟨e, _, rfl, rfl⟩

theorem exists_decodeColumn_iff {number : Nat} {column : Column} :
    (∃ v state, decodeColumn number column (c, w) = .ok v state) ↔
      failure? (decodeCell c.rows.shown number column w) = none := by
  rcases decodeColumn_cases number column c w with ⟨hok, halone⟩ | ⟨e, state, herror, halone⟩
  · exact iff_of_true hok halone
  · rw [herror, halone]
    exact iff_of_false (by rintro ⟨_, _, h⟩; cases h) (by simp)

theorem decodeColumn_of_failure? {number : Nat} {column : Column} {e : Error}
    (h : failure? (decodeCell c.rows.shown number column w) = some e) :
    ∃ state, decodeColumn number column (c, w) = .error e state := by
  rcases decodeColumn_cases number column c w with ⟨-, halone⟩ | ⟨e', state, herror, halone⟩
  · rw [h] at halone
    cases halone
  · cases h.symm.trans halone
    exact ⟨state, herror⟩

/-- **All that decoding a row can come to.** -/
theorem decodeRow_cases (hstored : c.rows.Stored w.server.contents.length) :
    (∃ vs c' w', decodeRow (c, w) = .ok ⟨vs, c.columns⟩ (c', w') ∧
        decodeCells c.rows.shown 1 [] c.columns w = .ok vs w' ∧
        Decoded w w' c.rows.shown 1 c.columns vs) ∨
      ∃ e state k, decodeRow (c, w) = .error e state ∧
        FirstFailure w c.rows.shown 1 c.columns k e := by
  obtain ⟨buffer, hrow⟩ := decodeRow_eq c w
  have hshown : ∀ number cell, c.rows.shown number = .ok cell →
      cell.Stored w.server.contents.length := fun _ _ h => hstored.shown h
  rcases decodeCells_cases hshown 1 [] c.columns with
    ⟨vs, w', hcells, -, hdecoded⟩ | ⟨e, w', k, hcells, hfails⟩
  · rw [run_bind_ok hcells] at hrow
    exact .inl ⟨vs, _, w', hrow, hcells, hdecoded⟩
  · rw [run_bind_error hcells] at hrow
    exact .inr ⟨e, _, k, hrow, hfails⟩

/-- **Row decoding is faithful**, whatever the result set and its columns are, as long as its large
objects have contents. -/
theorem decodesFaithfully (hstored : c.rows.Stored w.server.contents.length) :
    DecodesFaithfully c w where
  decodes_iff := by
    rcases decodeRow_cases hstored with
      ⟨vs, c', w', hrow, -, hdecoded⟩ | ⟨e, state, k, hrow, ⟨column, hcolumn, hfails⟩, -⟩
    · refine iff_of_true ⟨_, _, hrow⟩ fun i column hcolumn => ?_
      rw [exists_decodeColumn_iff, Nat.add_comm]
      exact hdecoded.alone i column hcolumn
    · refine iff_of_false ?_ fun hall => ?_
      · rintro ⟨row, state', hok⟩
        cases hrow.symm.trans hok
      · have halone := exists_decodeColumn_iff.mp (hall k column hcolumn)
        rw [Nat.add_comm, hfails] at halone
        cases halone
  row := by
    intro row c₁ w₁ hok
    rcases decodeRow_cases hstored with ⟨vs, c', w', hrow, -, hdecoded⟩ | ⟨e, state, k, hrow, -⟩
    · cases hrow.symm.trans hok
      refine ⟨rfl, hdecoded.length, hdecoded.ordered.imp Nat.ne_of_lt, fun i column v hcolumn hv => ?_⟩
      obtain ⟨cell, hcell, hfaithful⟩ := hdecoded.faithful i column v hcolumn hv
      exact ⟨cell, cell_of_shown (Nat.add_comm i 1 ▸ hcell), hfaithful⟩
    · cases hrow.symm.trans hok
  unread := by
    intro row c₁ w₁ n content hok hn hother
    rcases decodeRow_cases hstored with ⟨vs, c', w', hrow, hcells, -⟩ | ⟨e, state, k, hrow, -⟩
    · cases hrow.symm.trans hok
      have hsame := decodeCells_withContent content hn (fun i column hcolumn hkind hcell =>
        hother i column hcolumn hkind (cell_of_shown (Nat.add_comm i 1 ▸ hcell))) hcells
      obtain ⟨buffer, hrow'⟩ := decodeRow_eq c (w.withContent n content)
      rw [run_bind_ok hsame] at hrow'
      exact ⟨_, hrow'⟩
    · cases hrow.symm.trans hok
  error := by
    intro e₁ state₁ herror
    rcases decodeRow_cases hstored with
      ⟨vs, c', w', hrow, -⟩ | ⟨e, state, k, hrow, ⟨column, hcolumn, hfails⟩, hfirst⟩
    · cases hrow.symm.trans herror
    · cases hrow.symm.trans herror
      rw [Nat.add_comm] at hfails
      obtain ⟨state', hstate'⟩ := decodeColumn_of_failure? hfails
      refine ⟨k, column, state', hcolumn, hstate', fun i hi column' hcolumn' => ?_⟩
      rw [exists_decodeColumn_iff, Nat.add_comm]
      exact hfirst i hi column' hcolumn'
  missing := by
    intro i column e _ hopen hcell
    refine decodeColumn_of_failure? ?_
    rw [decodeCell, ResultSet.shown, if_neg (Bool.eq_false_iff.mp hopen), hcell]
    rfl
  overlong := by
    intro i column cell data _ hopen hcell hdata hlong
    refine decodeColumn_of_failure? ?_
    rw [decodeCell, ResultSet.shown, if_neg (Bool.eq_false_iff.mp hopen), hcell]
    simp only [Cell.decode_of_overlong hdata hlong]
    rfl

/-- A row with an empty text, a number written as text, NULL, a large object that is no text, and a
text in the place of a large object.  In the next row the text is too long for its column. -/
theorem decodesFaithfully_mixed :
    let descriptions : List ColumnDescription :=
      [.ofLength "T" SqlType.varcharUnicode.code 1, .ofLength "N" SqlType.integer.code 10,
        .ofLength "M" SqlType.integer.code 10, .ofLength "C" SqlType.clobUnicode.code 10,
        .ofLength "D" SqlType.clobUnicode.code 10]
    let rows (position : Nat) : ResultSet :=
      { columns := descriptions
        rows := [[.text "", .text " 12 ", .null, .lob 0, .text "ab"],
          [.text "abcde", .int 5, .null, .lob 0, .text "ab"]]
        position, isForwardOnly := false, isClosed := false }
    let c (position : Nat) : Cursor ResultSet :=
      { rows := rows position
        columns := descriptions.filterMap fun d => (Column.ofDescription d).toOption
        buffer := .new 0, standing := .onRow, isClosed := false }
    let w : ClientWorld := ⟨{ Server.empty with contents := [[0xff]] }, []⟩
    (∀ position, (c position).rows.Stored w.server.contents.length ∧
      DecodesFaithfully (c position) w) ∧
    result? (decodeRow (c 1, w)) = some ⟨[.text "", .int32 12, .null, .lob ⟨0, .character⟩,
      .lob ⟨1, .character⟩], (c 1).columns⟩ ∧
    failure? (decodeRow (c 2, w)) = some (.bufferTooSmall 5 4) := by
  intro descriptions rows c w
  have hstored (position : Nat) : (c position).rows.Stored w.server.contents.length := by
    simp [c, rows, w, ResultSet.Stored, Cell.Stored]
  refine ⟨fun position => ⟨hstored position, decodesFaithfully (hstored position)⟩, ?_, ?_⟩
  · decide +kernel
  · decide +kernel

end Cursor
end SqlClient
