import SqlClient.Proofs.BufferIndicator
import SqlClient.Proofs.CellFidelity
import SqlClient.Proofs.CursorPosition
import SqlClient.Proofs.ParameterBinding

/-! # Declared maxima

A buffer has room for the largest value that its description declares, and what is transferred keeps
within it (`Buffer.Within`).  For bytes and text that is checked at every transfer.  Integers and
doubles are written unchecked; they keep within it because a buffer is sized for the host type it is
written under (`HostType.FitsIn`).

A parameter has one host type for good, so its buffer keeps within the same maximum whatever is
bound to it and whatever the server stores (`Parameter.Sized.afterAll`).  The buffer of a cursor is
used for columns of all types and is resized for each (`Cursor.within_decodeInBuffer`).
-/
namespace SqlClient

/-! ## Buffers -/

/-- Values of a fixed size have room. -/
def HostType.FitsIn (host : HostType) (limit : Nat) : Prop :=
  ∀ size, host.fixedSize? = some size → size ≤ limit

/-- A maximum has room for the values of its host type, whatever the lengths. -/
theorem HostType.fitsIn_maxBytes (host : HostType) (declaredLength byteLength : Int) :
    host.FitsIn (host.maxBytes declaredLength byteLength) := fun _ hsize =>
  (maxBytes_of_fixedSize? hsize declaredLength byteLength).ge

namespace Buffer

variable {b b' : Buffer} {host : HostType} {v : Value} {limit : Nat}

/-- **The buffer keeps within a limit**, which is its capacity: it holds NULL, or at most so many
bytes. -/
structure Within (limit : Nat) (b : Buffer) : Prop where
  capacity : b.capacity = limit
  indicator : b.indicator = -1 ∨ 0 ≤ b.indicator ∧ b.indicator ≤ limit

theorem within_new (limit : Nat) : (new limit).Within limit :=
  ⟨rfl, .inr ⟨Int.le_refl 0, Int.natCast_nonneg limit⟩⟩

theorem within_reset (b : Buffer) (limit : Nat) : (b.reset limit).Within limit :=
  ⟨rfl, .inr ⟨Int.le_refl 0, Int.natCast_nonneg limit⟩⟩

theorem Within.setNull (h : b.Within limit) : b.setNull.Within limit := ⟨h.capacity, .inl rfl⟩

/-- Variable data is checked. -/
theorem Within.of_putBytes (h : b.Within limit) {data : Bytes} (hput : b.putBytes data = .ok b') :
    b'.Within limit := by
  obtain ⟨hfits, rfl⟩ := putBytes_eq_ok_iff.mp hput
  have hlength : (data.length : Int) ≤ limit := by
    rw [← h.capacity]
    exact_mod_cast hfits
  exact ⟨h.capacity, .inr ⟨Int.natCast_nonneg _, hlength⟩⟩

/-- Values of a fixed size are not checked, but have room. -/
theorem Within.of_written (h : b.Within limit) (hfits : host.FitsIn limit)
    (hwritten : Written b v host b') : b'.Within limit := by
  cases hwritten with
  | int32 => exact ⟨h.capacity, .inr ⟨Int.natCast_nonneg 4, Int.ofNat_le.mpr (hfits 4 rfl)⟩⟩
  | int64 | double =>
    exact ⟨h.capacity, .inr ⟨Int.natCast_nonneg 8, Int.ofNat_le.mpr (hfits 8 rfl)⟩⟩
  | bytes _ _ hput | text _ _ hput => exact h.of_putBytes hput

theorem Within.of_encode (h : b.Within limit) (hfits : host.FitsIn limit)
    (hencode : b.encode host v = .ok b') : b'.Within limit := by
  rcases encode_cases hencode with ⟨-, rfl⟩ | ⟨-, hwritten⟩
  · exact h.setNull
  · exact h.of_written hfits hwritten

/-- What does not resize the buffer keeps within its limit, if values are encoded under a host type
that has room. -/
theorem Within.perform (h : b.Within limit) {call : Call}
    (hcall : (∃ data, call = .putBytes data) ∨
      ∃ host v, call = .encode host v ∧ host.FitsIn limit) :
    (leaves (perform call b)).Within limit := by
  rcases perform_cases call b with ⟨b', hchanged, hperform⟩ | ⟨e, hperform⟩
  · rw [hperform]
    rcases hcall with ⟨data, rfl⟩ | ⟨host, v, rfl, hfits⟩
    · exact h.of_putBytes hchanged
    · exact h.of_encode hfits hchanged
  · rwa [hperform]

end Buffer

/-! ## Parameters -/

namespace Parameter

/-- What writes into the buffer of a parameter. -/
inductive Use where
  | bind (position : Nat) (v : Value)
  /-- The server encodes a value under the host type of the parameter. -/
  | encode (v : Value)
  /-- The server stores bytes as they are. -/
  | putBytes (data : Bytes)
  deriving DecidableEq, Repr

/-- The parameter after a use, also after one that is refused. -/
def after (p : Parameter) : Use → Parameter
  | .bind position v =>
    match p.bind position v with
    | .ok p' => p'
    | .error _ => p
  | .encode v => p.withBuffer (leaves (Buffer.perform (.encode p.binding.host v) p.binding.buffer))
  | .putBytes data => p.withBuffer (leaves (Buffer.perform (.putBytes data) p.binding.buffer))

/-- The parameter after uses one after the other. -/
def afterAll (p : Parameter) (uses : List Use) : Parameter := uses.foldl after p

variable {p : Parameter} {limit : Nat}

/-- A parameter whose buffer is sized for its host type, and keeps within that size. -/
structure Sized (limit : Nat) (p : Parameter) : Prop where
  fits : p.binding.host.FitsIn limit
  within : p.binding.buffer.Within limit

theorem Sized.withBuffer (h : p.Sized limit) {buffer : Buffer} (hbuffer : buffer.Within limit) :
    (p.withBuffer buffer).Sized limit :=
  ⟨h.fits, hbuffer⟩

/-- A parameter is sized as it is described, with any lengths. -/
theorem sized_of_description {d : ParameterDescription} {marker : Option Marker}
    (h : ofDescription d marker = .ok p) : p.Sized p.maxBytes := by
  unfold ofDescription at h
  split at h
  · cases h
  · cases h
    exact ⟨HostType.fitsIn_maxBytes _ d.length d.byteLength, Buffer.within_new _⟩

theorem Sized.after (h : p.Sized limit) (use : Use) : (p.after use).Sized limit := by
  cases use with
  | bind position v =>
    rw [Parameter.after]
    cases hbind : p.bind position v with
    | error e => exact h
    | ok p' =>
      by_cases hin : p.binding.mode.isInput = true
      · obtain ⟨buffer, hencode, rfl⟩ := bind_eq_ok hbind hin
        exact h.withBuffer (h.within.of_encode h.fits hencode)
      · rw [bind_of_not_isInput (Bool.eq_false_iff.mpr hin)] at hbind
        exact Except.ok.inj hbind ▸ h
  | encode v => exact h.withBuffer (h.within.perform (.inr ⟨_, v, rfl, h.fits⟩))
  | putBytes data => exact h.withBuffer (h.within.perform (.inl ⟨data, rfl⟩))

theorem Sized.afterAll (h : p.Sized limit) (uses : List Use) : (p.afterAll uses).Sized limit := by
  induction uses generalizing p with
  | nil => exact h
  | cons use uses ih => exact ih (h.after use)

end Parameter

/-! ## Cursors -/

namespace Scripted.ResultSet

/-- A cell keeps within a limit that has room for its host type. -/
theorem within_of_putCell {s : Server} {host : HostType} {cell : Cell} {b b' : Buffer}
    {limit : Nat} (h : b.Within limit) (hfits : host.FitsIn limit)
    (hput : putCell s host cell b = .ok b') : b'.Within limit := by
  rcases putCell_cases hput with ⟨-, rfl⟩ | ⟨-, hwritten⟩ | ⟨-, hbytes⟩
  · exact h.setNull
  · exact h.of_written hfits hwritten
  · exact h.of_putBytes hbytes

end Scripted.ResultSet

namespace Cursor

open Scripted

variable {c c' c'' : Cursor ResultSet} {columns : List Column}

/-- **A column keeps within its size**, in whatever state the buffer was before, and also when it
does not decode. -/
theorem within_decodeInBuffer (number : Nat) (column : Column) (c : Cursor ResultSet)
    (w : ClientWorld) :
    (leaves (decodeInBuffer number column (c, w))).1.buffer.Within column.bufferSize := by
  have hreset := c.buffer.within_reset column.bufferSize
  have hread : RemoteRows.readColumn number column.hostType
      (c.buffer.reset column.bufferSize, c.rows, w.server) =
      ResultSet.readColumn number column.hostType
        (c.buffer.reset column.bufferSize, c.rows, w.server) := rfl
  simp only [decodeInBuffer, hread, ResultSet.readColumn_eq]
  cases hput : (c.rows.shown number).bind fun cell =>
      ResultSet.putCell w.server column.hostType cell (c.buffer.reset column.bufferSize) with
  | error e => exact hreset
  | ok buffer =>
    obtain ⟨cell, -, hcell⟩ := SqlClient.bind_eq_ok hput
    have hwithin : buffer.Within column.bufferSize :=
      ResultSet.within_of_putCell hreset
        (HostType.fitsIn_maxBytes _ column.length column.byteLength) hcell
    simp only
    cases buffer.decode column.hostType <;> exact hwithin

/-- **What decoding leaves of a cursor.**  Only the buffer changes: it is as it was, or as the
transfer of one of the columns left it. -/
def Transfers (columns : List Column) (c c' : Cursor ResultSet) : Prop :=
  ∃ buffer, c' = { c with buffer } ∧ (buffer = c.buffer ∨
    ∃ column ∈ columns, column.hostType.lobKind? = none ∧ buffer.Within column.bufferSize)

theorem Transfers.refl (columns : List Column) (c : Cursor ResultSet) : Transfers columns c c :=
  ⟨c.buffer, rfl, .inl rfl⟩

theorem Transfers.trans (hfirst : Transfers columns c c') (hnext : Transfers columns c' c'') :
    Transfers columns c c'' := by
  obtain ⟨buffer, rfl, hbuffer⟩ := hfirst
  obtain ⟨buffer', rfl, hsame | hcolumn⟩ := hnext
  · exact ⟨buffer', rfl, hsame ▸ hbuffer⟩
  · exact ⟨buffer', rfl, .inr hcolumn⟩

theorem transfers_decodeColumn (number : Nat) {column : Column} (hmem : column ∈ columns)
    (c : Cursor ResultSet) (w : ClientWorld) :
    Transfers columns c (leaves (decodeColumn number column (c, w))).1 := by
  cases hkind : column.hostType.lobKind? with
  | some kind =>
    simp only [decodeColumn, hkind]
    rw [decodeLob_eq number hkind, leaves_withRead]
    exact .refl columns c
  | none =>
    have hwithin := within_decodeInBuffer number column c w
    obtain ⟨buffer, hdecode⟩ := decodeInBuffer_eq number hkind c w
    simp only [decodeColumn, hkind]
    rw [hdecode, leaves_withRead] at hwithin ⊢
    exact ⟨buffer, rfl, .inr ⟨column, hmem, hkind, hwithin⟩⟩

theorem transfers_decodeFrom (number : Nat) (decoded : List Value) {rest : List Column}
    (hrest : ∀ column ∈ rest, column ∈ columns) (c : Cursor ResultSet) (w : ClientWorld) :
    Transfers columns c (leaves (decodeFrom number decoded rest (c, w))).1 := by
  induction rest generalizing number decoded c w with
  | nil => exact .refl columns c
  | cons column rest ih =>
    have hfirst := transfers_decodeColumn number (hrest column (List.mem_cons_self ..)) c w
    simp only [decodeFrom]
    cases hdecode : decodeColumn number column (c, w) with
    | error e state =>
      rw [hdecode] at hfirst
      exact hfirst
    | ok v state =>
      rw [hdecode] at hfirst
      exact hfirst.trans (ih (number + 1) (v :: decoded)
        (fun column hmem => hrest column (List.mem_cons_of_mem _ hmem)) state.1 state.2)

theorem transfers_current (c : Cursor ResultSet) (w : ClientWorld) :
    Transfers c.columns c (leaves (current (c, w))).1 := by
  by_cases hrow : c.standing = .onRow
  · rw [current_of_onRow hrow, leaves_bind_pure, decodeRow, run_bind_get, leaves_bind_pure]
    exact transfers_decodeFrom 1 [] (fun _ hmem => hmem) c w
  · rw [current_of_not_onRow hrow]
    exact .refl c.columns c

/-- **A cursor keeps within its columns**: they stay the same, and the buffer keeps within the
widest of them while nothing was transferred, and then within the one that was transferred last. -/
structure KeepsWithin (columns : List Column) (c : Cursor ResultSet) : Prop where
  same : c.columns = columns
  buffer : c.buffer.Within (widest columns) ∨
    ∃ column ∈ columns, column.hostType.lobKind? = none ∧ c.buffer.Within column.bufferSize

theorem KeepsWithin.of_transfers (h : c.KeepsWithin columns) (hread : Transfers columns c c') :
    c'.KeepsWithin columns := by
  obtain ⟨buffer, rfl, rfl | hcolumn⟩ := hread
  · exact h
  · exact ⟨h.same, .inr hcolumn⟩

theorem KeepsWithin.current (h : c.KeepsWithin columns) (w : ClientWorld) :
    (leaves (Cursor.current (c, w))).1.KeepsWithin columns :=
  h.of_transfers (h.same ▸ transfers_current c w)

/-- A move transfers nothing. -/
theorem KeepsWithin.seek (h : c.KeepsWithin columns) (move : Seek) (w : ClientWorld) :
    (leaves (Cursor.seek move (c, w))).1.KeepsWithin columns := by
  cases hclosed : c.rows.isClosed with
  | true =>
    rw [seek_of_closed hclosed]
    exact ⟨h.same, h.buffer⟩
  | false =>
    rw [seek_of_open hclosed]
    split <;> exact ⟨h.same, h.buffer⟩

theorem KeepsWithin.fetch (h : c.KeepsWithin columns) (move : Seek) (w : ClientWorld) :
    (leaves (Cursor.fetch move (c, w))).1.KeepsWithin columns := by
  have hmove := h.seek move w
  rw [Cursor.fetch]
  cases hseek : Cursor.seek move (c, w) with
  | error e state =>
    rw [hseek] at hmove
    rw [run_bind_error hseek]
    exact hmove
  | ok outcome state =>
    rw [hseek] at hmove
    rw [run_bind_ok hseek]
    cases outcome with
    | pastEdge => exact hmove
    | onRow => exact hmove.current state.2

theorem KeepsWithin.close (h : c.KeepsWithin columns) (w : ClientWorld) :
    (Cursor.close (c, w)).1.KeepsWithin columns := by
  simp only [Cursor.close]
  split <;> exact ⟨h.same, h.buffer⟩

theorem KeepsWithin.perform (h : c.KeepsWithin columns) (call : Call) (w : ClientWorld) :
    (leaves (Cursor.perform call (c, w))).1.KeepsWithin columns := by
  cases call with
  | seek move =>
    rw [Cursor.perform, leaves_bind_pure]
    exact h.seek move w
  | fetch move =>
    rw [Cursor.perform, leaves_bind_pure]
    exact h.fetch move w
  | current =>
    rw [Cursor.perform, leaves_bind_pure]
    exact h.current w
  | count => exact h
  | setFetchSize rows =>
    rw [Cursor.perform, leaves_bind_pure, setFetchSize_cursor]
    exact h
  | close => exact h.close w

theorem KeepsWithin.performAll (h : c.KeepsWithin columns) (calls : List Call) (w : ClientWorld) :
    (performAll calls (c, w)).1.KeepsWithin columns := by
  induction calls generalizing c w with
  | nil => exact h
  | cons call calls ih => exact ih (h.perform call w) (leaves (Cursor.perform call (c, w))).2

/-- A cursor is opened with room for its widest column. -/
theorem keepsWithin_of_openOn {rows : ResultSet} {w w' : ClientWorld}
    (hopen : openOn rows w = .ok c w') : c.KeepsWithin c.columns := by
  obtain ⟨-, hc, -⟩ := openOn_eq_ok hopen
  rw [hc]
  exact ⟨rfl, .inl (Buffer.within_new _)⟩

end Cursor

/-! ## Both -/

/-- **A maximum is kept** by a parameter through these uses: it stays the same, and what is
transferred is NULL or no longer than it. -/
structure Parameter.KeepsMaximum (p : Parameter) (uses : List Parameter.Use) : Prop where
  maximum : (p.afterAll uses).maxBytes = p.maxBytes
  transferred : (p.afterAll uses).transferLength = -1 ∨
    0 ≤ (p.afterAll uses).transferLength ∧ (p.afterAll uses).transferLength ≤ p.maxBytes

open Scripted in
/-- **Maxima are kept** by a cursor through these calls: its columns and their sizes stay the same,
its buffer keeps within one of these sizes, and the next transfer of a column, whether it succeeds
or fails, keeps within the size of that column. -/
structure Cursor.KeepsMaxima (c : Cursor ResultSet) (w : ClientWorld) (calls : List Cursor.Call) :
    Prop where
  shared : (Cursor.performAll calls (c, w)).1.KeepsWithin c.columns
  transferred : ∀ number column,
    (leaves (Cursor.decodeInBuffer number column (Cursor.performAll calls (c, w)))).1.buffer.Within
      column.bufferSize

open Scripted in
/-- **No declared maximum is exceeded**, by a parameter that was described in any way or by the
shared buffer of a cursor. -/
theorem declared_maxima_kept :
    (∀ d marker p, Parameter.ofDescription d marker = .ok p →
      ∀ uses, p.KeepsMaximum uses) ∧
    ∀ (rows : ResultSet) (w w' : ClientWorld) (c : Cursor ResultSet),
      Cursor.openOn rows w = .ok c w' → ∀ calls, c.KeepsMaxima w' calls := by
  constructor
  · intro d marker p hdescription uses
    have hsized := (Parameter.sized_of_description hdescription).afterAll uses
    exact ⟨hsized.within.capacity, hsized.within.indicator⟩
  · intro rows w w' c hopen calls
    exact ⟨(Cursor.keepsWithin_of_openOn hopen).performAll calls w',
      fun number column => Cursor.within_decodeInBuffer number column _ _⟩

/-- A text of undeclared length, and two columns of which one is too narrow. -/
theorem declared_maxima_kept_narrow :
    let d : ParameterDescription := .ofLength SqlType.varcharAscii.code (-5) .inputOutput
    let uses : List Parameter.Use := [.bind 1 (.text "x"), .putBytes [], .encode (.text "y")]
    let rows : Scripted.ResultSet := .new ⟨[.ofLength "F" SqlType.float.code 15,
      .ofLength "T" SqlType.varcharAscii.code 1], [[.int 5, .text "longer"]]⟩
    let calls : List Cursor.Call := [.fetch .next, .current]
    (∃ p, Parameter.ofDescription d none = .ok p ∧ p.KeepsMaximum uses ∧
      (p.afterAll uses).transferLength = 0) ∧
    ∃ c w, Cursor.openOn rows (.new .empty) = .ok c w ∧ c.KeepsMaxima w calls ∧
      (Cursor.performAll calls (c, w)).1.buffer = .new 4 := by
  intro d uses rows calls
  constructor
  · have hdescription : ∃ p, Parameter.ofDescription d none = .ok p ∧
        (p.afterAll uses).transferLength = 0 := ⟨_, by rfl, by decide⟩
    obtain ⟨p, hdescription, hlength⟩ := hdescription
    exact ⟨p, hdescription, declared_maxima_kept.1 d none p hdescription uses, hlength⟩
  · have hopen : ∃ c w, Cursor.openOn rows (.new .empty) = .ok c w ∧
        (Cursor.performAll calls (c, w)).1.buffer = .new 4 := ⟨_, _, by rfl, by cbv⟩
    obtain ⟨c, w, hopen, hbuffer⟩ := hopen
    exact ⟨c, w, hopen, declared_maxima_kept.2 rows _ w c hopen calls, hbuffer⟩

end SqlClient
