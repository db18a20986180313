import SqlClient.Proofs.Outcome
import SqlClient.Statement

/-! # Decoding a row of the scripted server

A cursor decodes the row it stands on column by column, through a buffer it uses for all of them.
What comes out depends on the cells of the row alone: `Cell.decode` is the value of one cell under
its column, read through a buffer of its own, and `decodeCells` that of all of them.  The cursor
agrees with it (`decodeRow_eq`), and nothing of the cursor changes but what its buffer holds.

Decoding opens large objects and drops those of a row that fails.  Of the server it changes
nothing else (`OnlyLobs`); in particular no result set is given out or taken back
(`SameResultSets`).
-/
namespace SqlClient

namespace Scripted

/-! ## Nothing happens to result sets -/

/-- The same result sets were given out by the server, and the same were given back. -/
structure Server.SameResultSets (s s' : Server) : Prop where
  opened : s'.openedResultSets = s.openedResultSets
  closed : s'.closedResultSets = s.closedResultSets

namespace Server.SameResultSets

variable {s s' s'' : Server}

theorem refl (s : Server) : s.SameResultSets s := ⟨rfl, rfl⟩

theorem trans (hfirst : s.SameResultSets s') (hnext : s'.SameResultSets s'') :
    s.SameResultSets s'' :=
  ⟨hnext.opened.trans hfirst.opened, hnext.closed.trans hfirst.closed⟩

end Server.SameResultSets

/-- **Only large objects changed**: their contents, and the number of those that were closed. -/
def Server.OnlyLobs (s s' : Server) : Prop :=
  ∃ contents closedLobs, s' = { s with contents, closedLobs }

namespace Server.OnlyLobs

variable {s s' s'' : Server}

theorem refl (s : Server) : s.OnlyLobs s := ⟨s.contents, s.closedLobs, rfl⟩

theorem trans (hfirst : s.OnlyLobs s') (hnext : s'.OnlyLobs s'') : s.OnlyLobs s'' := by
  obtain ⟨_, _, rfl⟩ := hfirst
  obtain ⟨contents, closedLobs, rfl⟩ := hnext
  exact ⟨contents, closedLobs, rfl⟩

theorem sameResultSets (h : s.OnlyLobs s') : s.SameResultSets s' := by
  obtain ⟨_, _, rfl⟩ := h
  exact ⟨rfl, rfl⟩

end Server.OnlyLobs

theorem onlyLobs_lobContent (s : Server) (cell : Cell) :
    s.OnlyLobs (ResultSet.lobContent s cell).2 := by
  cases cell <;> exact ⟨_, _, rfl⟩

end Scripted

open Scripted

theorem World.onlyLobs_dropAlias (w : ClientWorld) (ref : LobRef) :
    w.server.OnlyLobs (w.dropAlias ref).server := by
  simp only [World.dropAlias]
  cases w.handle? ref with
  | none => exact .refl w.server
  | some h =>
    simp only [LobHandle.drop]
    split <;> exact ⟨_, _, rfl⟩

theorem World.onlyLobs_releaseAll (w : ClientWorld) (vs : List Value) :
    w.server.OnlyLobs (w.releaseAll vs).server := by
  induction vs generalizing w with
  | nil => exact .refl w.server
  | cons v vs ih =>
    have hfirst : w.server.OnlyLobs (w.release v).server := by
      cases v with
      | lob ref => exact w.onlyLobs_dropAlias ref
      | _ => exact .refl w.server
    exact hfirst.trans (ih _)

namespace Scripted

/-! ## Cells -/

/-- **The value of a cell under its column.**  A large object becomes a handle; anything else is
transferred in a buffer of its own. -/
def Cell.decode (column : Column) (cell : Cell) : EStateM Error ClientWorld Value := fun w =>
  match column.hostType.lobKind? with
  | some kind =>
    match ResultSet.lobContent w.server cell with
    | (none, server) => .ok .null { w with server }
    | (some content, server) =>
      let (ref, w) := World.enter { w with server } (Lob.new content kind) kind
      .ok (.lob ref) w
  | none =>
    match (ResultSet.putCell w.server column.hostType cell (.new column.bufferSize)).bind
      (·.decode column.hostType) with
    | .ok v => .ok v w
    | .error e => .error e w

/-- The values of cells from a column on; `decoded` holds those before, last first.  The first
cell that is missing or does not decode is the error, and what was decoded before is dropped. -/
def decodeCells (cell : Nat → Except Error Cell) (number : Nat) (decoded : List Value) :
    List Column → EStateM Error ClientWorld (List Value)
  | [] => pure decoded.reverse
  | column :: rest => fun w =>
    match cell number with
    | .error e => .error e (w.releaseAll decoded.reverse)
    | .ok c =>
      match c.decode column w with
      | .ok v w => decodeCells cell (number + 1) (v :: decoded) rest w
      | .error e w => .error e (w.releaseAll decoded.reverse)

/-- The cell in a column, counted from one, of a row. -/
def cellOf (cells : List Cell) : Nat → Except Error Cell
  | 0 => .error (.refused (.columnIndex 0))
  | index + 1 =>
    match cells[index]? with
    | some cell => .ok cell
    | none => .error (.refused (.columnIndex (index + 1)))

/-- The row that cells make under columns. -/
def decodeRowOf (columns : List Column) (cells : List Cell) : EStateM Error ClientWorld Row := do
  return { values := ← decodeCells (cellOf cells) 1 [] columns, columns }

theorem Cell.onlyLobs_decode (column : Column) (cell : Cell) (w : ClientWorld) :
    w.server.OnlyLobs (leaves (cell.decode column w)).server := by
  unfold Cell.decode
  split
  · have hcontent := onlyLobs_lobContent w.server cell
    split <;> rename_i server hlob <;> rw [hlob] at hcontent <;> exact hcontent
  · split <;> exact .refl w.server

theorem onlyLobs_decodeCells (cell : Nat → Except Error Cell) (number : Nat)
    (decoded : List Value) (columns : List Column) (w : ClientWorld) :
    w.server.OnlyLobs (leaves (decodeCells cell number decoded columns w)).server := by
  induction columns generalizing number decoded w with
  | nil => exact .refl w.server
  | cons column rest ih =>
    rw [decodeCells]
    split
    · exact w.onlyLobs_releaseAll _
    · rename_i c _
      have hcell := c.onlyLobs_decode column w
      simp only
      cases hc : c.decode column w with
      | ok v w' =>
        rw [hc] at hcell
        exact hcell.trans (ih ..)
      | error e w' =>
        rw [hc] at hcell
        exact hcell.trans (w'.onlyLobs_releaseAll _)

/-- The cell that a result set shows in a column.  A closed one shows none. -/
def ResultSet.shown (r : ResultSet) (number : Nat) : Except Error Cell :=
  if r.isClosed then .error (.refused .resultSetClosed) else r.cell number

/-- On a row, its cells are shown. -/
theorem ResultSet.shown_eq_cellOf {r : ResultSet} {cells : List Cell}
    (hopen : r.isClosed = false) (hpos : 1 ≤ r.position)
    (hcells : r.rows[r.position - 1]? = some cells) : r.shown = cellOf cells := by
  have hlt : r.position - 1 < r.rows.length := (List.getElem?_eq_some_iff.mp hcells).1
  have hrow : r.onRow = true := decide_eq_true (by omega)
  funext number
  cases number with
  | zero => simp [shown, hopen, ResultSet.cell, hrow, cellOf]
  | succ index =>
    simp only [shown, hopen, ResultSet.cell, hrow, hcells, cellOf]
    rfl

theorem ResultSet.readColumn_eq (number : Nat) (host : HostType) (buffer : Buffer)
    (r : ResultSet) (s : Server) :
    readColumn number host (buffer, r, s) =
      match (r.shown number).bind fun cell => putCell s host cell buffer with
      | .ok buffer => .ok () (buffer, r, s)
      | .error e => .error e (buffer, r, s) := by
  cases hclosed : r.isClosed with
  | true => simp [readColumn, shown, hclosed, Except.bind]
  | false =>
    have hshown : r.shown number = r.cell number := by simp [shown, hclosed]
    rw [hshown]
    cases hput : (r.cell number).bind fun cell => putCell s host cell buffer <;>
      simp [readColumn, hclosed, hput]

theorem ResultSet.openLob_eq (number : Nat) {host : HostType} {kind : LobKind}
    (hkind : host.lobKind? = some kind) (r : ResultSet) (s : Server) :
    openLob number host (r, s) =
      match r.shown number with
      | .error e => .error e (r, s)
      | .ok cell => .ok ((lobContent s cell).1.map (Lob.new · kind)) (r, (lobContent s cell).2) := by
  cases hclosed : r.isClosed
  · cases hcell : r.cell number <;> simp [openLob, whileOpen, shown, hclosed, hkind, hcell]
  · simp [openLob, whileOpen, shown, hclosed]

end Scripted

/-! ## The cursor agrees -/

namespace Cursor

/-- The result of reading by a cursor that is left with another buffer. -/
def withRead {α : Type} (c : Cursor ResultSet) (buffer : Buffer) :
    EStateM.Result Error ClientWorld α → EStateM.Result Error (Cursor ResultSet × ClientWorld) α
  | .ok a w => .ok a ({ c with buffer }, w)
  | .error e w => .error e ({ c with buffer }, w)

theorem leaves_withRead {α : Type} (c : Cursor ResultSet) (buffer : Buffer)
    (result : EStateM.Result Error ClientWorld α) :
    leaves (c.withRead buffer result) = ({ c with buffer }, leaves result) := by
  cases result <;> rfl

/-- Nothing of what the buffer held before is left when a cell is read. -/
theorem decodeInBuffer_eq (number : Nat) {column : Column}
    (hkind : column.hostType.lobKind? = none) (c : Cursor ResultSet) (w : ClientWorld) :
    ∃ buffer, decodeInBuffer number column (c, w) = c.withRead buffer
      (match c.rows.shown number with
      | .error e => .error e w
      | .ok cell => cell.decode column w) := by
  have hread : RemoteRows.readColumn number column.hostType
      (c.buffer.reset column.bufferSize, c.rows, w.server) =
      ResultSet.readColumn number column.hostType (.new column.bufferSize, c.rows, w.server) := rfl
  simp only [decodeInBuffer, hread, ResultSet.readColumn_eq]
  cases c.rows.shown number with
  | error e => exact ⟨_, rfl⟩
  | ok cell =>
    simp only [Except.bind, Cell.decode, hkind]
    cases ResultSet.putCell w.server column.hostType cell (.new column.bufferSize) with
    | error e => exact ⟨_, rfl⟩
    | ok buffer =>
      simp only
      cases buffer.decode column.hostType <;> exact ⟨_, rfl⟩

theorem decodeLob_eq (number : Nat) {column : Column} {kind : LobKind}
    (hkind : column.hostType.lobKind? = some kind) (c : Cursor ResultSet) (w : ClientWorld) :
    decodeLob number column kind (c, w) = c.withRead c.buffer
      (match c.rows.shown number with
      | .error e => .error e w
      | .ok cell => cell.decode column w) := by
  have hopen := ResultSet.openLob_eq number hkind c.rows w.server
  have hremote : onServer (RemoteRows.openLob number column.hostType) (c, w) =
      onServer (ResultSet.openLob number column.hostType) (c, w) := rfl
  cases hshown : c.rows.shown number with
  | error e =>
    rw [hshown] at hopen
    have hlob : onServer (RemoteRows.openLob number column.hostType) (c, w) = .error e (c, w) := by
      rw [hremote, onServer, hopen]
    rw [decodeLob, run_bind_error hlob]
    rfl
  | ok cell =>
    rw [hshown] at hopen
    have hlob : onServer (RemoteRows.openLob number column.hostType) (c, w) =
        .ok ((ResultSet.lobContent w.server cell).1.map (Lob.new · kind))
          (c, { w with server := (ResultSet.lobContent w.server cell).2 }) := by
      rw [hremote, onServer, hopen]
    rw [decodeLob, run_bind_ok hlob]
    simp only [Cell.decode, hkind]
    rcases ResultSet.lobContent w.server cell with ⟨_ | content, server⟩ <;> rfl

theorem decodeColumn_eq (number : Nat) (column : Column) (c : Cursor ResultSet)
    (w : ClientWorld) :
    ∃ buffer, decodeColumn number column (c, w) = c.withRead buffer
      (match c.rows.shown number with
      | .error e => .error e w
      | .ok cell => cell.decode column w) := by
  cases hkind : column.hostType.lobKind? with
  | none =>
    have hcolumn : decodeColumn number column (c, w) = decodeInBuffer number column (c, w) := by
      simp only [decodeColumn, hkind]
    rw [hcolumn]
    exact decodeInBuffer_eq number hkind c w
  | some kind =>
    have hcolumn : decodeColumn number column (c, w) = decodeLob number column kind (c, w) := by
      simp only [decodeColumn, hkind]
    exact ⟨c.buffer, hcolumn.trans (decodeLob_eq number hkind c w)⟩

theorem decodeFrom_eq (number : Nat) (decoded : List Value) (columns : List Column)
    (c : Cursor ResultSet) (w : ClientWorld) :
    ∃ buffer, decodeFrom number decoded columns (c, w) =
      c.withRead buffer (decodeCells c.rows.shown number decoded columns w) := by
  induction columns generalizing number decoded c w with
  | nil => exact ⟨c.buffer, rfl⟩
  | cons column rest ih =>
    obtain ⟨buffer, hcolumn⟩ := decodeColumn_eq number column c w
    simp only [decodeFrom, decodeCells, hcolumn]
    cases c.rows.shown number with
    | error e => exact ⟨buffer, rfl⟩
    | ok cell =>
      simp only
      cases cell.decode column w with
      | error e w' => exact ⟨buffer, rfl⟩
      | ok v w' =>
        -- the next column finds another buffer, but the same result set
        obtain ⟨buffer', hrest⟩ := ih (number + 1) (v :: decoded) { c with buffer } w'
        exact ⟨buffer', hrest⟩

/-- **A row is decoded cell by cell**, whatever the buffer held before. -/
theorem decodeRow_eq (c : Cursor ResultSet) (w : ClientWorld) :
    ∃ buffer, decodeRow (c, w) = c.withRead buffer
      ((do return { values := ← decodeCells c.rows.shown 1 [] c.columns, columns := c.columns } :
        EStateM Error ClientWorld Row) w) := by
  obtain ⟨buffer, hfrom⟩ := decodeFrom_eq 1 [] c.columns c w
  refine ⟨buffer, ?_⟩
  rw [decodeRow, run_bind_get]
  cases hcells : decodeCells c.rows.shown 1 [] c.columns w with
  | error e w' =>
    rw [hcells] at hfrom
    rw [run_bind_error hfrom, run_bind_error hcells]
    rfl
  | ok values w' =>
    rw [hcells] at hfrom
    rw [run_bind_ok hfrom, run_bind_ok hcells]
    rfl

/-- What reading leaves of a cursor and its world: the buffer may hold something else, and large
objects may have been opened or dropped. -/
structure Read (before after : Cursor ResultSet × ClientWorld) : Prop where
  cursor : ∃ buffer, after.1 = { before.1 with buffer }
  server : before.2.server.OnlyLobs after.2.server

theorem read_decodeRow (c : Cursor ResultSet) (w : ClientWorld) :
    Read (c, w) (leaves (decodeRow (c, w))) := by
  obtain ⟨buffer, hrow⟩ := decodeRow_eq c w
  rw [hrow, leaves_withRead]
  refine ⟨⟨buffer, rfl⟩, ?_⟩
  have hcells := onlyLobs_decodeCells c.rows.shown 1 [] c.columns w
  cases hdecoded : decodeCells c.rows.shown 1 [] c.columns w with
  | error e w' =>
    rw [hdecoded] at hcells
    rwa [run_bind_error hdecoded]
  | ok values w' =>
    rw [hdecoded] at hcells
    rwa [run_bind_ok hdecoded]

/-- The cursor reads the row it stands on, and no other. -/
theorem decodeRow_of_onRow {c : Cursor ResultSet} {cells : List Cell}
    (hopen : c.rows.isClosed = false) (hpos : 1 ≤ c.rows.position)
    (hcells : c.rows.rows[c.rows.position - 1]? = some cells) (w : ClientWorld) :
    ∃ buffer, decodeRow (c, w) = c.withRead buffer (decodeRowOf c.columns cells w) := by
  obtain ⟨buffer, hrow⟩ := decodeRow_eq c w
  rw [ResultSet.shown_eq_cellOf hopen hpos hcells] at hrow
  exact ⟨buffer, hrow⟩

end Cursor
end SqlClient
