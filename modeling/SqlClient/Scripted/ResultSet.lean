import SqlClient.Cursor.Remote
import SqlClient.Scripted.Lob

/-!
# Result sets of the scripted server

A result set of `n` rows stands at a position from zero to `n + 1`: on a row, before the first or
after the last.  Moves beyond either edge stop there.  A forward-only result set allows no move
but to the next row.
-/

namespace SqlClient.Scripted

/-- The value a cell holds. -/
def Cell.value (s : Server) : Cell → Value
  | .null => .null
  | .int n => .int64 n
  | .double d => .double d
  | .text t => .text t
  | .bytes b => .bytes b
  | .lob content => .bytes (s.content content)

/-- A result set of the scripted server. -/
structure ResultSet where
  columns : List ColumnDescription
  rows : List (List Cell)
  /-- Zero before the first row, one more than the number of rows after the last. -/
  position : Nat
  isForwardOnly : Bool
  isClosed : Bool
  deriving DecidableEq, Repr

namespace ResultSet

/-- A result set before its first row, in which a cursor may move freely. -/
def new (result : Result) : ResultSet := ⟨result.columns, result.rows, 0, false, false⟩

/-- The result set stands on a row. -/
def onRow (r : ResultSet) : Bool := decide (1 ≤ r.position ∧ r.position ≤ r.rows.length)

/-- The number of the current row from one, zero off the rows. -/
def rowNumber (r : ResultSet) : Nat := if r.onRow then r.position else 0

/-- The 64-bit integer nearest to an integer. -/
def saturated (n : Int) : Int := max (-0x8000000000000000) (min n 0x7fffffffffffffff)

/-- Where a move aims at, among `n` rows from a position. -/
def target (n position : Nat) : Seek → Int
  | .next => position + 1
  | .previous => position - 1
  | .first => 1
  | .last => n
  | .absolute row => if row.toInt < 0 then n + 1 + row.toInt else row.toInt
  | .relative distance => saturated (position + distance.toInt)

/-- Where a move ends.  Without rows there is no first or last one, and the move ends after
them. -/
def destination (n position : Nat) (move : Seek) : Nat :=
  match n, move with
  | 0, .first | 0, .last => 1
  | n, move => (max 0 (min (target n position move) (n + 1))).toNat

theorem destination_le (n position : Nat) (move : Seek) : destination n position move ≤ n + 1 := by
  unfold destination
  split <;> omega

/-- Refuse what needs an open result set. -/
def whileOpen {α : Type} (op : EStateM Error (ResultSet × Server) α) :
    EStateM Error (ResultSet × Server) α := fun (r, s) =>
  if r.isClosed then .error (.refused .resultSetClosed) (r, s) else op (r, s)

/-- Move to another row. -/
def seek (move : Seek) : EStateM Error (ResultSet × Server) SeekStatus :=
  whileOpen fun (r, s) =>
    if r.isForwardOnly ∧ move ≠ .next then .error (.refused (.forwardOnly move)) (r, s)
    else
      let r := { r with position := destination r.rows.length r.position move }
      .ok (if r.onRow then .row else .noData) (r, s)

/-- The cell in a column, counted from one, of the current row. -/
def cell (r : ResultSet) (column : Nat) : Except Error Cell :=
  if r.onRow then
    match column, r.rows[r.position - 1]? with
    | index + 1, some cells =>
      match cells[index]? with
      | some cell => .ok cell
      | none => .error (.refused (.columnIndex column))
    | _, _ => .error (.refused (.columnIndex column))
  else .error (.refused .noCurrentRow)

/-- Put a cell into a buffer.  An empty text is no bytes rather than NULL. -/
def putCell (s : Server) (host : HostType) (cell : Cell) (buffer : Buffer) :
    Except Error Buffer :=
  match cell with
  | .null => .ok buffer.setNull
  | .text t => if t.isEmpty then buffer.putBytes [] else buffer.encode host (.text t)
  | cell => buffer.encode host (cell.value s)

/-- Put a column of the current row into a buffer. -/
def readColumn (column : Nat) (host : HostType) :
    EStateM Error (Buffer × ResultSet × Server) Unit := fun (buffer, r, s) =>
  if r.isClosed then .error (.refused .resultSetClosed) (buffer, r, s)
  else
    match (r.cell column).bind fun cell => putCell s host cell buffer with
    | .ok buffer => .ok () (buffer, r, s)
    | .error e => .error e (buffer, r, s)

/-- The number of the content that a cell shows as a large object, none for NULL.  A large object
is shared; anything else gives a private copy of its bytes. -/
def lobContent (s : Server) : Cell → Option Nat × Server
  | .null => (none, s)
  | .lob content => (some content, s)
  | .bytes b =>
    let (content, s) := s.store b
    (some content, s)
  | cell =>
    let (content, s) := s.store (Utf8.encode (cell.value s).display)
    (some content, s)

/-- Open the large object in a column of the current row. -/
def openLob (column : Nat) (host : HostType) : EStateM Error (ResultSet × Server) (Option Lob) :=
  whileOpen fun (r, s) =>
    match host.lobKind? with
    | none => .error (.conversion (.notLob host)) (r, s)
    | some kind =>
      match r.cell column with
      | .error e => .error e (r, s)
      | .ok cell =>
        let (content, s) := lobContent s cell
        .ok (content.map (Lob.new · kind)) (r, s)

/-- Set the number of rows per round trip. -/
def setFetchSize (rows : Nat) : EStateM Error (ResultSet × Server) Unit :=
  whileOpen fun (r, s) =>
    .ok () (r, { s with settings := { s.settings with fetchSize := some rows } })

/-- Give the result set back; the server counts it once. -/
def close : ResultSet × Server → ResultSet × Server := fun (r, s) =>
  if r.isClosed then (r, s)
  else ({ r with isClosed := true }, { s with closedResultSets := s.closedResultSets + 1 })

instance : RemoteRows ResultSet Server Lob where
  describe := fun (r, s) => .ok r.columns (r, s)
  rowCount r := r.rows.length
  rowNumber := rowNumber
  setFetchSize := setFetchSize
  seek := seek
  readColumn := readColumn
  openLob := openLob
  close := close

end ResultSet
end SqlClient.Scripted
