import SqlClient.Cursor.Remote
import SqlClient.Lob.World
import SqlClient.Row

/-!
# Cursors

A cursor owns a result set on the server and knows where it stands after its last move.  It
decodes the row it stands on, column by column, through one transfer buffer that is cleared and
resized for each column.  Closing a cursor closes the result set, once; a result set for which no
cursor can be opened is closed at once.
-/

namespace SqlClient

/-- Where a cursor stands after its last move. -/
inductive Standing where
  /-- No move was made yet. -/
  | unpositioned
  | onRow
  | beforeFirst
  | afterLast
  deriving DecidableEq, Repr

/-- What a move came to. -/
inductive SeekOutcome where
  | onRow
  /-- The move left the rows. -/
  | pastEdge
  deriving DecidableEq, Repr

/-- The edge a move leads to when there is no row; going nowhere leaves the cursor where it
stood. -/
def Seek.edge (move : Seek) (standing : Standing) : Standing :=
  match move with
  | .next | .first | .last => .afterLast
  | .previous => .beforeFirst
  | .absolute row => if 0 < row then .afterLast else .beforeFirst
  | .relative distance =>
    if 0 < distance then .afterLast
    else if distance < 0 then .beforeFirst
    else standing

/-- A cursor over a result set. -/
structure Cursor (ρ : Type) where
  /-- The result set on the server. -/
  rows : ρ
  columns : List Column
  /-- The buffer all columns are transferred in. -/
  buffer : Buffer
  standing : Standing
  isClosed : Bool
  deriving DecidableEq, Repr

namespace Cursor

variable {ρ ω σ : Type} [RemoteRows ρ ω σ] [RemoteLob σ ω]

/-- The columns a result set describes, at least one of them and all of known types. -/
def describe : EStateM Error (ρ × ω) (List Column) := do
  match Column.ofDescriptions (← RemoteRows.describe) with
  | .error e => throw e
  | .ok [] => throw .noColumns
  | .ok columns => return columns

/-- The size of the widest column that is transferred in the buffer. -/
def widest (columns : List Column) : Nat :=
  (columns.filter fun c => !c.hostType.isLob).foldl (fun size c => max size c.bufferSize) 0

/-- Open a cursor over a fresh result set.  The result set is closed if that fails. -/
def openOn (rows : ρ) : EStateM Error (World ω σ) (Cursor ρ) := fun w =>
  match describe (rows, w.server) with
  | .error e state => .error e { w with server := (RemoteRows.close state).2 }
  | .ok columns (rows, server) =>
    let cursor :=
      { rows, columns, buffer := .new (widest columns), standing := .unpositioned
        isClosed := false }
    .ok cursor { w with server }

/-- Run an operation of the server on the result set. -/
def onServer {α : Type} (op : EStateM Error (ρ × ω) α) :
    EStateM Error (Cursor ρ × World ω σ) α := fun (c, w) =>
  match op (c.rows, w.server) with
  | .ok a (rows, server) => .ok a ({ c with rows }, { w with server })
  | .error e (rows, server) => .error e ({ c with rows }, { w with server })

/-- The number of rows the server reports. -/
def rowCount (c : Cursor ρ) : Int := RemoteRows.rowCount c.rows

/-- The number of the current row from one, zero off the rows. -/
def rowNumber (c : Cursor ρ) : Nat :=
  match c.standing with
  | .onRow => RemoteRows.rowNumber c.rows
  | _ => 0

/-- Set the number of rows per round trip. -/
def setFetchSize (rows : Nat) : EStateM Error (Cursor ρ × World ω σ) Unit :=
  onServer (RemoteRows.setFetchSize rows)

/-- Move the cursor.  A failed move leaves it standing where it stood. -/
def seek (move : Seek) : EStateM Error (Cursor ρ × World ω σ) SeekOutcome := do
  match ← onServer (RemoteRows.seek move) with
  | .row =>
    modify fun (c, w) => ({ c with standing := .onRow }, w)
    return .onRow
  | .noData =>
    modify fun (c, w) => ({ c with standing := move.edge c.standing }, w)
    return .pastEdge

/-- Transfer the value of a column in the buffer. -/
def decodeInBuffer (number : Nat) (column : Column) :
    EStateM Error (Cursor ρ × World ω σ) Value := fun (c, w) =>
  let buffer := c.buffer.reset column.bufferSize
  match RemoteRows.readColumn number column.hostType (buffer, c.rows, w.server) with
  | .error e (buffer, rows, server) => .error e ({ c with buffer, rows }, { w with server })
  | .ok () (buffer, rows, server) =>
    let state := ({ c with buffer, rows }, { w with server })
    match buffer.decode column.hostType with
    | .error e => .error e state
    | .ok v => .ok v state

/-- Open a handle on the large object in a column. -/
def decodeLob (number : Nat) (column : Column) (kind : LobKind) :
    EStateM Error (Cursor ρ × World ω σ) Value := do
  match ← onServer (RemoteRows.openLob number column.hostType) with
  | none => return .null
  | some lob =>
    modifyGet fun (c, w) =>
      let (ref, w) := w.enter lob kind
      (.lob ref, c, w)

/-- The value of a column of the current row. -/
def decodeColumn (number : Nat) (column : Column) :
    EStateM Error (Cursor ρ × World ω σ) Value :=
  match column.hostType.lobKind? with
  | some kind => decodeLob number column kind
  | none => decodeInBuffer number column

/-- The values of the columns from a number on; `decoded` holds those before, last first.  When
a column fails, the values decoded before it are dropped in order. -/
def decodeFrom (number : Nat) (decoded : List Value) :
    List Column → EStateM Error (Cursor ρ × World ω σ) (List Value)
  | [] => pure decoded.reverse
  | column :: rest => fun state =>
    match decodeColumn number column state with
    | .ok v state => decodeFrom (number + 1) (v :: decoded) rest state
    | .error e (c, w) => .error e (c, w.releaseAll decoded.reverse)

/-- Decode every column of the current row. -/
def decodeRow : EStateM Error (Cursor ρ × World ω σ) Row := do
  let columns := (← get).1.columns
  let values ← decodeFrom 1 [] columns
  return { values, columns }

/-- The row the cursor stands on, if it stands on one. -/
def current : EStateM Error (Cursor ρ × World ω σ) (Option Row) := do
  match (← get).1.standing with
  | .onRow => return some (← decodeRow)
  | _ => return none

/-- Move the cursor and decode the row it comes to. -/
def fetch (move : Seek) : EStateM Error (Cursor ρ × World ω σ) (Option Row) := do
  match ← seek move with
  | .onRow => current
  | .pastEdge => return none

/-- Close the result set.  A closed cursor stays as it is. -/
def close : Cursor ρ × World ω σ → Cursor ρ × World ω σ := fun (c, w) =>
  if c.isClosed then (c, w)
  else
    let (rows, server) := RemoteRows.close (c.rows, w.server)
    ({ c with rows, isClosed := true, standing := .unpositioned }, { w with server })

/-- An operation on a cursor. -/
inductive Call where
  | seek (move : Seek)
  | fetch (move : Seek)
  | current
  | count
  | setFetchSize (rows : Nat)
  | close
  deriving DecidableEq, Repr

/-- The result of an operation on a cursor. -/
inductive Answer where
  | done
  | moved (outcome : SeekOutcome)
  | row (row : Option Row)
  | count (n : Int)
  deriving DecidableEq, Repr

/-- Any operation on a cursor. -/
def perform : Call → EStateM Error (Cursor ρ × World ω σ) Answer
  | .seek move => return .moved (← seek move)
  | .fetch move => return .row (← fetch move)
  | .current => return .row (← current)
  | .count => return .count (← get).1.rowCount
  | .setFetchSize rows => do setFetchSize rows; return .done
  | .close => do modify close; return .done

end Cursor
end SqlClient
