import SqlClient.Buffer
import SqlClient.Column

/-!
# Result sets on a server

What the client needs of a result set on a server.  `ρ` is the state of one result set, `ω` the
server it belongs to, and `σ` the state of a large object opened on it.  An operation may change
result set and server, also when it fails.
-/

namespace SqlClient

/-- A result set on a server. -/
class RemoteRows (ρ : Type) (ω σ : outParam Type) where
  /-- The descriptions of the columns. -/
  describe : EStateM Error (ρ × ω) (List ColumnDescription)
  /-- The number of rows, as far as the server knows it. -/
  rowCount : ρ → Int
  /-- The number of the current row from one, zero off the rows. -/
  rowNumber : ρ → Nat
  /-- Set the number of rows per round trip. -/
  setFetchSize (rows : Nat) : EStateM Error (ρ × ω) Unit
  /-- Move to another row. -/
  seek (move : Seek) : EStateM Error (ρ × ω) SeekStatus
  /-- Put a column of the current row, counted from one, into a buffer. -/
  readColumn (column : Nat) (host : HostType) : EStateM Error (Buffer × ρ × ω) Unit
  /-- Open the large object in a column of the current row; there is none for NULL. -/
  openLob (column : Nat) (host : HostType) : EStateM Error (ρ × ω) (Option σ)
  /-- Give the result set back to the server. -/
  close : ρ × ω → ρ × ω

end SqlClient
