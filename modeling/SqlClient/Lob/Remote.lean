import SqlClient.Error

/-!
# Large objects on a server

What the client needs of a large object on a server.  `σ` is the state of one such object, and
`ω` what it shares with others.  An operation may change both, also when it fails.
-/

namespace SqlClient

/-- What a server answers to a read. -/
inductive LobChunk where
  /-- The bytes it put at the front of the room, and how many it says it put there. -/
  | data (bytes : Bytes) (count : Nat)
  /-- The read starts past the end. -/
  | noData
  /-- The object is NULL. -/
  | null
  deriving DecidableEq, Repr

/-- A large object on a server.  Positions count from one. -/
class RemoteLob (σ : Type) (ω : outParam Type) where
  /-- The length in bytes or characters. -/
  length : EStateM Error (σ × ω) Nat
  /-- The current position, zero when it is not known. -/
  position : EStateM Error (σ × ω) Nat
  /-- The preferred size of reads and writes. -/
  preferredSize : EStateM Error (σ × ω) Nat
  /-- Read up to `room` bytes from a position, or from the current one. -/
  read (room : Nat) (start : Option Int64) : EStateM Error (σ × ω) LobChunk
  /-- Write at the current position. -/
  write (data : Bytes) : EStateM Error (σ × ω) Unit
  /-- Give the object back to the server. -/
  close : EStateM Error (σ × ω) Unit

end SqlClient
