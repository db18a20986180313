import SqlClient.Lob.Remote
import SqlClient.Value

/-!
# LOB handles

A handle stands for one open large object on a server.  Aliases of a handle share everything: the
object with its position, and whether it is open.  Closing through one alias closes it for all,
and the last alias that is dropped closes what is still open.
-/

namespace SqlClient

/-- The state that all aliases of a handle share. -/
structure LobHandle (σ : Type) where
  /-- The object on the server. -/
  lob : σ
  kind : LobKind
  isOpen : Bool
  /-- The number of live aliases. -/
  aliases : Nat
  deriving DecidableEq, Repr

/-- An operation on a handle. -/
inductive LobCall where
  /-- Read up to `size` bytes from a position, or from the current one. -/
  | read (start : Option Int64) (size : Nat)
  | write (v : Value)
  | close
  | length
  | position
  | preferredSize
  deriving DecidableEq, Repr

/-- The result of an operation on a handle. -/
inductive LobAnswer where
  | done
  | value (v : Value)
  | number (n : Nat)
  deriving DecidableEq, Repr

namespace LobHandle

variable {σ ω : Type} [RemoteLob σ ω]

/-- A handle on an open object, with one alias. -/
def new (lob : σ) (kind : LobKind) : LobHandle σ := ⟨lob, kind, true, 1⟩

/-- The handle with one more alias. -/
def addAlias (h : LobHandle σ) : LobHandle σ := { h with aliases := h.aliases + 1 }

/-- Run an operation of the server on an open handle. -/
def onServer {α : Type} (op : EStateM Error (σ × ω) α) : EStateM Error (LobHandle σ × ω) α :=
  fun (h, w) =>
    if h.isOpen then
      match op (h.lob, w) with
      | .ok a (lob, w) => .ok a ({ h with lob }, w)
      | .error e (lob, w) => .error e ({ h with lob }, w)
    else .error .lobClosed (h, w)

/-- The bytes a read delivers: what the server put into the room, which was zero before, as far
as the server says it goes. -/
def delivered (chunk : LobChunk) (size : Nat) : Bytes :=
  match chunk with
  | .data bytes count =>
    let room := min count size
    bytes.take room ++ List.replicate (room - bytes.length) 0
  | .noData | .null => []

/-- The value that a chunk read into `size` bytes gives.  Text must be whole characters, and a
read with room that gets none of the characters left was too small. -/
def valueOf (kind : LobKind) (chunk : LobChunk) (size : Nat) : Except Error Value :=
  match kind with
  | .binary => .ok (.bytes (delivered chunk size))
  | .character =>
    match chunk, size with
    | .data _ 0, size + 1 => .error (.conversion (.readTooSmall (size + 1)))
    | chunk, size =>
      ((Utf8.decode (delivered chunk size)).map .text).mapError fun fault =>
        .conversion (.notUtf8 .lobData fault)

/-- No buffer has this many bytes or more.  A larger one cannot be asked for, and one of this size
would take every address that a program has. -/
def roomLimit : Nat := 0x7FFFFFFFFFFFFFFF

/-- Read into a new buffer of `room` bytes.  The server is not asked when there can be none. -/
def readInto (room : Nat) (start : Option Int64) : EStateM Error (σ × ω) LobChunk :=
  if room < roomLimit then RemoteLob.read room start else throw (.roomTooLarge room)

/-- Read up to `size` bytes from a position, or from the current one.  At the end and from a NULL
object this gives an empty value.  All `size` bytes are made room for first, however few there are
to read. -/
def read (start : Option Int64) (size : Nat) : EStateM Error (LobHandle σ × ω) Value := do
  let chunk ← onServer (readInto size start)
  match valueOf (← get).1.kind chunk size with
  | .ok v => return v
  | .error e => throw e

/-- The bytes that writing a value to an object of this kind sends. -/
def bytesOf (kind : LobKind) (v : Value) : Except Error Bytes :=
  match kind with
  | .binary => v.toBytes?
  | .character => v.toText?.map Utf8.encode

/-- Write a value at the current position. -/
def write (v : Value) : EStateM Error (LobHandle σ × ω) Unit := fun (h, w) =>
  if h.isOpen then
    match bytesOf h.kind v with
    | .error e => .error e (h, w)
    | .ok data => onServer (RemoteLob.write data) (h, w)
  else .error .lobClosed (h, w)

/-- Close the object for every alias.  It stays open when the server fails. -/
def close : EStateM Error (LobHandle σ × ω) Unit := do
  onServer RemoteLob.close
  modify fun (h, w) => ({ h with isOpen := false }, w)

/-- The length in bytes or characters. -/
def length : EStateM Error (LobHandle σ × ω) Nat := onServer RemoteLob.length

/-- The current position from one, zero when it is not known. -/
def position : EStateM Error (LobHandle σ × ω) Nat := onServer RemoteLob.position

/-- The preferred size of reads and writes. -/
def preferredSize : EStateM Error (LobHandle σ × ω) Nat := onServer RemoteLob.preferredSize

/-- Any operation on a handle. -/
def perform : LobCall → EStateM Error (LobHandle σ × ω) LobAnswer
  | .read start size => return .value (← read start size)
  | .write v => do write v; return .done
  | .close => do close; return .done
  | .length => return .number (← length)
  | .position => return .number (← position)
  | .preferredSize => return .number (← preferredSize)

/-- Drop one alias.  The last one closes an object that is still open; nobody is left to hear of
a failure, and the handle is not tried again. -/
def drop : LobHandle σ × ω → LobHandle σ × ω := fun (h, w) =>
  let h := { h with aliases := h.aliases - 1 }
  if h.aliases = 0 ∧ h.isOpen then
    match RemoteLob.close (h.lob, w) with
    | .ok _ (lob, w) | .error _ (lob, w) => ({ h with lob, isOpen := false }, w)
  else (h, w)

end LobHandle
end SqlClient
