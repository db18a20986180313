import SqlClient.Lob.Remote
import SqlClient.Scripted.Server

/-!
# Large objects of the scripted server

An object has a content, which it may share with others, and an offset of its own: the number of
bytes or characters in front of its position.  Reading gives whole units from the position on;
writing replaces units in place and extends the content at its end.
-/

namespace SqlClient.Scripted

/-- A large object of the scripted server. -/
structure Lob where
  /-- The number of its content. -/
  content : Nat
  kind : LobKind
  /-- Bytes or characters in front of the position. -/
  offset : Nat
  isNull : Bool
  deriving DecidableEq, Repr

namespace Lob

/-- An object at the start of a content. -/
def new (content : Nat) (kind : LobKind) : Lob := ⟨content, kind, 0, false⟩

/-- The preferred size of reads and writes. -/
def preferredSize : Nat := 32768

/-- The characters of a content. -/
def characters (content : Bytes) : Except Error (List Char) :=
  ((Utf8.decode content).map String.toList).mapError fun fault =>
    .conversion (.notUtf8 .lobContent fault)

/-- The longest front of a text that takes at most `room` bytes. -/
def fitting (room : Nat) : List Char → List Char
  | [] => []
  | c :: rest =>
    if Utf8.width c ≤ room then c :: fitting (room - Utf8.width c) rest else []

theorem fitting_prefix (room : Nat) (cs : List Char) : fitting room cs <+: cs := by
  induction cs generalizing room with
  | nil => exact List.prefix_rfl
  | cons c rest ih =>
    unfold fitting
    split
    · exact List.cons_prefix_cons.2 ⟨rfl, ih _⟩
    · exact List.nil_prefix

/-- The bytes of characters. -/
def bytesOf (cs : List Char) : Bytes := Utf8.encode (String.ofList cs)

/-- The answer to a question about an object, which changes nothing. -/
def answer (question : Lob → Server → Except Error Nat) : EStateM Error (Lob × Server) Nat :=
  fun (lob, s) =>
    match question lob s with
    | .ok n => .ok n (lob, s)
    | .error e => .error e (lob, s)

/-- The length in units. -/
def length (lob : Lob) (s : Server) : Except Error Nat :=
  if lob.isNull then .ok 0
  else
    match lob.kind with
    | .binary => .ok (s.content lob.content).length
    | .character => (characters (s.content lob.content)).map List.length

/-- The position counts from one, and is always known. -/
def position (lob : Lob) (_ : Server) : Except Error Nat := .ok (lob.offset + 1)

/-- The bytes that a read of up to `room` bytes gives after `skip` units, and how many units they
are; nothing past the end. -/
def slice (kind : LobKind) (content : Bytes) (skip room : Nat) :
    Except Error (Option (Bytes × Nat)) :=
  match kind with
  | .binary =>
    match content.drop skip with
    | [] => .ok none
    | rest => .ok (some (rest.take room, (rest.take room).length))
  | .character =>
    match characters content with
    | .error e => .error e
    | .ok cs =>
      match cs.drop skip with
      | [] => .ok none
      | rest => .ok (some (bytesOf (fitting room rest), (fitting room rest).length))

/-- The units in front of a position given from one, or in front of the current one. -/
def skipTo (lob : Lob) (start : Option Int64) : Except Error Nat :=
  match start with
  | none => .ok lob.offset
  | some position =>
    if position.toInt < 1 then .error (.refused (.lobPosition position.toInt))
    else .ok (position.toInt - 1).toNat

/-- Read up to `room` bytes from a position, or from the current one. -/
def read (room : Nat) (start : Option Int64) : EStateM Error (Lob × Server) LobChunk :=
  fun (lob, s) =>
    if lob.isNull then .ok .null (lob, s)
    else
      match lob.skipTo start with
      | .error e => .error e (lob, s)
      | .ok skip =>
        match slice lob.kind (s.content lob.content) skip room with
        | .error e => .error e (lob, s)
        | .ok none => .ok .noData (lob, s)
        | .ok (some (bytes, units)) =>
          .ok (.data bytes bytes.length) ({ lob with offset := skip + units }, s)

/-- The content after writing at an offset, and how many units were written. -/
def splice (kind : LobKind) (content : Bytes) (offset : Nat) (data : Bytes) :
    Except Error (Bytes × Nat) :=
  match kind with
  | .binary => .ok (content.overwrite offset data, data.length)
  | .character => do
    let cs ← characters content
    let written ← characters data
    return (bytesOf (cs.take offset ++ written ++ cs.drop (offset + written.length)),
      written.length)

/-- Write at the current position.  A NULL object first becomes an empty one. -/
def write (data : Bytes) : EStateM Error (Lob × Server) Unit := fun (lob, s) =>
  let s := if lob.isNull then s.setContent lob.content [] else s
  let lob := { lob with isNull := false }
  match splice lob.kind (s.content lob.content) lob.offset data with
  | .error e => .error e (lob, s)
  | .ok (content, units) =>
    .ok () ({ lob with offset := lob.offset + units }, s.setContent lob.content content)

/-- Give the object back; the server counts it. -/
def close : EStateM Error (Lob × Server) Unit := fun (lob, s) =>
  .ok () (lob, { s with closedLobs := s.closedLobs + 1 })

instance : RemoteLob Lob Server where
  length := answer length
  position := answer position
  preferredSize := answer fun _ _ => .ok preferredSize
  read := read
  write := write
  close := close

end Lob
end SqlClient.Scripted
