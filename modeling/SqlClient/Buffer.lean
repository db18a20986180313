import SqlClient.Value

/-!
# Transfer buffers

A buffer carries one value between host and server.  It has a capacity, the bytes of the value,
and a length indicator: the number of bytes, or -1 for NULL.  Values of fixed size always fit;
variable data longer than the capacity is refused.  An operation that is refused leaves the
buffer as it was, since it returns no new one.
-/

namespace SqlClient

/-- A transfer buffer. -/
structure Buffer where
  content : Bytes
  /-- The most bytes of variable data it takes. -/
  capacity : Nat
  /-- The number of bytes, or `Buffer.nullIndicator`. -/
  indicator : Int
  deriving DecidableEq, Repr

namespace Buffer

/-- The length indicator of NULL. -/
def nullIndicator : Int := -1

/-- An empty buffer. -/
def new (capacity : Nat) : Buffer := ⟨[], capacity, 0⟩

/-- An empty buffer for the largest value of a host type. -/
def forHost (host : HostType) (declaredLength byteLength : Int) : Buffer :=
  new (host.maxBytes declaredLength byteLength)

/-- The buffer holds NULL. -/
def isNull (b : Buffer) : Bool := b.indicator == nullIndicator

/-- The bytes held, none for NULL. -/
def bytes? (b : Buffer) : Option Bytes := if b.isNull then none else some b.content

/-- The number of bytes held, none for NULL. -/
def length? (b : Buffer) : Option Nat := if b.isNull then none else some b.content.length

/-- No bytes are held, as for NULL. -/
def isEmpty (b : Buffer) : Bool := b.content.isEmpty

/-- Forget the value. -/
def clear (b : Buffer) : Buffer := { b with content := [], indicator := 0 }

/-- Forget the value and change the capacity. -/
def reset (b : Buffer) (capacity : Nat) : Buffer := { b.clear with capacity }

/-- Hold NULL. -/
def setNull (b : Buffer) : Buffer := { b with content := [], indicator := nullIndicator }

/-- Hold a 32-bit integer. -/
def putInt32 (b : Buffer) (n : Int32) : Buffer :=
  { b with content := Bytes.ofNat 4 n.toUInt32.toNat, indicator := 4 }

/-- Hold a 64-bit integer. -/
def putInt64 (b : Buffer) (n : Int64) : Buffer :=
  { b with content := Bytes.ofNat 8 n.toUInt64.toNat, indicator := 8 }

/-- Hold a double. -/
def putDouble (b : Buffer) (d : Binary64) : Buffer :=
  { b with content := Bytes.ofNat 8 d.bits.toNat, indicator := 8 }

/-- Hold variable data, if it fits. -/
def putBytes (b : Buffer) (data : Bytes) : Except Error Buffer :=
  if b.capacity < data.length then .error (.bufferTooSmall data.length b.capacity)
  else .ok { b with content := data, indicator := data.length }

/-- The number in the first `width` bytes. -/
def fixed? (b : Buffer) (width : Nat) : Except Error Nat :=
  if b.content.length < width then .error (.bufferTooSmall width b.content.length)
  else .ok (Bytes.toNat (b.content.take width))

/-- Read a 32-bit integer. -/
def int32? (b : Buffer) : Except Error Int32 :=
  (b.fixed? 4).map fun n => (UInt32.ofNat n).toInt32

/-- Read a 64-bit integer. -/
def int64? (b : Buffer) : Except Error Int64 :=
  (b.fixed? 8).map fun n => (UInt64.ofNat n).toInt64

/-- Read a double. -/
def double? (b : Buffer) : Except Error Binary64 :=
  (b.fixed? 8).map fun n => ⟨UInt64.ofNat n⟩

/-- Hold a value in the representation of a host type; what binds as NULL is NULL in every
one. -/
def encode (b : Buffer) (host : HostType) (v : Value) : Except Error Buffer :=
  if v.isNullInput then .ok b.setNull
  else
    match host with
    | .int32 => v.toInt32?.map b.putInt32
    | .int64 => v.toInt64?.map b.putInt64
    | .double => v.toDouble?.map b.putDouble
    | .bytes | .blob => v.toBytes?.bind b.putBytes
    | .decimal | .text | .clob => v.toText?.bind fun s => b.putBytes (Utf8.encode s)

/-- The value held, read in the representation of a host type. -/
def decode (b : Buffer) (host : HostType) : Except Error Value :=
  match b.bytes? with
  | none => .ok .null
  | some content =>
    match host with
    | .int32 => b.int32?.map .int32
    | .int64 => b.int64?.map .int64
    | .double => b.double?.map .double
    | .bytes | .blob => .ok (.bytes content)
    | .decimal | .text | .clob =>
      ((Utf8.decode content).map .text).mapError fun fault =>
        .conversion (.notUtf8 .buffer fault)

end Buffer
end SqlClient
