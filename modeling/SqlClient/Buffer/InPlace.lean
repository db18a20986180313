import SqlClient.Buffer

/-!
# Buffers that are changed in place

Client and server work on one buffer and change it in place.  A change is then a sequence of
steps, each on one field: the bytes are discarded, others are appended, the length indicator is
set.  A change may be refused between two steps, and what was done before stays done; so it checks
all that can be refused in front of its first step.

`perform` is any operation that changes a buffer.
-/

namespace SqlClient.Buffer

/-- Discard the bytes; the indicator still counts them. -/
def discard : EStateM Error Buffer Unit := modify fun b => { b with content := [] }

/-- Append bytes, whatever the capacity. -/
def append (data : Bytes) : EStateM Error Buffer Unit :=
  modify fun b => { b with content := b.content ++ data }

/-- Set the length indicator. -/
def indicate (n : Int) : EStateM Error Buffer Unit := modify fun b => { b with indicator := n }

/-- Put bytes in place of those there are, with an indicator. -/
def replace (data : Bytes) (n : Int) : EStateM Error Buffer Unit := do
  discard
  append data
  indicate n

/-- Put NULL in place of what there is. -/
def replaceByNull : EStateM Error Buffer Unit := do
  discard
  indicate nullIndicator

/-- Leave no bytes. -/
def empty : EStateM Error Buffer Unit := do
  discard
  indicate 0

/-- Put a 32-bit integer in place of what there is. -/
def replaceByInt32 (n : Int32) : EStateM Error Buffer Unit :=
  replace (Bytes.ofNat 4 n.toUInt32.toNat) 4

/-- Put a 64-bit integer in place of what there is. -/
def replaceByInt64 (n : Int64) : EStateM Error Buffer Unit :=
  replace (Bytes.ofNat 8 n.toUInt64.toNat) 8

/-- Put a double in place of what there is. -/
def replaceByDouble (d : Binary64) : EStateM Error Buffer Unit :=
  replace (Bytes.ofNat 8 d.bits.toNat) 8

/-- Put variable data in place of what there is, if it fits. -/
def replaceByBytes (data : Bytes) : EStateM Error Buffer Unit := do
  let capacity := (← get).capacity
  if capacity < data.length then throw (.bufferTooSmall data.length capacity)
  else replace data data.length

/-- Put a value in place of what there is, in the representation of a host type. -/
def replaceByValue (host : HostType) (v : Value) : EStateM Error Buffer Unit :=
  if v.isNullInput then replaceByNull
  else
    match host with
    | .int32 => do replaceByInt32 (← MonadExcept.ofExcept v.toInt32?)
    | .int64 => do replaceByInt64 (← MonadExcept.ofExcept v.toInt64?)
    | .double => do replaceByDouble (← MonadExcept.ofExcept v.toDouble?)
    | .bytes | .blob => do replaceByBytes (← MonadExcept.ofExcept v.toBytes?)
    | .decimal | .text | .clob => do
      replaceByBytes (Utf8.encode (← MonadExcept.ofExcept v.toText?))

/-- Change the capacity and leave no bytes. -/
def resize (capacity : Nat) : EStateM Error Buffer Unit := do
  modify fun b => { b with capacity }
  empty

/-- An operation that changes a buffer. -/
inductive Call where
  | putInt32 (n : Int32)
  | putInt64 (n : Int64)
  | putDouble (d : Binary64)
  | putBytes (data : Bytes)
  | encode (host : HostType) (v : Value)
  | setNull
  | clear
  | reset (capacity : Nat)
  deriving DecidableEq, Repr

/-- Any operation that changes a buffer. -/
def perform : Call → EStateM Error Buffer Unit
  | .putInt32 n => replaceByInt32 n
  | .putInt64 n => replaceByInt64 n
  | .putDouble d => replaceByDouble d
  | .putBytes data => replaceByBytes data
  | .encode host v => replaceByValue host v
  | .setNull => replaceByNull
  | .clear => empty
  | .reset capacity => resize capacity

/-- How a buffer is made. -/
inductive Origin where
  | new (capacity : Nat)
  /-- With storage set aside from the start, which shows in no operation. -/
  | allocated (capacity : Nat)
  | forHost (host : HostType) (declaredLength byteLength : Int)
  deriving DecidableEq, Repr

/-- The buffer as it is made. -/
def Origin.buffer : Origin → Buffer
  | new capacity => .new capacity
  | allocated capacity => .new capacity
  | forHost host declaredLength byteLength => .forHost host declaredLength byteLength

end SqlClient.Buffer
