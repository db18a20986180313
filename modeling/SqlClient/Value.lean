import SqlClient.Error
import SqlClient.Number.Decimal
import SqlClient.Text.Blank

/-!
# Host values

The values a program binds and fetches.  A value has up to four forms: an integer, a
floating-point number, a text and a byte string.  `toInt32?`, `toInt64?`, `toDouble?`, `toText?`
and `toBytes?` give them or say why there is none; `display` always has an answer.
-/

namespace SqlClient

/-- A reference to a LOB handle: which handle it is, and the kind of its contents. -/
structure LobRef where
  /-- The number under which the handle is kept. -/
  id : Nat
  kind : LobKind
  deriving DecidableEq, Repr

/-- A value of the host program. -/
inductive Value where
  | null
  | int32 (n : Int32)
  | int64 (n : Int64)
  | double (d : Binary64)
  /-- Text, and numbers too wide for a double. -/
  | text (s : String)
  | bytes (b : Bytes)
  | lob (handle : LobRef)
  deriving DecidableEq, Repr

namespace Value

/-- The kind of a value. -/
def kind : Value → ValueKind
  | null => .null
  | int32 _ => .int32
  | int64 _ => .int64
  | double _ => .double
  | text _ => .text
  | bytes _ => .bytes
  | lob _ => .lob

/-- SQL NULL. -/
def isNull : Value → Bool
  | null => true
  | _ => false

/-- The value binds as NULL.  An empty text does; an empty byte string does not. -/
def isNullInput : Value → Bool
  | null => true
  | text s => s.isEmpty
  | _ => false

/-- The text of a text value. -/
def text? : Value → Option String
  | text s => some s
  | _ => none

/-- The bytes of a byte string. -/
def bytes? : Value → Option Bytes
  | bytes b => some b
  | _ => none

/-- The handle of a large object. -/
def lob? : Value → Option LobRef
  | lob handle => some handle
  | _ => none

/-- The text shown for a value.  Bytes are read as UTF-8 as far as they go. -/
def display : Value → String
  | null => ""
  | int32 n => toString n.toInt
  | int64 n => toString n.toInt
  | double d => d.text
  | text s => s
  | bytes b => Utf8.decodeLossy b
  | lob handle => s!"<{handle.kind.name}>"

/-- The failure of a conversion that this kind of value does not have. -/
def mismatch (v : Value) (wanted : Wanted) : Error :=
  .conversion (.mismatch wanted v.kind)

/-- The textual form. -/
def toText? : Value → Except Error String
  | bytes b => (Utf8.decode b).mapError fun fault => .conversion (.notUtf8 .value fault)
  | lob handle => .error ((lob handle).mismatch .text)
  | v => .ok v.display

/-- The byte form: a byte string is its own, other values give the bytes of their text. -/
def toBytes? : Value → Except Error Bytes
  | bytes b => .ok b
  | lob handle => .error ((lob handle).mismatch .bytes)
  | v => v.toText?.map Utf8.encode

/-- The integer a text writes, with white space around it, if it lies from `low` up to but not
including `high`. -/
def readInteger (s : String) (low high : Int) : Except Error Int :=
  match Number.integer? (Text.trimmed s.toList) with
  | some n => if low ≤ n ∧ n < high then .ok n else .error (.conversion (.unreadable .integer s))
  | none => .error (.conversion (.unreadable .integer s))

/-- The 32-bit integer form. -/
def toInt32? : Value → Except Error Int32
  | int32 n => .ok n
  | int64 n =>
    if -0x80000000 ≤ n.toInt ∧ n.toInt < 0x80000000 then .ok (Int32.ofInt n.toInt)
    else .error (.conversion (.tooLarge n.toInt))
  | text s => (readInteger s (-0x80000000) 0x80000000).map Int32.ofInt
  | bytes b => do
    let s ← toText? (bytes b)
    return Int32.ofInt (← readInteger s (-0x80000000) 0x80000000)
  | v => .error (v.mismatch .integer)

/-- The 64-bit integer form. -/
def toInt64? : Value → Except Error Int64
  | int32 n => .ok n.toInt64
  | int64 n => .ok n
  | text s => (readInteger s (-0x8000000000000000) 0x8000000000000000).map Int64.ofInt
  | bytes b => do
    let s ← toText? (bytes b)
    return Int64.ofInt (← readInteger s (-0x8000000000000000) 0x8000000000000000)
  | v => .error (v.mismatch .integer)

/-- The double a text writes, with white space around it. -/
def readDouble (s : String) : Except Error Binary64 :=
  match Binary64.read? (Text.trimmed s.toList) with
  | some d => .ok d
  | none => .error (.conversion (.unreadable .float s))

/-- The floating-point form. -/
def toDouble? : Value → Except Error Binary64
  | int32 n => .ok (Binary64.ofInt n.toInt)
  | int64 n => .ok (Binary64.ofInt n.toInt)
  | double d => .ok d
  | text s => readDouble s
  | bytes b => do readDouble (← toText? (bytes b))
  | v => .error (v.mismatch .float)

end Value
end SqlClient
