import SqlClient.SqlType

/-!
# Host types

The representation in which a value crosses between server and host.  It depends on the SQL type
and, for numbers, on precision and scale.  The host type fixes how many bytes a value may take.
-/

namespace SqlClient

/-- Whether a large object holds bytes or text. -/
inductive LobKind where
  /-- Bytes; lengths and positions count bytes. -/
  | binary
  /-- UTF-8 text; lengths and positions count characters. -/
  | character
  deriving DecidableEq, Repr

/-- The word for a large object of this kind. -/
def LobKind.name : LobKind → String
  | .binary => "blob"
  | .character => "clob"

/-- The representation used to transfer a value. -/
inductive HostType where
  | int32
  | int64
  | double
  /-- An exact number written as decimal text. -/
  | decimal
  | bytes
  | text
  /-- A binary large object, reached through a handle. -/
  | blob
  /-- A character large object, reached through a handle. -/
  | clob
  deriving DecidableEq, Repr

namespace HostType

/-- The name used in messages and descriptions. -/
def name : HostType → String
  | int32 => "int"
  | int64 => "wideint"
  | double => "double"
  | decimal => "decimal"
  | bytes => "bytearray"
  | text => "string"
  | blob => "blob"
  | clob => "clob"

/-- Numbers of more digits do not fit a double and travel as text. -/
def doubleDigits : Int := 15

/-- Whole numbers of more digits need 64 bits. -/
def int32Digits : Int := 9

/-- A number of the given precision and scale takes the narrowest type that holds it. -/
def ofNumber (precision scale : Int) : HostType :=
  if doubleDigits < precision then decimal
  else if 0 < scale then double
  else if int32Digits < precision then int64
  else int32

/-- The host type of an SQL type, the same for columns and parameters. -/
def resolve (sqlType : SqlType) (precision scale : Int) : HostType :=
  match sqlType with
  | .fixed | .float | .vFloat => ofNumber precision scale
  | .boolean | .smallInt | .integer => int32
  | .charByte | .varcharByte => bytes
  | .blob | .longByte => blob
  | .clobAscii | .clobEbcdic | .clobUnicode | .longAscii | .longEbcdic | .longUnicode => clob
  | _ => text

/-- The kind of large object, if the type is one. -/
def lobKind? : HostType → Option LobKind
  | blob => some .binary
  | clob => some .character
  | _ => none

/-- Values are reached through a handle. -/
def isLob (h : HostType) : Bool := h.lobKind?.isSome

/-- Values travel as text. -/
def isText : HostType → Bool
  | decimal | text | clob => true
  | _ => false

/-- The size of a value of fixed size. -/
def fixedSize? : HostType → Option Nat
  | int32 => some 4
  | int64 => some 8
  | double => some 8
  | _ => none

/-- The most bytes one character takes in UTF-8. -/
def bytesPerChar : Nat := 4

/-- The most bytes a value may take: its size if that is fixed, the physical length for bytes,
and for text the declared number of characters at their widest.  Negative lengths count as
zero. -/
def maxBytes (h : HostType) (declaredLength byteLength : Int) : Nat :=
  match h with
  | int32 => 4
  | int64 | double => 8
  | bytes | blob => byteLength.toNat
  | decimal | text | clob => declaredLength.toNat * bytesPerChar

theorem maxBytes_of_fixedSize? {h : HostType} {size : Nat} (fixed : h.fixedSize? = some size)
    (declaredLength byteLength : Int) : h.maxBytes declaredLength byteLength = size := by
  cases h <;> simp_all [fixedSize?, maxBytes]

end HostType
end SqlClient
