/-!
# SQL types

The data types a server reports for columns and parameters.  On the wire a type is a small
number, its code: the position of the type in `SqlType.all`.
-/

namespace SqlClient

/-- A data type of the server. -/
inductive SqlType where
  | fixed
  | float
  | charAscii
  | charEbcdic
  | charByte
  | rowId
  | clobAscii
  | clobEbcdic
  | blob
  | strDb
  | date
  | time
  | vFloat
  | timestamp
  | unknown
  | number
  | noNumber
  | duration
  | doubleByteEbcdic
  | longAscii
  | longEbcdic
  | longByte
  | longDb
  | boolean
  | charUnicode
  | filler1
  | filler2
  | void
  | filler4
  | smallInt
  | integer
  | varcharAscii
  | varcharEbcdic
  | varcharByte
  | clobUnicode
  | longUnicode
  | varcharUnicode
  | userDefined
  | tableHandle
  | dwyde
  deriving DecidableEq, Repr

namespace SqlType

/-- Every type, in the order of the codes. -/
def all : List SqlType :=
  [fixed, float, charAscii, charEbcdic, charByte, rowId, clobAscii, clobEbcdic, blob, strDb,
    date, time, vFloat, timestamp, unknown, number, noNumber, duration, doubleByteEbcdic,
    longAscii, longEbcdic, longByte, longDb, boolean, charUnicode, filler1, filler2, void,
    filler4, smallInt, integer, varcharAscii, varcharEbcdic, varcharByte, clobUnicode,
    longUnicode, varcharUnicode, userDefined, tableHandle, dwyde]

/-- The code of a type. -/
def code (t : SqlType) : Nat := all.idxOf t

/-- The type with a code; there is none beyond the enumeration. -/
def ofCode? (code : Int) : Option SqlType :=
  match code with
  | .ofNat n => all[n]?
  | .negSucc _ => none

/-- A type is found again by its code. -/
theorem ofCode?_code (t : SqlType) : ofCode? t.code = some t := by cases t <;> rfl

/-- The name shown in column information. -/
def name : SqlType → String
  | fixed => "FIXED"
  | float => "FLOAT"
  | charAscii => "CHAR ASCII"
  | charEbcdic => "CHAR EBCDIC"
  | charByte => "CHAR BYTE"
  | rowId => "ROWID"
  | clobAscii => "CLOB ASCII"
  | clobEbcdic => "CLOB EBCDIC"
  | blob => "BLOB"
  | strDb => "STRDB"
  | date => "DATE"
  | time => "TIME"
  | vFloat => "VFLOAT"
  | timestamp => "TIMESTAMP"
  | unknown => "UNKNOWN"
  | number => "NUMBER"
  | noNumber => "NONUMBER"
  | duration => "DURATION"
  | doubleByteEbcdic => "DBYTEEBCDIC"
  | longAscii => "LONG ASCII"
  | longEbcdic => "LONG EBCDIC"
  | longByte => "LONG BYTE"
  | longDb => "LONGDB"
  | boolean => "BOOLEAN"
  | charUnicode => "CHAR UNICODE"
  | filler1 => "DTFILLER1"
  | filler2 => "DTFILLER2"
  | void => "VOID"
  | filler4 => "DTFILLER4"
  | smallInt => "SMALLINT"
  | integer => "INTEGER"
  | varcharAscii => "VARCHAR ASCII"
  | varcharEbcdic => "VARCHAR EBCDIC"
  | varcharByte => "VARCHAR BYTE"
  | clobUnicode => "CLOB UNICODE"
  | longUnicode => "LONG UNICODE"
  | varcharUnicode => "VARCHAR UNICODE"
  | userDefined => "UDT"
  | tableHandle => "ABAPTABHANDLE"
  | dwyde => "DWYDE"

/-- An exact or approximate number with precision and scale. -/
def isNumeric : SqlType → Bool
  | fixed | float | vFloat => true
  | _ => false

end SqlType
end SqlClient
