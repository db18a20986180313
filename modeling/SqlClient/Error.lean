import SqlClient.Cursor.Seek
import SqlClient.HostType
import SqlClient.Text.Utf8

/-!
# Errors

Every way an operation can fail is a constructor with the facts of the failure.  The wording is
in `Error.message` alone.
-/

namespace SqlClient

/-- What a conversion was to produce. -/
inductive Wanted where
  | integer
  | float
  | text
  | bytes
  deriving DecidableEq, Repr

/-- The word for it. -/
def Wanted.name : Wanted → String
  | .integer => "integer"
  | .float => "floating-point number"
  | .text => "string"
  | .bytes => "byte array"

/-- The kinds of host values, as messages tell them apart. -/
inductive ValueKind where
  | null
  | int32
  | int64
  | double
  | text
  | bytes
  | lob
  deriving DecidableEq, Repr

/-- The word for a kind of value. -/
def ValueKind.name : ValueKind → String
  | .null => "null"
  | .int32 => "int"
  | .int64 => "wideint"
  | .double => "double"
  | .text => "string"
  | .bytes => "bytearray"
  | .lob => "sdblob"

/-- Where bytes that should be a text came from. -/
inductive TextSource where
  | value
  | buffer
  | lobData
  | lobContent
  deriving DecidableEq, Repr

/-- What is said of bytes from there that are no text. -/
def TextSource.complaint : TextSource → String
  | .value => "byte array is not valid UTF-8"
  | .buffer => "invalid UTF-8 in transfer buffer"
  | .lobData => "invalid UTF-8 in CLOB data"
  | .lobContent => "character LOB is not valid UTF-8"

/-- Why a value could not be converted. -/
inductive ConversionFault where
  /-- A value of this kind has no such form. -/
  | mismatch (wanted : Wanted) (found : ValueKind)
  /-- The text does not write such a value. -/
  | unreadable (wanted : Wanted) (text : String)
  /-- The integer does not fit 32 bits. -/
  | tooLarge (value : Int)
  | notUtf8 (source : TextSource) (fault : Utf8.Fault)
  | notLob (host : HostType)
  /-- A read of so many bytes cannot hold one character. -/
  | readTooSmall (size : Nat)
  deriving DecidableEq, Repr

/-- The fault in words. -/
def ConversionFault.message : ConversionFault → String
  | .mismatch wanted found => s!"expected {wanted.name} but got {found.name}"
  | .unreadable wanted text => s!"expected {wanted.name} but got \"{text}\""
  | .tooLarge value => s!"integer value too large to represent: {value}"
  | .notUtf8 source fault => s!"{source.complaint}: {fault.message}"
  | .notLob host => s!"{host.name} is not a LOB host type"
  | .readTooSmall size => s!"read size of {size} bytes cannot hold the next CLOB character"

/-- Why the scripted server refuses a call. -/
inductive Refusal where
  | unknownStatement (sql : String)
  | released
  | notPrepared
  | parameterCount (bound declared : Nat)
  | noCurrentRow
  | columnIndex (column : Nat)
  | forwardOnly (move : Seek)
  | queryInBatch (sql : String)
  | lobPosition (position : Int)
  | resultSetClosed
  deriving DecidableEq, Repr

/-- The code the server reports. -/
def Refusal.code : Refusal → Int
  | .unknownStatement _ => -9001
  | .released => -9002
  | .notPrepared => -9003
  | .parameterCount .. => -9004
  | .noCurrentRow => -9005
  | .columnIndex _ => -9006
  | .forwardOnly _ => -9007
  | .queryInBatch _ => -9008
  | .lobPosition _ => -9009
  | .resultSetClosed => -9010

/-- The refusal in words. -/
def Refusal.message : Refusal → String
  | .unknownStatement sql => s!"unexpected statement: {sql}"
  | .released => "statement handle was released"
  | .notPrepared => "statement is not prepared"
  | .parameterCount bound declared => s!"{bound} parameters bound, statement has {declared}"
  | .noCurrentRow => "no current row"
  | .columnIndex column => s!"invalid column index {column}"
  | .forwardOnly move => s!"{move.text} is not allowed on a FORWARD ONLY result set"
  | .queryInBatch sql => s!"batch statement returns a result set: {sql}"
  | .lobPosition position => s!"invalid LOB position {position}"
  | .resultSetClosed => "result set is closed"

/-- An option of a statement that can be given a value outside its range. -/
inductive OptionFault where
  | unknownScrollMode (word : String)
  | unknownConcurrency (word : String)
  | fetchSize (rows : Int) (limit : Nat)
  deriving DecidableEq, Repr

/-- The option and what is wrong with its value. -/
def OptionFault.message : OptionFault → String
  | .unknownScrollMode word => s!"result set type: unknown value \"{word}\""
  | .unknownConcurrency word => s!"result set concurrency type: unknown value \"{word}\""
  | .fetchSize rows limit => s!"fetch size: {rows} is outside the valid range (0..{limit})"

/-- An operation that a statement has only in one of its two forms. -/
inductive FormFault where
  | executeNeedsDirect
  | executeWithNeedsPrepared
  deriving DecidableEq, Repr

/-- The operation and the form it needs. -/
def FormFault.message : FormFault → String
  | .executeNeedsDirect => "execute requires a direct statement"
  | .executeWithNeedsPrepared => "execute_with requires a prepared statement"

/-- Why an operation failed. -/
inductive Error where
  /-- The server reported an error of its own. -/
  | server (code : Int) (text : String)
  /-- The scripted server refused the call. -/
  | refused (refusal : Refusal)
  | mixedMarkers
  | tooManyMarkers (found reported : Nat)
  | missingMarkers (found reported : Nat)
  | valueTooLong (position length limit : Nat)
  | conversion (fault : ConversionFault)
  | argumentCount (expected provided : Nat) (named : Bool)
  | parameterNotFound (name : String)
  | namedArgumentsRequired
  /-- An output belongs to a slot that the arguments do not have. -/
  | slotOutOfRange (slot count : Nat)
  | lobClosed
  /-- A read wants room for more bytes than a buffer can have. -/
  | roomTooLarge (size : Nat)
  | noColumns
  | noResultSet
  | wrongForm (fault : FormFault)
  | statementClosed
  | columnOutOfRange (index count : Nat)
  | invalidOption (fault : OptionFault)
  | bufferTooSmall (needed available : Nat)
  | unsupportedType (code : Int)
  deriving DecidableEq, Repr

namespace Error

/-- The code of an error that came from the server. -/
def serverCode? : Error → Option Int
  | .server code _ => some code
  | .refused refusal => some refusal.code
  | _ => none

/-- The error in words. -/
def message : Error → String
  | .server code text => s!"[{code}] {text}"
  | .refused refusal => s!"[{refusal.code}] {refusal.message}"
  | .mixedMarkers =>
    "mixing named and positional parameters in the same SQL is not supported"
  | .tooManyMarkers found reported =>
    s!"SQL scanner found {found} parameters, but the database reported {reported}"
  | .missingMarkers found reported =>
    s!"SQL scanner found only {found} of the {reported} parameters that the database reported"
  | .valueTooLong position length limit =>
    s!"argument {position}[{length}] is longer than max parameter length of {limit}"
  | .conversion fault => s!"Type conversion error: {fault.message}"
  | .argumentCount expected provided named =>
    let style := if named then "named" else "positional"
    s!"{expected} {style} arguments are expected, {provided} were provided"
  | .parameterNotFound name => s!"cannot find parameter {name} in the statement"
  | .namedArgumentsRequired =>
    "statement uses named parameters, positional arguments were provided"
  | .slotOutOfRange slot count => s!"no argument in slot {slot} of {count}"
  | .lobClosed => "LOB is already closed"
  | .roomTooLarge size => s!"no buffer has room for {size} bytes"
  | .noColumns => "result set has no columns"
  | .noResultSet => "the last executed statement did not return a result set"
  | .wrongForm fault => fault.message
  | .statementClosed => "statement has been closed"
  | .columnOutOfRange index count =>
    s!"{index} is outside the valid range (1..{count}) for this query"
  | .invalidOption fault => s!"Invalid {fault.message}"
  | .bufferTooSmall needed available =>
    s!"Buffer too small: need {needed} bytes, have {available}"
  | .unsupportedType code => s!"Unsupported SQL data type: {code}"

end Error
end SqlClient
