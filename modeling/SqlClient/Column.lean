import SqlClient.Error
import SqlClient.Text.Casing

/-!
# Result columns

A server describes the columns of a result set by raw descriptions; a `Column` is what the client
makes of one: it has a label, a known SQL type and the host type its values are transferred in.
-/

namespace SqlClient

/-- A column as the server describes it. -/
structure ColumnDescription where
  label : Option String
  name : Option String
  schema : Option String
  table : Option String
  /-- Declared length in characters or digits. -/
  length : Int
  precision : Int
  scale : Int
  /-- Physical length in bytes. -/
  byteLength : Int
  /-- The code of the SQL type. -/
  typeCode : Int
  /-- Whether NULL is allowed, if the server knows. -/
  nullable : Option Bool
  writable : Bool
  deriving DecidableEq, Repr

/-- The largest precision a description can state. -/
def maxPrecision : Int := 32767

/-- The precision that goes with a length: the length itself, as far as it can be stated. -/
def precisionOfLength (length : Int) : Int :=
  if -32768 ≤ length ∧ length ≤ maxPrecision then length else maxPrecision

namespace ColumnDescription

/-- A column called `label` with values of up to `length`. -/
def ofLength (label : String) (typeCode length : Int) : ColumnDescription where
  label := some label
  name := some label
  schema := none
  table := none
  length
  precision := precisionOfLength length
  scale := 0
  byteLength := length
  typeCode
  nullable := some true
  writable := true

/-- A column called `label` with fixed-point numbers. -/
def ofDigits (label : String) (precision scale : Int) : ColumnDescription :=
  { ofLength label SqlType.fixed.code precision with precision, scale }

end ColumnDescription

/-- A column of a result set. -/
structure Column where
  label : String
  name : Option String
  schema : Option String
  table : Option String
  length : Int
  precision : Int
  scale : Int
  byteLength : Int
  sqlType : SqlType
  /-- The representation in which its values are transferred. -/
  hostType : HostType
  nullable : Option Bool
  writable : Bool
  deriving DecidableEq, Repr

namespace Column

/-- The label of a column that has neither alias nor name. -/
def unknownLabel : String := "UNKNOWN"

/-- The alias of a column, else its name; an empty one does not count. -/
def labelOf (d : ColumnDescription) : String :=
  match d.label.filter (· ≠ ""), d.name.filter (· ≠ "") with
  | some label, _ => label
  | none, some name => name
  | none, none => unknownLabel

/-- The column a description describes, if its type is known. -/
def ofDescription (d : ColumnDescription) : Except Error Column :=
  match SqlType.ofCode? d.typeCode with
  | none => .error (.unsupportedType d.typeCode)
  | some sqlType => .ok
    { label := labelOf d
      name := d.name
      schema := d.schema
      table := d.table
      length := d.length
      precision := d.precision
      scale := d.scale
      byteLength := d.byteLength
      sqlType
      hostType := .resolve sqlType d.precision d.scale
      nullable := d.nullable
      writable := d.writable }

/-- The columns of a result set; the first unknown type is the error. -/
def ofDescriptions (ds : List ColumnDescription) : Except Error (List Column) :=
  ds.mapM ofDescription

/-- The room one value needs in a transfer buffer. -/
def bufferSize (c : Column) : Nat := c.hostType.maxBytes c.length c.byteLength

/-- The index of the first column with a label. -/
def indexOf? (columns : List Column) (label : String) : Option Nat :=
  columns.findIdx? fun c => Text.sameName c.label label

end Column
end SqlClient
