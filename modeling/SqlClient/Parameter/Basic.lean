import SqlClient.Buffer
import SqlClient.Column
import SqlClient.Marker

/-!
# Parameters

A parameter of a prepared statement owns a transfer buffer.  Binding an argument writes it into
the buffer, and the server reads inputs from there and writes outputs to there.
-/

namespace SqlClient

/-- The direction of a parameter. -/
inductive ParameterMode where
  | input
  | output
  | inputOutput
  deriving DecidableEq, Repr

namespace ParameterMode

/-- A value goes to the server. -/
def isInput : ParameterMode → Bool
  | input | inputOutput => true
  | output => false

/-- A value comes back from the server. -/
def isOutput : ParameterMode → Bool
  | output | inputOutput => true
  | input => false

end ParameterMode

/-- A parameter as the server describes it. -/
structure ParameterDescription where
  /-- The code of the SQL type. -/
  typeCode : Int
  /-- Declared length in characters or digits. -/
  length : Int
  precision : Int
  scale : Int
  /-- Physical length in bytes. -/
  byteLength : Int
  mode : ParameterMode
  deriving DecidableEq, Repr

namespace ParameterDescription

/-- A parameter with values of up to `length`. -/
def ofLength (typeCode length : Int) (mode : ParameterMode) : ParameterDescription where
  typeCode
  length
  precision := precisionOfLength length
  scale := 0
  byteLength := length
  mode

/-- A parameter with fixed-point numbers. -/
def ofDigits (precision scale : Int) (mode : ParameterMode) : ParameterDescription :=
  { ofLength SqlType.fixed.code precision mode with precision, scale }

end ParameterDescription

/-- What client and server share of a parameter during an execution. -/
structure Binding where
  host : HostType
  mode : ParameterMode
  buffer : Buffer
  deriving DecidableEq, Repr

/-- A parameter of a prepared statement. -/
structure Parameter where
  /-- The name of its marker, none for `?`. -/
  name : Option String
  sqlType : SqlType
  length : Int
  precision : Int
  scale : Int
  byteLength : Int
  binding : Binding
  deriving DecidableEq, Repr

namespace Parameter

/-- The parameter a description and a marker give, if its type is known.  The buffer has room
for the largest value of its type. -/
def ofDescription (d : ParameterDescription) (marker : Option Marker) :
    Except Error Parameter :=
  match SqlType.ofCode? d.typeCode with
  | none => .error (.unsupportedType d.typeCode)
  | some sqlType =>
    let host := HostType.resolve sqlType d.precision d.scale
    .ok
      { name := marker.bind Marker.name?
        sqlType
        length := d.length
        precision := d.precision
        scale := d.scale
        byteLength := d.byteLength
        binding :=
          { host, mode := d.mode, buffer := .forHost host d.length d.byteLength } }

/-- The most bytes a bound value may take. -/
def maxBytes (p : Parameter) : Nat := p.binding.buffer.capacity

/-- The length indicator of the value bound or returned. -/
def transferLength (p : Parameter) : Int := p.binding.buffer.indicator

/-- A name without one leading colon. -/
def withoutColon (name : String) : String :=
  match name.toList with
  | ':' :: rest => String.ofList rest
  | _ => name

/-- The name, with or without a colon in front, is that of the parameter. -/
def answersTo (p : Parameter) (name : String) : Bool :=
  match p.name with
  | some own => Text.sameName own (withoutColon name)
  | none => false

/-- Write an argument into the buffer.  An output parameter ignores it.  Data that does not fit
is reported with the position of the parameter. -/
def bind (p : Parameter) (position : Nat) (v : Value) : Except Error Parameter :=
  if p.binding.mode.isInput then
    match p.binding.buffer.encode p.binding.host v with
    | .ok buffer => .ok { p with binding := { p.binding with buffer } }
    | .error (.bufferTooSmall needed available) =>
      .error (.valueTooLong position needed available)
    | .error e => .error e
  else .ok p

/-- The value the server returned. -/
def output (p : Parameter) : Except Error Value := p.binding.buffer.decode p.binding.host

end Parameter
end SqlClient
