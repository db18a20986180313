import SqlClient.Cursor.Seek
import SqlClient.Options
import SqlClient.Parameter.Set

/-!
# The scripted server

A server that answers only what it was told to answer: each SQL text has a script that says what
its execution does.  The server writes down what it was asked, and counts the result sets it gave
out and everything it was given back.  Contents of large objects are kept by number, so that every
object opened on one content sees what is written through the others.
-/

namespace SqlClient.Scripted

/-- A cell of a scripted result. -/
inductive Cell where
  | null
  | int (n : Int64)
  | double (d : Binary64)
  | text (s : String)
  | bytes (b : Bytes)
  /-- A large object with the content of this number. -/
  | lob (content : Nat)
  deriving DecidableEq, Repr

/-- The result of a scripted query. -/
structure Result where
  columns : List ColumnDescription
  rows : List (List Cell)
  deriving DecidableEq, Repr

/-- What the execution of a statement does. -/
inductive Action where
  | query (result : Result)
  /-- Report so many affected rows. -/
  | update (rows : Int)
  /-- Fail with an error of the database. -/
  | fail (code : Int) (text : String)
  /-- Compute output values, parameter by parameter, from the input values. -/
  | call (procedure : List Value → Except Error (List Value))

/-- The reaction of the server to one SQL text. -/
structure Script where
  action : Action
  /-- The parameters reported when the statement is prepared. -/
  parameters : List ParameterDescription
  /-- The first and last serial key that an execution generates. -/
  serials : Option (Int × Int)

/-- The settings of a statement on the server. -/
structure Settings where
  cursorName : Option String
  maxRows : Nat
  scrollMode : ScrollMode
  concurrency : Concurrency
  fetchSize : Option Nat
  deriving DecidableEq, Repr

/-- The settings of a fresh statement. -/
def Settings.initial : Settings := ⟨none, 0, .forwardOnly, .readOnly, none⟩

/-- The state of the server. -/
structure Server where
  /-- The scripts by SQL text; of several for one text the first counts. -/
  scripts : List (String × Script)
  /-- The SQL texts executed so far, in order. -/
  executed : List String
  /-- The input values of each prepared execution, in order. -/
  bound : List (List Value)
  /-- The settings of the last execution. -/
  settings : Settings
  releasedStatements : Nat
  /-- The result sets that executions gave out. -/
  openedResultSets : Nat
  closedResultSets : Nat
  closedLobs : Nat
  /-- The contents of large objects by number. -/
  contents : List Bytes

namespace Server

/-- A server without scripts. -/
def empty : Server := ⟨[], [], [], .initial, 0, 0, 0, 0, []⟩

/-- Answer a SQL text by a script from now on. -/
def register (s : Server) (sql : String) (script : Script) : Server :=
  { s with scripts := (sql, script) :: s.scripts }

/-- The script of a SQL text. -/
def script? (s : Server) (sql : String) : Except Error Script :=
  match s.scripts.lookup sql with
  | some script => .ok script
  | none => .error (.refused (.unknownStatement sql))

/-- Keep the content of a large object. -/
def store (s : Server) (content : Bytes) : Nat × Server :=
  (s.contents.length, { s with contents := s.contents ++ [content] })

/-- The content of a number. -/
def content (s : Server) (number : Nat) : Bytes := s.contents[number]?.getD []

/-- Replace the content of a number. -/
def setContent (s : Server) (number : Nat) (content : Bytes) : Server :=
  { s with contents := s.contents.set number content }

/-- Write down that a statement with these settings was executed.  The fetch size belongs to the
result set and is not known yet. -/
def record (s : Server) (sql : String) (settings : Settings) : Server :=
  { s with
    executed := s.executed ++ [sql]
    settings := { settings with fetchSize := none } }

end Server
end SqlClient.Scripted
