import SqlClient.Cursor.Basic
import SqlClient.Scripted.Handle

/-!
# Statements

A statement owns a handle on the server and the cursor of its last result set.  It is direct, and
executes any SQL text, or prepared, and executes one text with arguments.  Every execution closes
the cursor of the one before and gives the handle the options in force.

The result set of an execution is closed when no cursor can be opened over it.  Outputs are
written back into the arguments last.
-/

namespace SqlClient

open Scripted (Server Handle ResultSet Execution SerialChoice)

/-- What a statement has on the server. -/
structure Link where
  handle : Handle
  /-- The parameters of a prepared statement. -/
  parameters : Option Parameters
  deriving DecidableEq, Repr

/-- A SQL statement. -/
structure Statement where
  /-- Nothing once the statement is closed. -/
  link : Option Link
  cursor : Option (Cursor ResultSet)
  /-- The options given to the handle before each execution. -/
  options : Options
  deriving DecidableEq, Repr

/-- The world of statements on the scripted server. -/
abbrev ClientWorld := World Server Scripted.Lob

namespace Statement

/-- Give a handle back in a world. -/
def releaseHandle (h : Handle) (w : ClientWorld) : ClientWorld :=
  { w with server := (Handle.release (h, w.server)).2 }

/-- Set up a handle for a statement; it is given back if that fails. -/
def setUp {α : Type} (h : Handle) (op : EStateM Error (Handle × Server) α) :
    EStateM Error ClientWorld (α × Handle) := fun w =>
  match op (h, w.server) with
  | .ok a (h, server) => .ok (a, h) { w with server }
  | .error e (h, server) => .error e (releaseHandle h { w with server })

/-- A direct statement. -/
def new (h : Handle) (options : Options) : EStateM Error ClientWorld Statement := do
  let ((), handle) ← setUp h (Handle.applyOptions options)
  return { link := some { handle, parameters := none }, cursor := none, options }

/-- Give a handle its options, prepare a SQL text on it, and pair the markers of the text with the
parameters reported. -/
def prepareOn (sql : String) (options : Options) :
    EStateM Error (Handle × Server) Parameters := do
  Handle.applyOptions options
  match Parameters.ofDescriptions .unicode sql (← Handle.prepare sql) with
  | .ok parameters => return parameters
  | .error e => throw e

/-- A prepared statement. -/
def prepare (h : Handle) (sql : String) (options : Options) :
    EStateM Error ClientWorld Statement := do
  let (parameters, handle) ← setUp h (prepareOn sql options)
  return { link := some { handle, parameters := some parameters }, cursor := none, options }

/-- Let later options win over those in force. -/
def configure (s : Statement) (later : Options) : Statement :=
  { s with options := s.options.merge later }

/-- The parameters of a prepared statement that is not closed. -/
def parameters? (s : Statement) : Option Parameters := s.link.bind (·.parameters)

/-- The statement is prepared and not closed. -/
def isPrepared (s : Statement) : Bool := s.parameters?.isSome

/-- The statement was closed. -/
def isClosed (s : Statement) : Bool := s.link.isNone

/-- There is a current result set. -/
def isQuery (s : Statement) : Bool := s.cursor.isSome

/-- The columns of the current result set, none without one. -/
def columns (s : Statement) : List Column :=
  match s.cursor with
  | some cursor => cursor.columns
  | none => []

/-- A column of the current result set by its number from one. -/
def column (s : Statement) (number : Nat) : Except Error Column :=
  match s.cursor with
  | none => .error .noResultSet
  | some cursor =>
    match number with
    | 0 => .error (.columnOutOfRange 0 cursor.columns.length)
    | index + 1 =>
      match cursor.columns[index]? with
      | some column => .ok column
      | none => .error (.columnOutOfRange number cursor.columns.length)

/-- The number of the current row from one, zero off the rows. -/
def rowNumber (s : Statement) : Nat :=
  match s.cursor with
  | some cursor => cursor.rowNumber
  | none => 0

/-- Close the current result set. -/
def closeCursor : Statement × ClientWorld → Statement × ClientWorld := fun (s, w) =>
  match s.cursor with
  | none => (s, w)
  | some cursor => ({ s with cursor := none }, (Cursor.close (cursor, w)).2)

/-- Run an operation of the server on the handle. -/
def onHandle {α : Type} (op : EStateM Error (Handle × Server) α) :
    EStateM Error (Statement × ClientWorld) α := fun (s, w) =>
  match s.link with
  | none => .error .statementClosed (s, w)
  | some link =>
    match op (link.handle, w.server) with
    | .ok a (handle, server) =>
      .ok a ({ s with link := some { link with handle } }, { w with server })
    | .error e (handle, server) =>
      .error e ({ s with link := some { link with handle } }, { w with server })

/-- Run an operation on the current cursor. -/
def onCursor {α : Type} (op : EStateM Error (Cursor ResultSet × ClientWorld) α) :
    EStateM Error (Statement × ClientWorld) α := fun (s, w) =>
  match s.cursor with
  | none => .error .noResultSet (s, w)
  | some cursor =>
    match op (cursor, w) with
    | .ok a (cursor, w) => .ok a ({ s with cursor := some cursor }, w)
    | .error e (cursor, w) => .error e ({ s with cursor := some cursor }, w)

/-- A cursor over a fresh result set, with the fetch size of the options.  The result set is
closed if that fails. -/
def openCursor (options : Options) (rows : ResultSet) :
    EStateM Error ClientWorld (Cursor ResultSet) := fun w =>
  match Cursor.openOn rows w with
  | .error e w => .error e w
  | .ok cursor w =>
    match options.fetchSize with
    | none => .ok cursor w
    | some size =>
      match Cursor.setFetchSize size (cursor, w) with
      | .ok () (cursor, w) => .ok cursor w
      | .error e (cursor, w) => .error e (Cursor.close (cursor, w)).2

/-- Take over what an execution came to: the number of affected rows, or a result set with its
number of rows. -/
def takeResult (execution : Execution) : EStateM Error (Statement × ClientWorld) Int :=
  fun (s, w) =>
    match execution with
    | .update rowsAffected => .ok rowsAffected (s, w)
    | .query rows =>
      match openCursor s.options rows w with
      | .error e w => .error e (s, w)
      | .ok cursor w => .ok cursor.rowCount ({ s with cursor := some cursor }, w)

/-- Close the cursor and give the handle the options in force. -/
def refresh : EStateM Error (Statement × ClientWorld) Unit := do
  modify closeCursor
  onHandle (Handle.applyOptions (← get).1.options)

/-- Execute a SQL text directly.  The result is the number of rows of a query and otherwise the
number of affected rows. -/
def execute (sql : String) : EStateM Error (Statement × ClientWorld) Int := do
  match (← get).1.link with
  | none => throw .statementClosed
  | some { parameters := some _, .. } => throw (.wrongForm .executeNeedsDirect)
  | some { parameters := none, .. } =>
    refresh
    takeResult (← onHandle (Handle.execute sql))

/-- Bind arguments to the parameters of a prepared statement. -/
def bind (args : Arguments) : EStateM Error (Statement × ClientWorld) Unit := fun (s, w) =>
  match s.link with
  | some { handle, parameters := some ps } =>
    match Parameters.bind args ps with
    | .ok () ps => .ok () ({ s with link := some { handle, parameters := some ps } }, w)
    | .error e ps => .error e ({ s with link := some { handle, parameters := some ps } }, w)
  | _ => .error .statementClosed (s, w)

/-- Execute the prepared SQL text with what is bound. -/
def executeBound : EStateM Error (Statement × ClientWorld) Execution := fun (s, w) =>
  match s.link with
  | some { handle, parameters := some ps } =>
    let update (bindings : List Binding) (handle : Handle) (server : Server) :=
      ({ s with link := some { handle, parameters := some (ps.withBindings bindings) } },
        { w with server })
    match Handle.executePrepared (ps.bindings, handle, w.server) with
    | .ok execution (bindings, handle, server) => .ok execution (update bindings handle server)
    | .error e (bindings, handle, server) => .error e (update bindings handle server)
  | _ => .error .statementClosed (s, w)

/-- Write the outputs of the parameters back into the arguments.  The arguments they replace are
dropped. -/
def writeBack : EStateM Error (Arguments × Statement × ClientWorld) Unit := fun (args, s, w) =>
  match s.parameters? with
  | none => .ok () (args, s, w)
  | some ps =>
    match ps.outputs with
    | .error e => .error e (args, s, w)
    | .ok outputs =>
      match Parameters.assign args outputs with
      | .error e => .error e (args, s, w)
      | .ok written =>
        .ok () (written, s, w.releaseAll (outputs.map fun (slot, _) => args.get slot))

/-- Run an operation that leaves the arguments alone. -/
def besideArguments {α : Type} (op : EStateM Error (Statement × ClientWorld) α) :
    EStateM Error (Arguments × Statement × ClientWorld) α := fun (args, state) =>
  match op state with
  | .ok a state => .ok a (args, state)
  | .error e state => .error e (args, state)

/-- Execute the prepared SQL text with arguments.  The result is the number of rows of a query and
otherwise the number of affected rows. -/
def executeWith : EStateM Error (Arguments × Statement × ClientWorld) Int := do
  let (args, s, _) ← get
  match s.link with
  | none => throw .statementClosed
  | some { parameters := none, .. } => throw (.wrongForm .executeWithNeedsPrepared)
  | some { parameters := some _, .. } =>
    let count ← besideArguments do
      refresh
      bind args
      takeResult (← executeBound)
    writeBack
    return count

/-- Execute a batch of SQL texts that return no result set; there is one status per text. -/
def batch (sqls : List String) : EStateM Error (Statement × ClientWorld) (List Int) := do
  modify closeCursor
  onHandle (Handle.executeBatch sqls)

/-- A serial key of the last insert, if there is one. -/
def serial (choice : SerialChoice) : EStateM Error (Statement × ClientWorld) (Option Int) :=
  onHandle (Handle.serial choice)

/-- Move the cursor and decode the row it comes to. -/
def fetch (move : Seek) : EStateM Error (Statement × ClientWorld) (Option Row) :=
  onCursor (Cursor.fetch move)

/-- Close the current result set and give the handle back. -/
def close : Statement × ClientWorld → Statement × ClientWorld := fun state =>
  let (s, w) := closeCursor state
  match s.link with
  | none => (s, w)
  | some link => ({ s with link := none }, releaseHandle link.handle w)

end Statement
end SqlClient
