import SqlClient.Named
import SqlClient.Statement

/-!
# Workspaces

A workspace is what a program holds: statements, fetched rows and LOB handles, each under a name.
It decides who owns what.  A row owns one alias of every LOB handle in it, a named LOB handle is
an alias of its own, and arguments hold aliases while they are used.  What loses its name is
dropped: a statement is closed, and the aliases of a row are given up.

A program is a list of commands; `Workspace.step` performs one and reports what can be seen of
it, and `Workspace.run` performs them all.
-/

namespace SqlClient

open Scripted (Server Handle ResultSet Script SerialChoice)

/-- Statements, rows and LOB handles by name, in a world. -/
structure Workspace where
  world : ClientWorld
  statements : Named Statement
  rows : Named Row
  lobs : Named LobRef

/-- The way to a value of a row. -/
inductive CellPath where
  | index (n : Nat)
  | label (l : String)
  deriving DecidableEq, Repr

/-- Something a program does. -/
inductive Command where
  /-- Script the reaction of the server to a SQL text. -/
  | register (sql : String) (script : Script)
  /-- Make a direct statement, on a fresh handle or on one that is already given back. -/
  | create (name : String) (options : Options) (released : Bool)
  /-- Make a prepared statement, on a fresh handle or on one that is already given back. -/
  | prepare (name sql : String) (options : Options) (released : Bool)
  /-- Drop a statement; without one there is nothing to do. -/
  | drop (name : String)
  | close (name : String)
  | configure (name : String) (later : Options)
  | execute (name sql : String)
  | executeWith (name : String) (args : Arguments)
  | batch (name : String) (sqls : List String)
  | serial (name : String) (choice : SerialChoice)
  /-- Fetch a row, and keep it under a name or drop it. -/
  | fetch (name : String) (move : Seek) (keep : Option String)
  /-- Use the current cursor of a statement. -/
  | cursor (name : String) (call : Cursor.Call)
  /-- Name an alias of the LOB handle in a kept row. -/
  | take (row : String) (path : CellPath) (lob : String)
  | dropRow (row : String)
  | dropLob (lob : String)
  | lob (lob : String) (call : LobCall)

/-- What can be seen of a command. -/
inductive Report where
  | done
  /-- There is nothing of that name, or no row. -/
  | absent
  | failed (e : Error)
  | count (n : Int)
  | statuses (ns : List Int)
  | serial (key : Option Int)
  | moved (outcome : SeekOutcome)
  | row (values : List ValueView) (nulls : List Bool)
  /-- The result of an execution with arguments, the arguments after it, and the length
  indicators of the parameters, if there are any. -/
  | execution (result : Except Error Int) (args : List ValueView) (lengths : Option (List Int))
  | lob (answer : LobAnswer)

namespace Workspace

/-- A workspace that holds nothing. -/
def new (server : Server) : Workspace := ⟨.new server, [], [], []⟩

/-- Take over the outcome of an operation that makes a statement.  The statement that had the
name is dropped. -/
def settle (ws : Workspace) (name : String)
    (outcome : EStateM.Result Error ClientWorld Statement) : Report × Workspace :=
  match outcome with
  | .error e world => (.failed e, { ws with world })
  | .ok s world =>
    let world := match ws.statements.get? name with
      | some old => (Statement.close (old, world)).2
      | none => world
    (.done, { ws with world, statements := ws.statements.put name s })

/-- A handle of the server, fresh or already given back. -/
def handle (released : Bool) (w : ClientWorld) : Handle × ClientWorld :=
  if released then
    let (h, server) := Handle.release (Handle.new, w.server)
    (h, { w with server })
  else (Handle.new, w)

/-- Run an operation on a statement; `report` sees the result in the world after it. -/
def onStatement {α : Type} (ws : Workspace) (name : String)
    (op : EStateM Error (Statement × ClientWorld) α)
    (report : α → ClientWorld → Report × ClientWorld) : Report × Workspace :=
  match ws.statements.get? name with
  | none => (.absent, ws)
  | some s =>
    match op (s, ws.world) with
    | .ok a (s, w) =>
      let (r, world) := report a w
      (r, { ws with world, statements := ws.statements.put name s })
    | .error e (s, world) => (.failed e, { ws with world, statements := ws.statements.put name s })

/-- Report a result and leave the world as it is. -/
def just {α : Type} (f : α → Report) (a : α) (w : ClientWorld) : Report × ClientWorld := (f a, w)

/-- What can be seen of a row, if there is one. -/
def viewRow (w : ClientWorld) : Option Row → Report
  | none => .absent
  | some row => .row (row.values.map w.view) row.nulls

/-- Report a row and drop it. -/
def passRow (row : Option Row) (w : ClientWorld) : Report × ClientWorld :=
  (viewRow w row, w.releaseAll (row.elim [] Row.values))

/-- Report the answer of a cursor; a row in it is dropped. -/
def passAnswer (answer : Cursor.Answer) (w : ClientWorld) : Report × ClientWorld :=
  match answer with
  | .done => (.done, w)
  | .moved outcome => (.moved outcome, w)
  | .row row => passRow row w
  | .count n => (.count n, w)

/-- Fetch a row and keep it under a name.  The row that had the name is dropped; without a row
nothing changes hands. -/
def fetchAndKeep (ws : Workspace) (name : String) (move : Seek) (keep : String) :
    Report × Workspace :=
  match ws.statements.get? name with
  | none => (.absent, ws)
  | some s =>
    match Statement.fetch move (s, ws.world) with
    | .error e (s, world) => (.failed e, { ws with world, statements := ws.statements.put name s })
    | .ok row (s, w) =>
      let ws := { ws with world := w, statements := ws.statements.put name s }
      match row with
      | none => (.absent, ws)
      | some r =>
        let world := w.releaseAll ((ws.rows.get? keep).elim [] Row.values)
        (viewRow w row, { ws with world, rows := ws.rows.put keep r })

/-- Execute a prepared statement with arguments.  The arguments hold aliases until they have been
reported. -/
def executeWith (ws : Workspace) (name : String) (args : Arguments) : Report × Workspace :=
  match ws.statements.get? name with
  | none => (.absent, ws)
  | some s =>
    let finish (result : Except Error Int) (args : Arguments) (s : Statement) (w : ClientWorld) :=
      let lengths := s.parameters?.map fun ps => ps.items.map Parameter.transferLength
      (Report.execution result (args.values.map w.view) lengths,
        { ws with
          world := w.releaseAll args.values
          statements := ws.statements.put name s })
    match Statement.executeWith (args, s, args.values.foldl World.share ws.world) with
    | .ok count (args, s, w) => finish (.ok count) args s w
    | .error e (args, s, w) => finish (.error e) args s w

/-- The value at a path. -/
def valueAt (row : Row) : CellPath → Option Value
  | .index n => row.get? n
  | .label l => row.find? l

/-- Name an alias of the LOB handle at a path of a kept row.  The alias that had the name is
dropped. -/
def take (ws : Workspace) (row : String) (path : CellPath) (lob : String) : Report × Workspace :=
  match ((ws.rows.get? row).bind (valueAt · path)).bind Value.lob? with
  | none => (.absent, ws)
  | some ref =>
    let world := ws.world.addAlias ref
    let world := match ws.lobs.get? lob with
      | some old => world.dropAlias old
      | none => world
    (.done, { ws with world, lobs := ws.lobs.put lob ref })

/-- Perform a command. -/
def step (ws : Workspace) : Command → Report × Workspace
  | .register sql script =>
    (.done,
      { ws with world := { ws.world with server := ws.world.server.register sql script } })
  | .create name options released =>
    let (h, w) := handle released ws.world
    ws.settle name (Statement.new h options w)
  | .prepare name sql options released =>
    let (h, w) := handle released ws.world
    ws.settle name (Statement.prepare h sql options w)
  | .drop name =>
    match ws.statements.get? name with
    | none => (.done, ws)
    | some s =>
      (.done,
        { ws with
          world := (Statement.close (s, ws.world)).2
          statements := ws.statements.erase name })
  | .close name => ws.onStatement name (modify Statement.close) (just fun () => .done)
  | .configure name later =>
    ws.onStatement name (modify fun (s, w) => (s.configure later, w)) (just fun () => .done)
  | .execute name sql => ws.onStatement name (Statement.execute sql) (just .count)
  | .executeWith name args => ws.executeWith name args
  | .batch name sqls => ws.onStatement name (Statement.batch sqls) (just .statuses)
  | .serial name choice => ws.onStatement name (Statement.serial choice) (just .serial)
  | .fetch name move none => ws.onStatement name (Statement.fetch move) passRow
  | .fetch name move (some keep) => ws.fetchAndKeep name move keep
  | .cursor name call =>
    match (ws.statements.get? name).bind (·.cursor) with
    | none => (.absent, ws)
    | some _ => ws.onStatement name (Statement.onCursor (Cursor.perform call)) passAnswer
  | .take row path lob => ws.take row path lob
  | .dropRow row =>
    match ws.rows.get? row with
    | none => (.done, ws)
    | some r =>
      (.done, { ws with world := ws.world.releaseAll r.values, rows := ws.rows.erase row })
  | .dropLob lob =>
    match ws.lobs.get? lob with
    | none => (.done, ws)
    | some ref => (.done, { ws with world := ws.world.dropAlias ref, lobs := ws.lobs.erase lob })
  | .lob lob call =>
    match ws.lobs.get? lob with
    | none => (.absent, ws)
    | some ref =>
      match ws.world.call ref call with
      | .ok answer world => (.lob answer, { ws with world })
      | .error e world => (.failed e, { ws with world })

/-- Perform commands in order. -/
def run (ws : Workspace) : List Command → List Report × Workspace
  | [] => ([], ws)
  | c :: rest =>
    let (report, ws) := ws.step c
    let (reports, ws) := ws.run rest
    (report :: reports, ws)

/-- Drop everything: the statements, then the rows, then the named handles. -/
def clear (ws : Workspace) : Workspace :=
  let world := ws.statements.things.foldl (fun w s => (Statement.close (s, w)).2) ws.world
  let world := ws.rows.things.foldl (fun w row => w.releaseAll row.values) world
  ⟨ws.lobs.things.foldl World.dropAlias world, [], [], []⟩

end Workspace
end SqlClient
