import SqlClient.Scripted.ResultSet

/-!
# Statement handles of the scripted server

A handle executes SQL texts, directly or prepared, under the settings it was given, and remembers
the serial keys of its last execution.  Every execution is written down before its script is
looked up.  A released handle refuses every call.
-/

namespace SqlClient.Scripted

/-- A statement handle of the scripted server. -/
structure Handle where
  /-- The SQL text it was prepared for. -/
  prepared : Option String
  settings : Settings
  /-- The first and last serial key of the last execution. -/
  serials : Option (Int × Int)
  isReleased : Bool
  deriving DecidableEq, Repr

/-- What an execution came to. -/
inductive Execution where
  | query (rows : ResultSet)
  | update (rowsAffected : Int)
  deriving DecidableEq, Repr

/-- Which of the serial keys of an execution. -/
inductive SerialChoice where
  | first
  | last
  deriving DecidableEq, Repr

namespace Handle

/-- A fresh handle. -/
def new : Handle := ⟨none, .initial, none, false⟩

/-- Refuse what needs a live handle. -/
def ensureLive : EStateM Error (Handle × Server) Unit := do
  if (← get).1.isReleased then throw (.refused .released)

/-- Change the settings of a live handle. -/
def configure (change : Settings → Settings) : EStateM Error (Handle × Server) Unit := do
  ensureLive
  modify fun (h, s) => ({ h with settings := change h.settings }, s)

/-- Write down the execution of a SQL text and look up its script. -/
def enter (sql : String) : EStateM Error (Handle × Server) Script := do
  modify fun (h, s) => (h, s.record sql h.settings)
  match (← get).2.script? sql with
  | .ok script => return script
  | .error e => throw e

/-- The result set of a scripted query under these settings. -/
def resultSet (settings : Settings) (result : Result) : ResultSet :=
  let rows := if 0 < settings.maxRows then result.rows.take settings.maxRows else result.rows
  { ResultSet.new { result with rows } with
    isForwardOnly := decide (settings.scrollMode = .forwardOnly) }

/-- Run a script on input values.  The serial keys of an earlier execution are forgotten first;
those of the script are set when it succeeds. -/
def run (script : Script) (inputs : List Value) :
    EStateM Error (Handle × Server) (Execution × List Value) := fun (h, s) =>
  let h := { h with serials := none }
  let done := ({ h with serials := script.serials }, s)
  match script.action with
  | .fail code text => .error (.server code text) (h, s)
  | .update rows => .ok (.update rows, []) done
  | .query result =>
    .ok (.query (resultSet h.settings result), [])
      (done.1, { s with openedResultSets := s.openedResultSets + 1 })
  | .call procedure =>
    match procedure inputs with
    | .error e => .error e (h, s)
    | .ok outputs => .ok (.update 0, outputs) done

/-- Execute a SQL text. -/
def execute (sql : String) : EStateM Error (Handle × Server) Execution := do
  ensureLive
  let script ← enter sql
  return (← run script []).1

/-- The row status of a batch entry that calls a procedure. -/
def noRowCount : Int := -2

/-- A number of rows as the status of a batch entry, which has 32 bits.  What does not fit is
reported as the largest status. -/
def rowStatus (rows : Int) : Int :=
  if -0x80000000 ≤ rows ∧ rows ≤ 0x7fffffff then rows else 0x7fffffff

/-- The status of a batch entry.  Procedures are not run and queries are refused. -/
def batchStatus (sql : String) (script : Script) : Except Error Int :=
  match script.action with
  | .update rows => .ok (rowStatus rows)
  | .call _ => .ok noRowCount
  | .fail code text => .error (.server code text)
  | .query _ => .error (.refused (.queryInBatch sql))

/-- Execute the entries of a batch in order, up to the first that fails. -/
def executeEntries : List String → EStateM Error (Handle × Server) (List Int)
  | [] => return []
  | sql :: rest => do
    match batchStatus sql (← enter sql) with
    | .error e => throw e
    | .ok status => return status :: (← executeEntries rest)

/-- Execute a batch; there is one status per entry. -/
def executeBatch (sqls : List String) : EStateM Error (Handle × Server) (List Int) := do
  ensureLive
  executeEntries sqls

/-- A serial key of the last execution. -/
def serial (choice : SerialChoice) : EStateM Error (Handle × Server) (Option Int) := do
  ensureLive
  return (← get).1.serials.map fun (first, last) =>
    match choice with
    | .first => first
    | .last => last

/-- Give the handle back; the server counts it once. -/
def release : Handle × Server → Handle × Server := fun (h, s) =>
  if h.isReleased then (h, s)
  else ({ h with isReleased := true }, { s with releasedStatements := s.releasedStatements + 1 })

/-- Prepare a SQL text; its parameters are described. -/
def prepare (sql : String) : EStateM Error (Handle × Server) (List ParameterDescription) := do
  ensureLive
  match (← get).2.script? sql with
  | .error e => throw e
  | .ok script =>
    modify fun (h, s) => ({ h with prepared := some sql }, s)
    return script.parameters

/-- The input values of bindings; one that takes no input counts as NULL. -/
def inputsOf (bindings : List Binding) : Except Error (List Value) :=
  bindings.mapM fun b => if b.mode.isInput then b.buffer.decode b.host else .ok .null

/-- Write output values into bindings, in order, up to the first that fails.  A value for a
binding that takes no output is skipped. -/
def fillOutputs : List Binding → List Value → EStateM.Result Error (List Binding) Unit
  | b :: rest, v :: values =>
    match if b.mode.isOutput then b.buffer.encode b.host v else .ok b.buffer with
    | .error e => .error e (b :: rest)
    | .ok buffer =>
      match fillOutputs rest values with
      | .ok () rest => .ok () ({ b with buffer } :: rest)
      | .error e rest => .error e ({ b with buffer } :: rest)
  | bindings, _ => .ok () bindings

/-- Check a prepared execution and write down its inputs. -/
def enterPrepared (bindings : List Binding) :
    EStateM Error (Handle × Server) (Script × List Value) := do
  ensureLive
  match (← get).1.prepared with
  | none => throw (.refused .notPrepared)
  | some sql =>
    let script ← enter sql
    if bindings.length ≠ script.parameters.length then
      throw (.refused (.parameterCount bindings.length script.parameters.length))
    match inputsOf bindings with
    | .error e => throw e
    | .ok inputs =>
      modify fun (h, s) => (h, { s with bound := s.bound ++ [inputs] })
      return (script, inputs)

/-- Execute the prepared SQL text with one binding per parameter. -/
def executePrepared : EStateM Error (List Binding × Handle × Server) Execution :=
  fun (bindings, state) =>
    match (do let (script, inputs) ← enterPrepared bindings; run script inputs) state with
    | .error e state => .error e (bindings, state)
    | .ok (execution, outputs) state =>
      match fillOutputs bindings outputs with
      | .ok () bindings => .ok execution (bindings, state)
      | .error e bindings => .error e (bindings, state)

/-- Give the handle the options that are set; without any it is not even asked. -/
def applyOptions (options : Options) : EStateM Error (Handle × Server) Unit := do
  if let some name := options.cursorName then
    configure fun settings => { settings with cursorName := some name }
  if let some mode := options.scrollMode then
    configure fun settings => { settings with scrollMode := mode }
  if let some level := options.concurrency then
    configure fun settings => { settings with concurrency := level }
  if let some rows := options.maxRows then
    configure fun settings => { settings with maxRows := rows }

end Handle
end SqlClient.Scripted
