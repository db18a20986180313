import SqlClient.Proofs.StatementOperations

/-! # What a batch runs

A batch closes the current result set and executes its entries in order.  Each of them is written
down, and then the server accepts it with a row status (`Server.Accepts`) or refuses it with an
error (`Server.Refuses`), which ends the batch.  So what was run is known from the result alone: all
entries, or those up to and including the one that was refused (`batchEntries_of_live`).

Besides, a batch concerns neither result sets that are given out, nor what is bound, nor serial
keys (`Entered`).
-/
namespace SqlClient

open Scripted

namespace Scripted

/-! ## Entries -/

namespace Server

variable {s : Server} {sql : String}

/-- **The server accepts an entry of a batch** with this row status. -/
inductive Accepts (s : Server) (sql : String) : Int → Prop
  | updated {script : Script} {rows : Int} (hscript : s.scripts.lookup sql = some script)
    (haction : script.action = .update rows) (hfits : -2 ^ 31 ≤ rows ∧ rows < 2 ^ 31) :
    Accepts s sql rows
  /-- The number of rows does not fit in a status of 32 bits. -/
  | overflowed {script : Script} {rows : Int} (hscript : s.scripts.lookup sql = some script)
    (haction : script.action = .update rows) (hfits : ¬(-2 ^ 31 ≤ rows ∧ rows < 2 ^ 31)) :
    Accepts s sql (2 ^ 31 - 1)
  /-- A procedure is not run, and has no number of rows. -/
  | called {script : Script} {procedure : List Value → Except Error (List Value)}
    (hscript : s.scripts.lookup sql = some script) (haction : script.action = .call procedure) :
    Accepts s sql (-2)

/-- **The server refuses an entry of a batch** with this error. -/
inductive Refuses (s : Server) (sql : String) : Error → Prop
  | unknown (hscript : s.scripts.lookup sql = none) :
    Refuses s sql (.refused (.unknownStatement sql))
  | failed {script : Script} {code : Int} {text : String}
    (hscript : s.scripts.lookup sql = some script) (haction : script.action = .fail code text) :
    Refuses s sql (.server code text)
  | query {script : Script} {result : Result} (hscript : s.scripts.lookup sql = some script)
    (haction : script.action = .query result) : Refuses s sql (.refused (.queryInBatch sql))

theorem script?_of_lookup {script : Script} (h : s.scripts.lookup sql = some script) :
    s.script? sql = .ok script := by
  rw [script?, h]

theorem entryStatus_of_lookup {script : Script} (h : s.scripts.lookup sql = some script) :
    Handle.entryStatus s sql = Handle.batchStatus sql script := by
  rw [Handle.entryStatus, script?_of_lookup h]
  rfl

/-- What fits in 32 bits is its own status. -/
theorem rowStatus_eq (rows : Int) : Handle.rowStatus rows =
    if -2 ^ 31 ≤ rows ∧ rows < 2 ^ 31 then rows else 2 ^ 31 - 1 := by
  rw [Handle.rowStatus]
  split <;> split <;> omega

theorem entryStatus_of_accepts {status : Int} (h : s.Accepts sql status) :
    Handle.entryStatus s sql = .ok status := by
  cases h with
  | updated hscript haction hfits =>
    rw [entryStatus_of_lookup hscript, Handle.batchStatus, haction]
    exact congrArg Except.ok ((rowStatus_eq _).trans (if_pos hfits))
  | overflowed hscript haction hfits =>
    rw [entryStatus_of_lookup hscript, Handle.batchStatus, haction]
    exact congrArg Except.ok ((rowStatus_eq _).trans (if_neg hfits))
  | called hscript haction =>
    rw [entryStatus_of_lookup hscript, Handle.batchStatus, haction]
    rfl

theorem entryStatus_of_refuses {e : Error} (h : s.Refuses sql e) :
    Handle.entryStatus s sql = .error e := by
  cases h with
  | unknown hscript =>
    rw [Handle.entryStatus, script?, hscript]
    rfl
  | failed hscript haction | query hscript haction =>
    rw [entryStatus_of_lookup hscript, Handle.batchStatus, haction]

/-- Every entry is accepted or refused. -/
theorem accepts_or_refuses (s : Server) (sql : String) :
    (∃ status, s.Accepts sql status) ∨ ∃ e, s.Refuses sql e := by
  cases hscript : s.scripts.lookup sql with
  | none => exact .inr ⟨_, .unknown hscript⟩
  | some script =>
    cases haction : script.action with
    | query result => exact .inr ⟨_, .query hscript haction⟩
    | fail code text => exact .inr ⟨_, .failed hscript haction⟩
    | call procedure => exact .inl ⟨_, .called hscript haction⟩
    | update rows =>
      by_cases hfits : -2 ^ 31 ≤ rows ∧ rows < 2 ^ 31
      · exact .inl ⟨_, .updated hscript haction hfits⟩
      · exact .inl ⟨_, .overflowed hscript haction hfits⟩

theorem accepts_iff {status : Int} :
    s.Accepts sql status ↔ Handle.entryStatus s sql = .ok status := by
  refine ⟨entryStatus_of_accepts, fun hstatus => ?_⟩
  obtain ⟨status', haccepts⟩ | ⟨e, hrefuses⟩ := accepts_or_refuses s sql
  · rw [entryStatus_of_accepts haccepts] at hstatus
    cases hstatus
    exact haccepts
  · rw [entryStatus_of_refuses hrefuses] at hstatus
    cases hstatus

theorem refuses_iff {e : Error} : s.Refuses sql e ↔ Handle.entryStatus s sql = .error e := by
  refine ⟨entryStatus_of_refuses, fun hstatus => ?_⟩
  obtain ⟨status, haccepts⟩ | ⟨e', hrefuses⟩ := accepts_or_refuses s sql
  · rw [entryStatus_of_accepts haccepts] at hstatus
    cases hstatus
  · rw [entryStatus_of_refuses hrefuses] at hstatus
    cases hstatus
    exact hrefuses

/-- What is not refused is accepted. -/
theorem entryStatus_of_not_refused (h : ∀ e, ¬s.Refuses sql e) :
    ∃ status, Handle.entryStatus s sql = .ok status := by
  obtain ⟨status, haccepts⟩ | ⟨e, hrefuses⟩ := accepts_or_refuses s sql
  · exact ⟨status, entryStatus_of_accepts haccepts⟩
  · exact absurd hrefuses (h e)

end Server

/-- The answer to a question for a serial key depends on nothing but the handle. -/
theorem Handle.result?_serial (choice : SerialChoice) (h : Handle) (s s' : Server) :
    result? (serial choice (h, s)) = result? (serial choice (h, s')) := by
  cases hreleased : h.isReleased with
  | true =>
    rw [serial, run_bind_error (ensureLive_of_released hreleased s),
      run_bind_error (ensureLive_of_released hreleased s')]
    rfl
  | false =>
    rw [serial, run_bind_ok (ensureLive_of_live hreleased s),
      run_bind_ok (ensureLive_of_live hreleased s')]
    rfl

end Scripted

namespace Statement

variable {s s' : Statement} {w w' : ClientWorld} {link : Link} {sqls : List String}

/-! ## Batches -/

/-- The number of result sets that closing the cursor gives back. -/
def heldOpen (s : Statement) : Nat :=
  s.cursor.elim 0 fun c => if c.isClosed then 0 else c.rows.held

/-- Closing the cursor changes nothing but the number of result sets given back. -/
theorem closeCursor_eq_heldOpen (s : Statement) (w : ClientWorld) :
    closeCursor (s, w) =
      ({ s with cursor := none },
        { w with
          server.closedResultSets := w.server.closedResultSets + s.heldOpen }) := by
  obtain ⟨link, _ | c, options⟩ := s
  · rfl
  · have hremote : (RemoteRows.close (c.rows, w.server) : ResultSet × Server) =
        ResultSet.close (c.rows, w.server) := rfl
    cases hclosed : c.isClosed
    · cases hrows : c.rows.isClosed <;>
        simp [closeCursor, Cursor.close, heldOpen, hclosed, hremote, ResultSet.close,
          ResultSet.held, hrows]
    · simp [closeCursor, Cursor.close, heldOpen, hclosed]

theorem closeCursor_closeCursor (s : Statement) (w : ClientWorld) :
    closeCursor (closeCursor (s, w)) = closeCursor (s, w) := by
  rw [closeCursor_eq_heldOpen, closeCursor_eq_heldOpen]
  rfl

theorem result?_serial (choice : SerialChoice) (hlink : s'.link = s.link) (w w' : ClientWorld) :
    result? (serial choice (s', w')) = result? (serial choice (s, w)) := by
  cases hown : s.link with
  | none => simp [serial, onHandle, hlink, hown]
  | some link =>
    have hsame := Handle.result?_serial choice link.handle w'.server w.server
    simp only [serial, onHandle, hlink, hown]
    cases hleft : Handle.serial choice (link.handle, w'.server) <;>
      cases hright : Handle.serial choice (link.handle, w.server) <;>
        rw [hleft, hright] at hsame <;> exact hsame

/-- **What a batch leaves** that has written down these entries. -/
structure Entered (entered : List String) (x y : Statement × ClientWorld) : Prop where
  executed : y.2.server.executed = x.2.server.executed ++ entered
  bound : y.2.server.bound = x.2.server.bound
  opened : y.2.server.openedResultSets = x.2.server.openedResultSets
  /-- The result set that was current was given back, if it was still open. -/
  closed : y.2.server.closedResultSets = x.2.server.closedResultSets + x.1.heldOpen
  /-- Nothing else happened in the world, but that the entries have noted their settings. -/
  world : ∃ executed settings closedResultSets,
    y.2 = { x.2 with server := { x.2.server with executed, settings, closedResultSets } }
  /-- The statement has no result set.  Its handle is as it was, and so are its parameters with
  what is bound to them. -/
  statement : y.1 = { x.1 with cursor := none }
  serials : ∀ choice, result? (serial choice y) = result? (serial choice x)

/-- **What a batch runs** on a statement. -/
structure BatchEntries (sqls : List String) (s : Statement) (w : ClientWorld) : Prop where
  /-- The current result set is closed before anything is run. -/
  closesFirst : batch sqls (s, w) = batch sqls (closeCursor (s, w))
  /-- If no entry is refused, all are run in order, and there is one status for each. -/
  completed : (∀ sql ∈ sqls, ∀ e, ¬w.server.Refuses sql e) →
    ∃ statuses state, batch sqls (s, w) = .ok statuses state ∧
      List.Forall₂ w.server.Accepts sqls statuses ∧ Entered sqls (s, w) state
  /-- If one is, the first such is the last to be run, and its error is that of the batch. -/
  stopped : ∀ before sql rest e, sqls = before ++ sql :: rest →
    (∀ entry ∈ before, ∀ e, ¬w.server.Refuses entry e) → w.server.Refuses sql e →
      ∃ state, batch sqls (s, w) = .error e state ∧ Entered (before ++ [sql]) (s, w) state

/-- A batch is run on the handle once the cursor is closed. -/
theorem batch_eq (hlink : s.link = some link) (hlive : link.handle.isReleased = false)
    (sqls : List String) (w : ClientWorld) :
    batch sqls (s, w) =
      match Handle.executeEntries sqls (link.handle, (closeCursor (s, w)).2.server) with
      | .ok statuses (handle, server) =>
        .ok statuses ({ s with link := some { link with handle }, cursor := none },
          { w with server })
      | .error e (handle, server) =>
        .error e ({ s with link := some { link with handle }, cursor := none },
          { w with server }) := by
  rw [batch, run_bind_modify, closeCursor_eq_heldOpen]
  simp only [onHandle, hlink]
  rw [Handle.executeBatch, run_bind_ok (Handle.ensureLive_of_live hlive _)]
  split <;> simp only [*]

theorem entered_recordAll (hlink : s.link = some link) (entered : List String)
    (w : ClientWorld) :
    Entered entered (s, w)
      ({ s with link := some { link with handle := link.handle }, cursor := none },
        { w with
          server := (closeCursor (s, w)).2.server.recordAll entered link.handle.settings }) := by
  rw [closeCursor_eq_heldOpen]
  exact
    { executed := rfl
      bound := rfl
      opened := rfl
      closed := rfl
      world := ⟨_, _, _, rfl⟩
      statement := congrArg (fun link => { s with link, cursor := none }) hlink.symm
      serials := fun choice => result?_serial choice hlink.symm _ _ }

/-- **A batch runs a prefix of its entries in order.**  On a statement that is not closed, all
entries are run, or those up to and including the first that is refused. -/
theorem batchEntries_of_live (hlink : s.link = some link)
    (hlive : link.handle.isReleased = false) (sqls : List String) (w : ClientWorld) :
    BatchEntries sqls s w := by
  -- closing the cursor changes no script
  have hscripts (sql : String) :
      Handle.entryStatus (closeCursor (s, w)).2.server sql = Handle.entryStatus w.server sql := by
    rw [closeCursor_eq_heldOpen]
    rfl
  have haccepted {entries : List String}
      (hnone : ∀ entry ∈ entries, ∀ e, ¬w.server.Refuses entry e) (entry : String)
      (hentry : entry ∈ entries) :
      ∃ status, Handle.entryStatus (closeCursor (s, w)).2.server entry = .ok status := by
    rw [hscripts]
    exact Server.entryStatus_of_not_refused (hnone entry hentry)
  refine ⟨?_, fun hnone => ?_, fun before sql rest e heq hnone hrefuses => ?_⟩
  · rw [batch, run_bind_modify, run_bind_modify, closeCursor_closeCursor]
  · obtain ⟨statuses, hmapM⟩ := exists_mapM_eq_ok (haccepted hnone)
    have hall := mapM_eq_ok_iff.mp hmapM
    refine ⟨statuses, _, ?_, ?_, entered_recordAll hlink sqls w⟩
    · rw [batch_eq hlink hlive, Handle.executeEntries_of_accepted hall]
    · exact hall.imp fun sql status hstatus =>
        Server.accepts_iff.mpr ((hscripts sql).symm.trans hstatus)
  · have hrefused := (hscripts sql).trans (Server.refuses_iff.mp hrefuses)
    refine ⟨_, ?_, entered_recordAll hlink (before ++ [sql]) w⟩
    rw [heq, batch_eq hlink hlive,
      Handle.executeEntries_of_refused (haccepted hnone) hrefused]

/-- A statement has an open result set and serial keys.  Its batch changes more rows than a status
has room for, calls a procedure, and is stopped at a query.  The update behind it is not run. -/
theorem batchEntries_of_live_stopped :
    let result : Result := ⟨[.ofDigits "N" 5 0], [[.int 1]]⟩
    let server := Server.empty.register "Q" ⟨.query result, [], some (41, 43)⟩
      |>.register "U" ⟨.update 5000000000, [], none⟩
      |>.register "C" ⟨.call fun _ => .error .noColumns, [], none⟩
    let fresh : Statement :=
      { link := some ⟨Handle.new, none⟩, cursor := none, options := .empty }
    let x := leaves (execute "Q" (fresh, .new server))
    ∃ link state, x.1.link = some link ∧ link.handle.isReleased = false ∧
      BatchEntries ["U", "C", "Q", "U"] x.1 x.2 ∧ x.1.isQuery = true ∧
      batch ["U", "C", "Q", "U"] x = .error (.refused (.queryInBatch "Q")) state ∧
      state.2.server.executed = ["Q", "U", "C", "Q"] ∧ state.2.server.closedResultSets = 1 ∧
      state.1.isQuery = false ∧ result? (serial .last state) = some (some 43) ∧
      result? (batch ["U", "C"] x) = some [2147483647, -2] :=
  ⟨_, _, rfl, rfl, batchEntries_of_live rfl rfl _ _, rfl, rfl, rfl, rfl, rfl, rfl, rfl⟩

end Statement
end SqlClient
