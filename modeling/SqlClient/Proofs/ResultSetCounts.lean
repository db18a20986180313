import SqlClient.Proofs.CursorPosition
import SqlClient.Proofs.HandleRequests

/-! # Result sets given out and given back

The server counts the result sets that executions gave out, and those it was given back.  Here is
what each operation does to these counts.  On a handle, only an execution that comes to a query
gives a result set out, one that is open and stands before its first row (`Handle.Gave`); anything
else is quiet (`Handle.Quiet`).  A cursor gives its result set back when it is closed, and a result
set that no cursor can be opened over is given back at once (`openCursor_of_open`).
-/
namespace SqlClient

open Scripted

namespace Scripted

/-! ## On a handle -/

/-- The result set that an execution came to, if it did. -/
def Execution.rows? : Execution → Option ResultSet
  | .query rows => some rows
  | .update _ => none

/-- A result set before its first row that was not given back. -/
structure ResultSet.Fresh (rows : ResultSet) : Prop where
  isOpen : rows.isClosed = false
  position : rows.position = 0

namespace Handle

/-- Nothing happened to result sets, and the settings of the handle are as they were. -/
structure Quiet (before after : Handle × Server) : Prop where
  settings : after.1.settings = before.1.settings
  server : before.2.SameResultSets after.2

/-- At most one result set was given out, a fresh one, and none was given back. -/
structure Gave (before : Handle × Server) (given : Option ResultSet) (after : Handle × Server) :
    Prop where
  settings : after.1.settings = before.1.settings
  opened : after.2.openedResultSets = before.2.openedResultSets + given.toList.length
  closed : after.2.closedResultSets = before.2.closedResultSets
  fresh : ∀ rows ∈ given, rows.Fresh

variable {before after : Handle × Server}

theorem Quiet.refl (state : Handle × Server) : Quiet state state := ⟨rfl, .refl state.2⟩

theorem Gave.none (hsettings : after.1.settings = before.1.settings)
    (hopened : after.2.openedResultSets = before.2.openedResultSets)
    (hclosed : after.2.closedResultSets = before.2.closedResultSets) :
    Gave before .none after where
  settings := hsettings
  opened := hopened
  closed := hclosed
  fresh := by simp

theorem quiet_executeBatch (sqls : List String) (h : Handle) (s : Server) :
    Quiet (h, s) (leaves (executeBatch sqls (h, s))) := by
  cases hreleased : h.isReleased with
  | true =>
    rw [executeBatch, run_bind_error (ensureLive_of_released hreleased s)]
    exact .refl _
  | false =>
    obtain ⟨entered, -, -, hleaves⟩ := leaves_executeBatch hreleased sqls s
    rw [hleaves]
    exact ⟨rfl, rfl, rfl⟩

theorem quiet_serial (choice : SerialChoice) (h : Handle) (s : Server) :
    Quiet (h, s) (leaves (serial choice (h, s))) := by
  rw [leaves_serial]
  exact .refl _

/-- **A result set that is answered** is a fresh one, and there are no outputs besides. -/
theorem fresh_of_answer {script : Script} {settings : Settings} {inputs outputs : List Value}
    {rows : ResultSet} (hanswer : script.answer settings inputs = .ok (.query rows, outputs)) :
    rows.Fresh ∧ outputs = [] := by
  obtain ⟨_, -, rfl, houtputs⟩ := Script.query_of_answer hanswer
  exact ⟨⟨rfl, rfl⟩, houtputs⟩

/-- **An execution** gives out the result set it comes to, and nothing else. -/
theorem gave_execute (sql : String) (h : Handle) (s : Server) :
    Gave (h, s) ((result? (execute sql (h, s))).bind Execution.rows?)
      (leaves (execute sql (h, s))) := by
  cases hreleased : h.isReleased with
  | true =>
    rw [execute_of_released hreleased]
    exact .none rfl rfl rfl
  | false =>
    rw [execute_eq hreleased]
    cases hreply : h.replyTo (s.called sql) with
    | error e => exact .none rfl rfl rfl
    | ok answer =>
      obtain ⟨execution, outputs⟩ := answer
      obtain ⟨script, inputs, -, hanswer⟩ := replyTo_eq_ok_iff.mp hreply
      cases execution with
      | update rowsAffected => exact .none rfl rfl rfl
      | query rows =>
        refine ⟨rfl, rfl, rfl, ?_⟩
        rintro _ ⟨⟩
        exact (fresh_of_answer hanswer).1

/-- **A prepared execution** gives out the result set it comes to, and nothing else.  Outputs are
received only where there is no result set, so that none is lost when an output is refused. -/
theorem gave_executePrepared (bindings : List Binding) (h : Handle) (s : Server) :
    Gave (h, s) ((result? (executePrepared (bindings, h, s))).bind Execution.rows?)
      (leaves (executePrepared (bindings, h, s))).2 := by
  have hclosed : (s.entered h (entriesOf (accept bindings h s))).closedResultSets =
      s.closedResultSets := by
    unfold Server.entered
    split
    · rfl
    · split <;> rfl
  rw [executePrepared_eq, serve]
  cases hreply : reply bindings h s with
  | error e => exact .none rfl rfl hclosed
  | ok answer =>
    obtain ⟨execution, outputs⟩ := answer
    cases execution with
    | update rowsAffected =>
      simp only
      cases fillOutputs bindings outputs <;> exact .none rfl rfl hclosed
    | query rows =>
      obtain ⟨script, inputs, -, hanswer⟩ := reply_eq_ok_iff.mp hreply
      obtain ⟨hfresh, rfl⟩ := fresh_of_answer hanswer
      simp only [fillOutputs_nil]
      refine ⟨rfl, rfl, hclosed, ?_⟩
      rintro _ ⟨⟩
      exact hfresh

end Handle
end Scripted

/-! ## On a cursor -/

namespace Cursor

theorem leaves_seek (move : Seek) (c : Cursor ResultSet) (w : ClientWorld) :
    (leaves (seek move (c, w))).2 = w := by
  cases hclosed : c.rows.isClosed with
  | true => rw [seek_of_closed hclosed, leaves_error]
  | false =>
    rw [seek_of_open hclosed]
    split <;> rfl

theorem onlyLobs_fetch (move : Seek) (c : Cursor ResultSet) (w : ClientWorld) :
    w.server.OnlyLobs (leaves (fetch move (c, w))).2.server := by
  have hworld := leaves_seek move c w
  rw [fetch]
  cases hseek : seek move (c, w) with
  | error e state =>
    rw [hseek] at hworld
    rw [run_bind_error hseek]
    exact hworld ▸ .refl w.server
  | ok outcome state =>
    obtain ⟨c', w'⟩ := state
    rw [hseek] at hworld
    obtain rfl : w' = w := hworld
    rw [run_bind_ok hseek]
    cases outcome with
    | pastEdge => exact .refl w'.server
    | onRow => exact (read_current c' w').server

theorem sameResultSets_setFetchSize (size : Nat) (c : Cursor ResultSet) (w : ClientWorld) :
    w.server.SameResultSets (leaves (setFetchSize size (c, w))).2.server := by
  have hremote : setFetchSize size (c, w) = onServer (ResultSet.setFetchSize size) (c, w) := rfl
  rw [hremote, onServer]
  cases hclosed : c.rows.isClosed <;>
    simp [ResultSet.setFetchSize, ResultSet.whileOpen, hclosed] <;> exact ⟨rfl, rfl⟩

/-- **No call but closing** gives a result set back. -/
theorem sameResultSets_perform {call : Call} (hcall : call ≠ .close) (c : Cursor ResultSet)
    (w : ClientWorld) : w.server.SameResultSets (leaves (perform call (c, w))).2.server := by
  cases call with
  | seek move =>
    rw [perform, leaves_bind_pure, leaves_seek]
    exact .refl w.server
  | fetch move =>
    rw [perform, leaves_bind_pure]
    exact (onlyLobs_fetch move c w).sameResultSets
  | current =>
    rw [perform, leaves_bind_pure]
    exact (read_current c w).server.sameResultSets
  | count => exact .refl w.server
  | setFetchSize size =>
    rw [perform, leaves_bind_pure]
    exact sameResultSets_setFetchSize size c w
  | close => exact absurd rfl hcall

end Cursor

namespace Statement

/-! ## Opening a cursor -/

/-- The server after the options of a statement were applied to a result set. -/
def tuned (options : Options) (server : Server) : Server :=
  match options.fetchSize with
  | none => server
  | some size => { server with settings := { server.settings with fetchSize := some size } }

/-- **A cursor over an open result set**, or the result set is given back. -/
theorem openCursor_of_open (options : Options) {rows : ResultSet} (hopen : rows.isClosed = false)
    (w : ClientWorld) :
    openCursor options rows w =
      let back : ClientWorld :=
        { w with server := { w.server with closedResultSets := w.server.closedResultSets + 1 } }
      match Column.ofDescriptions rows.columns with
      | .error e => .error e back
      | .ok [] => .error .noColumns back
      | .ok columns =>
        .ok ⟨rows, columns, .new (Cursor.widest columns), .unpositioned, false⟩
          { w with server := tuned options w.server } := by
  have hclose : (ResultSet.close (rows, w.server)).2 =
      { w.server with closedResultSets := w.server.closedResultSets + 1 } := by
    simp [ResultSet.close, hopen]
  rw [openCursor, Cursor.openOn_eq, hclose]
  rcases Column.ofDescriptions rows.columns with e | (_ | ⟨column, columns⟩)
  · rfl
  · rfl
  · cases hsize : options.fetchSize with
    | none => simp [tuned, hsize]
    | some size =>
      have hset := setFetchSize_of_open hopen size w.server
      simp [tuned, hsize, Cursor.setFetchSize, Cursor.onServer, hset]

end Statement
end SqlClient
