import SqlClient.Proofs.PreparedExecution

/-! # Requests on a statement handle

A request on a handle is an execution, a prepared one, a batch, or a question for a serial key.  It
may fail at many places, but it leaves little: of the handle other serial keys, and of the server
more in its books and result sets given out (`Handle.Requested`).  What an execution leaves is
known exactly (`execute_eq`, `executePrepared_eq`), and so is what a batch does
(`executeEntries_of_accepted`, `executeEntries_of_refused`): it writes down the entries up to the
first that fails (`leaves_executeBatch`).
-/
namespace SqlClient.Scripted

/-- The server after entries of a batch were written down, all under the same settings. -/
def Server.recordAll (s : Server) (sqls : List String) (settings : Settings) : Server :=
  { s with
    executed := s.executed ++ sqls
    settings := if sqls = [] then s.settings else { settings with fetchSize := none } }

theorem Server.recordAll_nil (s : Server) (settings : Settings) : s.recordAll [] settings = s := by
  simp [recordAll]

theorem Server.recordAll_cons (s : Server) (sql : String) (sqls : List String)
    (settings : Settings) :
    (s.record sql settings).recordAll sqls settings = s.recordAll (sql :: sqls) settings := by
  cases sqls <;> simp [recordAll, record]

namespace Handle

variable {h : Handle} {before after : Handle × Server}

/-- **What a request leaves.**  No request gives the handle back, or any other. -/
structure Requested (before after : Handle × Server) : Prop where
  handle : ∃ serials, after.1 = { before.1 with serials }
  server : ∃ executed bound settings openedResultSets,
    after.2 = { before.2 with executed, bound, settings, openedResultSets }

theorem Requested.refl (state : Handle × Server) : Requested state state :=
  ⟨⟨_, rfl⟩, ⟨_, _, _, _, rfl⟩⟩

theorem Requested.settings (hrequested : Requested before after) :
    after.1.settings = before.1.settings := by
  obtain ⟨serials, heq⟩ := hrequested.handle
  rw [heq]

theorem Requested.isReleased (hrequested : Requested before after) :
    after.1.isReleased = before.1.isReleased := by
  obtain ⟨serials, heq⟩ := hrequested.handle
  rw [heq]

theorem Requested.releasedStatements (hrequested : Requested before after) :
    after.2.releasedStatements = before.2.releasedStatements := by
  obtain ⟨_, _, _, _, heq⟩ := hrequested.server
  rw [heq]

/-! ## Executions -/

theorem execute_of_released (hreleased : h.isReleased = true) (sql : String) (s : Server) :
    execute sql (h, s) = .error (.refused .released) (h, s) := by
  rw [execute, run_bind_error (ensureLive_of_released hreleased s)]

/-- A direct execution succeeds with the answer of its script. -/
theorem execute_eq_ok {sql : String} {s : Server} {execution : Execution} {state : Handle × Server}
    (hexecute : execute sql (h, s) = .ok execution state) :
    h.isReleased = false ∧ ∃ script outputs, s.script? sql = .ok script ∧
      script.answer h.settings [] = .ok (execution, outputs) := by
  cases hreleased : h.isReleased with
  | true =>
    rw [execute_of_released hreleased] at hexecute
    cases hexecute
  | false =>
    rw [execute_eq hreleased] at hexecute
    cases hreply : h.replyTo (s.called sql) with
    | error e =>
      rw [hreply] at hexecute
      cases hexecute
    | ok answer =>
      rw [hreply] at hexecute
      cases hexecute
      obtain ⟨script, inputs, hcalled, hanswer⟩ := replyTo_eq_ok_iff.mp hreply
      obtain ⟨_, hscript, heq⟩ := map_eq_ok hcalled
      cases heq
      exact ⟨rfl, script, answer.2, hscript, hanswer⟩

/-- A direct execution is written down, and leaves the serial keys of its script. -/
theorem leaves_execute (hlive : h.isReleased = false) (sql : String) (s : Server) :
    leaves (execute sql (h, s)) =
      ({ h with serials := h.keysAfter (s.called sql) },
        { s.record sql h.settings with
          openedResultSets := s.openedResultSets + resultSetsGiven (h.replyTo (s.called sql)) }) := by
  rw [execute_eq hlive]
  cases h.replyTo (s.called sql) <;> rfl

/-- A prepared execution succeeds when the bindings are served. -/
theorem executePrepared_eq_ok {bindings bindings' : List Binding} {s : Server}
    {execution : Execution} {state : Handle × Server}
    (hexecute : executePrepared (bindings, h, s) = .ok execution (bindings', state)) :
    serve h s bindings = .ok execution bindings' := by
  rw [executePrepared_eq] at hexecute
  cases hserve : serve h s bindings <;> rw [hserve] at hexecute <;> cases hexecute
  rfl

/-- A prepared execution leaves the same, whatever becomes of its outputs. -/
theorem leaves_executePrepared (bindings : List Binding) (h : Handle) (s : Server) :
    (leaves (executePrepared (bindings, h, s))).2 =
      let accepted := accept bindings h s
      ({ h with serials := h.keysAfter accepted },
        { s.entered h (entriesOf accepted) with
          openedResultSets := s.openedResultSets + resultSetsGiven (reply bindings h s) }) := by
  rw [executePrepared_eq]
  cases serve h s bindings <;> rfl

theorem requested_execute (sql : String) (state : Handle × Server) :
    Requested state (leaves (execute sql state)) := by
  obtain ⟨h, s⟩ := state
  cases hreleased : h.isReleased with
  | true =>
    rw [execute_of_released hreleased]
    exact .refl _
  | false =>
    rw [leaves_execute hreleased]
    exact ⟨⟨_, rfl⟩, ⟨_, _, _, _, rfl⟩⟩

theorem requested_executePrepared (bindings : List Binding) (state : Handle × Server) :
    Requested state (leaves (executePrepared (bindings, state))).2 := by
  obtain ⟨h, s⟩ := state
  rw [leaves_executePrepared]
  refine ⟨⟨_, rfl⟩, ?_⟩
  unfold Server.entered
  split
  · exact ⟨_, _, _, _, rfl⟩
  · split <;> exact ⟨_, _, _, _, rfl⟩

/-! ## Batches -/

/-- What an entry of a batch comes to: its row status, or the error that ends the batch. -/
def entryStatus (s : Server) (sql : String) : Except Error Int :=
  s.script? sql >>= batchStatus sql

/-- An entry is written down whatever it comes to. -/
theorem executeEntries_cons (sql : String) (rest : List String) (h : Handle) (s : Server) :
    executeEntries (sql :: rest) (h, s) =
      match entryStatus s sql with
      | .error e => .error e (h, s.record sql h.settings)
      | .ok status =>
        (do return status :: (← executeEntries rest)) (h, s.record sql h.settings) := by
  have henter := enter_eq sql h s
  rw [executeEntries, entryStatus]
  cases hscript : s.script? sql with
  | error e =>
    rw [hscript] at henter
    rw [run_bind_error henter]
    rfl
  | ok script =>
    rw [hscript] at henter
    rw [run_bind_ok henter]
    simp only [bind, Except.bind]
    cases batchStatus sql script <;> rfl

/-- **Entries that are all accepted** are all written down, and there is one status for each. -/
theorem executeEntries_of_accepted {sqls : List String} {statuses : List Int} {s : Server}
    (haccepted : List.Forall₂ (fun sql status => entryStatus s sql = .ok status) sqls statuses)
    (h : Handle) :
    executeEntries sqls (h, s) = .ok statuses (h, s.recordAll sqls h.settings) := by
  induction sqls generalizing statuses s with
  | nil =>
    cases haccepted
    rw [Server.recordAll_nil]
    rfl
  | cons sql rest ih =>
    obtain _ | ⟨hstatus, hrest⟩ := haccepted
    rw [executeEntries_cons, hstatus]
    -- what is written down changes no script
    have hrun := ih (s := s.record sql h.settings) hrest
    simp only [run_bind_ok hrun, run_pure, Server.recordAll_cons]

/-- **An entry that is refused** after others that were accepted is the last to be written down,
and its error is that of the batch. -/
theorem executeEntries_of_refused {before : List String} {sql : String} {e : Error} {s : Server}
    (haccepted : ∀ entry ∈ before, ∃ status, entryStatus s entry = .ok status)
    (hrefused : entryStatus s sql = .error e) (rest : List String) (h : Handle) :
    executeEntries (before ++ sql :: rest) (h, s) =
      .error e (h, s.recordAll (before ++ [sql]) h.settings) := by
  induction before generalizing s with
  | nil =>
    simp only [List.nil_append]
    rw [executeEntries_cons, hrefused, ← Server.recordAll_cons, Server.recordAll_nil]
  | cons first before ih =>
    obtain ⟨⟨status, hstatus⟩, hbefore⟩ := List.forall_mem_cons.mp haccepted
    rw [List.cons_append, executeEntries_cons, hstatus]
    have hrun := ih (s := s.record first h.settings) hbefore hrefused
    simp only [run_bind_error hrun, Server.recordAll_cons, List.cons_append]

/-- Either all entries of a batch are accepted, or one is the first that is refused. -/
theorem accepted_or_refused (s : Server) (sqls : List String) :
    (∃ statuses, List.Forall₂ (fun sql status => entryStatus s sql = .ok status) sqls statuses) ∨
      ∃ before sql rest e, sqls = before ++ sql :: rest ∧
        (∀ entry ∈ before, ∃ status, entryStatus s entry = .ok status) ∧
          entryStatus s sql = .error e := by
  induction sqls with
  | nil => exact .inl ⟨[], .nil⟩
  | cons first sqls ih =>
    cases hfirst : entryStatus s first with
    | error e => exact .inr ⟨[], first, sqls, e, rfl, nofun, hfirst⟩
    | ok status =>
      obtain ⟨statuses, hall⟩ | ⟨before, sql, rest, e, rfl, hbefore, hsql⟩ := ih
      · exact .inl ⟨status :: statuses, .cons hfirst hall⟩
      · exact .inr ⟨first :: before, sql, rest, e, rfl,
          List.forall_mem_cons.mpr ⟨⟨status, hfirst⟩, hbefore⟩, hsql⟩

/-- **A batch** writes down its entries up to the first that fails, and at least one if there is
one.  The rest is not run after a failure. -/
theorem leaves_executeEntries (sqls : List String) (h : Handle) (s : Server) :
    ∃ entered, entered <+: sqls ∧ (entered = [] → sqls = []) ∧
      leaves (executeEntries sqls (h, s)) = (h, s.recordAll entered h.settings) := by
  obtain ⟨statuses, hall⟩ | ⟨before, sql, rest, e, rfl, hbefore, hsql⟩ :=
    accepted_or_refused s sqls
  · rw [executeEntries_of_accepted hall]
    exact ⟨sqls, List.prefix_rfl, id, rfl⟩
  · rw [executeEntries_of_refused hbefore hsql]
    exact ⟨before ++ [sql], ⟨rest, by simp⟩, by simp, rfl⟩

/-- **A batch** writes down its entries up to the first that fails, and at least one if there is
one. -/
theorem leaves_executeBatch (hlive : h.isReleased = false) (sqls : List String) (s : Server) :
    ∃ entered, entered <+: sqls ∧ (entered = [] → sqls = []) ∧
      leaves (executeBatch sqls (h, s)) = (h, s.recordAll entered h.settings) := by
  rw [executeBatch, run_bind_ok (ensureLive_of_live hlive s)]
  exact leaves_executeEntries sqls h s

theorem requested_executeBatch (sqls : List String) (state : Handle × Server) :
    Requested state (leaves (executeBatch sqls state)) := by
  obtain ⟨h, s⟩ := state
  cases hreleased : h.isReleased with
  | true =>
    rw [executeBatch, run_bind_error (ensureLive_of_released hreleased s)]
    exact .refl _
  | false =>
    obtain ⟨entered, -, -, hleaves⟩ := leaves_executeBatch hreleased sqls s
    rw [hleaves]
    exact ⟨⟨_, rfl⟩, ⟨_, _, _, _, rfl⟩⟩

/-! ## Serial keys -/

/-- A question changes nothing. -/
theorem leaves_serial (choice : SerialChoice) (state : Handle × Server) :
    leaves (serial choice state) = state := by
  obtain ⟨h, s⟩ := state
  cases hreleased : h.isReleased with
  | true => rw [serial, run_bind_error (ensureLive_of_released hreleased s), leaves_error]
  | false =>
    rw [serial, run_bind_ok (ensureLive_of_live hreleased s)]
    rfl

theorem requested_serial (choice : SerialChoice) (state : Handle × Server) :
    Requested state (leaves (serial choice state)) := by
  rw [leaves_serial]
  exact .refl state

/-! ## Preparing -/

theorem prepare_of_released (hreleased : h.isReleased = true) (sql : String) (s : Server) :
    prepare sql (h, s) = .error (.refused .released) (h, s) := by
  rw [prepare, run_bind_error (ensureLive_of_released hreleased s)]

/-- Preparing only asks the server for the parameters; nothing is written down. -/
theorem prepare_of_live (hlive : h.isReleased = false) (sql : String) (s : Server) :
    prepare sql (h, s) =
      match s.script? sql with
      | .error e => .error e (h, s)
      | .ok script => .ok script.parameters ({ h with prepared := some sql }, s) := by
  rw [prepare, run_bind_ok (ensureLive_of_live hlive s), run_bind_get]
  cases s.script? sql <;> rfl

/-- Preparing leaves the server alone, and the handle but for its SQL text. -/
theorem leaves_prepare (sql : String) (h : Handle) (s : Server) :
    ∃ prepared, leaves (prepare sql (h, s)) = ({ h with prepared }, s) := by
  by_cases hreleased : h.isReleased = true
  · rw [prepare_of_released hreleased]
    exact ⟨h.prepared, rfl⟩
  · rw [prepare_of_live (Bool.eq_false_iff.mpr hreleased)]
    cases s.script? sql with
    | error e => exact ⟨h.prepared, rfl⟩
    | ok script => exact ⟨some sql, rfl⟩

end Handle
end SqlClient.Scripted
