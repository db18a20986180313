import SqlClient.Proofs.FailedExecution
import SqlClient.Proofs.StatementOperations

/-! # The current result set after a failed execution

An execution closes the cursor of the one before it as its first step, so a failure never leaves
an earlier result set current.  A direct execution opens its own cursor as its last step
(`idle_of_execute_error`).  An execution with arguments has one step more: it opens the cursor and
then writes outputs back.  When an output cannot be read, the result set of the failed execution
stays current, and this is the only failure that leaves one
(`idle_of_execution_error_iff`).

`Idle` says what a caller sees of a statement without a result set.
-/
namespace SqlClient

open Scripted

namespace Parameters

variable {args : Arguments} {options : Options} {h : Handle} {server : Server}
  {ps ps' : Parameters} {rows : ResultSet}

/-- **The server answers with a result set** that a cursor can be opened over. -/
def Opens (args : Arguments) (options : Options) (h : Handle) (server : Server)
    (ps : Parameters) (rows : ResultSet) : Prop :=
  ∃ ps' count, exchange args (h.given options) server ps = .ok (.query rows) ps' ∧
    (Execution.query rows).count options = .ok count

/-- A handle that has answered was not released. -/
theorem live_of_exchange {execution : Execution}
    (hexchange : exchange args h server ps = .ok execution ps') : h.isReleased = false := by
  obtain ⟨bound, bindings, -, hserve, -⟩ := exchange_eq_ok hexchange
  obtain ⟨outputs, hreply, -⟩ := Handle.serve_eq_ok_iff.mp hserve
  obtain ⟨script, inputs, haccept, -⟩ := Handle.reply_eq_ok_iff.mp hreply
  exact (Handle.accept_eq_ok_iff.mp haccept).1

/-- There is one answer at most. -/
theorem count_of_opens {execution : Execution} (hopens : Opens args options h server ps rows)
    (hexchange : exchange args (h.given options) server ps = .ok execution ps') :
    execution = .query rows ∧ ∃ count, execution.count options = .ok count := by
  obtain ⟨ps'', count, hanswer, hcount⟩ := hopens
  obtain ⟨rfl, -⟩ := EStateM.Result.ok.inj (hanswer.symm.trans hexchange)
  exact ⟨rfl, count, hcount⟩

end Parameters

namespace Statement

variable {args args' : Arguments} {s s' : Statement} {w w' : ClientWorld} {e : Error} {h : Handle}
  {ps : Parameters} {count : Int} {execution : Execution}

/-! ## Statements without a result set -/

/-- **No result set is current**, as far as a caller can see. -/
structure Idle (s : Statement) : Prop where
  isQuery : s.isQuery = false
  columns : s.columns = []
  rowNumber : s.rowNumber = 0
  fetch : ∀ (move : Seek) (w : ClientWorld), Statement.fetch move (s, w) = .error .noResultSet (s, w)

theorem idle_iff : s.Idle ↔ s.cursor = none := by
  constructor
  · intro hidle
    simpa [isQuery] using hidle.isQuery
  · intro hnone
    refine ⟨?_, ?_, ?_, fun move w => ?_⟩
    · simp [isQuery, hnone]
    · simp [columns, hnone]
    · simp [rowNumber, hnone]
    · simp [Statement.fetch, onCursor, hnone]

/-! ## Taking a result -/

/-- A cursor is opened over the result set that it was given. -/
theorem rows_openCursor {options : Options} {rows : ResultSet} {c : Cursor ResultSet}
    (hopen : openCursor options rows w = .ok c w') : c.rows = rows := by
  rw [openCursor] at hopen
  cases hcursor : Cursor.openOn rows w with
  | error e w₁ =>
    rw [hcursor] at hopen
    cases hopen
  | ok c₁ w₁ =>
    have hrows : c₁.rows = rows := by rw [(Cursor.openOn_eq_ok hcursor).2.1]
    rw [hcursor] at hopen
    cases hsize : options.fetchSize with
    | none =>
      simp only [hsize] at hopen
      cases hopen
      exact hrows
    | some size =>
      simp only [hsize, Cursor.setFetchSize, Cursor.onServer] at hopen
      cases hclosed : c₁.rows.isClosed with
      | false =>
        rw [setFetchSize_of_open hclosed] at hopen
        cases hopen
        exact hrows
      | true =>
        rw [setFetchSize_of_closed hclosed] at hopen
        cases hopen

/-- A result that cannot be taken leaves the statement as it was. -/
theorem takeResult_error (htake : takeResult execution (s, w) = .error e (s', w')) : s' = s := by
  cases execution with
  | update rowsAffected => cases htake
  | query rows =>
    simp only [takeResult] at htake
    cases hopen : openCursor s.options rows w <;> simp only [hopen] at htake <;> cases htake
    rfl

/-- A result set that is taken is current from then on. -/
theorem takeResult_ok (htake : takeResult execution (s, w) = .ok count (s', w'))
    (hnone : s.cursor = none) : s'.cursor.map (·.rows) = execution.rows? := by
  cases execution with
  | update rowsAffected =>
    cases htake
    simp [hnone, Execution.rows?]
  | query rows =>
    simp only [takeResult] at htake
    cases hopen : openCursor s.options rows w with
    | error e w₁ =>
      simp only [hopen] at htake
      cases htake
    | ok c w₁ =>
      simp only [hopen] at htake
      cases htake
      exact congrArg some (rows_openCursor hopen)

/-! ## Failures -/

/-- **A direct execution that fails leaves no result set.** -/
theorem idle_of_execute_error (hs : s.Sound) (hdirect : s.isPrepared = false) {sql : String}
    (failed : execute sql (s, w) = .error e (s', w')) : s'.Idle := by
  rw [idle_iff]
  cases hlink : s.link with
  | none =>
    rw [execute_of_closed hlink] at failed
    cases failed
    exact hs.closed hlink
  | some link =>
    obtain ⟨h, _ | ps⟩ := link
    · have hrefreshed := cursor_refresh s w
      rw [execute_of_direct hlink] at failed
      cases hrefresh : refresh (s, w) with
      | error e' state =>
        rw [hrefresh] at hrefreshed
        rw [run_bind_error hrefresh] at failed
        cases failed
        exact hrefreshed
      | ok _ state =>
        rw [hrefresh] at hrefreshed
        rw [run_bind_ok hrefresh] at failed
        have hexecuted := (supplied_execute sql state.1 state.2).cursor.trans hrefreshed
        cases hexecute : onHandle (Handle.execute sql) state with
        | error e' state' =>
          rw [hexecute] at hexecuted
          rw [run_bind_error hexecute] at failed
          cases failed
          exact hexecuted
        | ok execution state' =>
          rw [hexecute] at hexecuted
          rw [run_bind_ok hexecute] at failed
          rw [takeResult_error failed]
          exact hexecuted
    · cases hdirect.symm.trans (isPrepared_of_link hlink)

/-- **The current result set after the steps up to a result**: it is the one the server answered
with, and there is none when a step fails. -/
theorem cursor_perform (hlink : s.link = some ⟨h, some ps⟩) (args : Arguments) (w : ClientWorld) :
    match perform args (s, w) with
    | .ok _ (s', _) => ∃ execution ps' count,
        Parameters.exchange args (h.given s.options) w.server ps = .ok execution ps' ∧
        execution.count s.options = .ok count ∧ s'.cursor.map (·.rows) = execution.rows?
    | .error _ (s', _) =>
        s'.cursor = none ∧ ¬ ∃ rows, Parameters.Opens args s.options h w.server ps rows := by
  cases hrefused : h.isReleased && s.options.concernHandle with
  | true =>
    -- the old cursor is closed before the options are refused
    obtain ⟨w₁, -, hrefresh⟩ := refresh_eq hlink w
    rw [hrefused, if_pos rfl] at hrefresh
    rw [perform, run_bind_error hrefresh]
    refine ⟨rfl, ?_⟩
    rintro ⟨rows, ps', count, hexchange, -⟩
    have hlive : (h.given s.options).isReleased = false := Parameters.live_of_exchange hexchange
    simp [show h.isReleased = false from hlive] at hrefused
  | false =>
    obtain ⟨entries, h', w₁, -, -, -, hexchanged⟩ := exchange_eq hlink hrefused args w
    rw [perform_eq_bind]
    cases hexchange : Parameters.exchange args (h.given s.options) w.server ps with
    | error e ps' =>
      rw [hexchange] at hexchanged
      rw [run_bind_error hexchanged]
      refine ⟨rfl, ?_⟩
      rintro ⟨rows, ps'', count, hanswer, -⟩
      rw [hexchange] at hanswer
      cases hanswer
    | ok execution ps' =>
      rw [hexchange] at hexchanged
      rw [run_bind_ok hexchanged]
      obtain ⟨cursor, w₂, -, hcounted⟩ := takeResult_eq execution
        { s with link := some ⟨h', some ps'⟩, cursor := none } w₁
      cases htake : takeResult execution
        ({ s with link := some ⟨h', some ps'⟩, cursor := none }, w₁) with
      | error e state =>
        -- a new cursor is put in last, when nothing can fail any more
        rw [htake] at hcounted
        refine ⟨by rw [takeResult_error htake], ?_⟩
        rintro ⟨rows, hopens⟩
        obtain ⟨-, count, hcount⟩ := Parameters.count_of_opens hopens hexchange
        rw [hcount] at hcounted
        cases hcounted
      | ok count state =>
        rw [htake] at hcounted
        refine ⟨execution, ps', count, rfl, ?_, takeResult_ok htake rfl⟩
        cases hcount : execution.count s.options with
        | error e =>
          simp only [hcount] at hcounted
          cases hcounted
        | ok count' =>
          simp only [hcount] at hcounted
          cases hcounted
          rfl

/-- **An execution with arguments that fails leaves no result set, or its own**: one that the server
answered with and that could be opened, before an output could not be read. -/
theorem cursor_executeWith_error (hlink : s.link = some ⟨h, some ps⟩)
    (failed : executeWith (args, s, w) = .error e (args', s', w')) :
    (s'.cursor = none ↔ ¬ ∃ rows, Parameters.Opens args s.options h w.server ps rows) ∧
      ∀ c, s'.cursor = some c → Parameters.Opens args s.options h w.server ps c.rows ∧
        ∃ count ps', Parameters.perform args s.options h w.server ps = .ok count ps' ∧
          ps'.outputs = .error e := by
  have hcursor := cursor_perform hlink args w
  obtain ⟨-, hperform | ⟨count, hperform⟩⟩ := perform_of_executeWith_error hlink failed
  · rw [hperform] at hcursor
    obtain ⟨hnone, hopens⟩ := hcursor
    exact ⟨iff_of_true hnone hopens, by simp [hnone]⟩
  · rw [hperform] at hcursor
    obtain ⟨execution, ps', count', hexchange, hcount, hrows⟩ := hcursor
    have hperformed : Parameters.perform args s.options h w.server ps = .ok count' ps' := by
      have hlive : (h.given s.options).isReleased = false := Parameters.live_of_exchange hexchange
      simp [Parameters.perform, show h.isReleased = false from hlive, hexchange, hcount]
    have hopens (rows : ResultSet) (hquery : execution = .query rows) :
        Parameters.Opens args s.options h w.server ps rows := by
      subst hquery
      exact ⟨ps', count', hexchange, hcount⟩
    cases execution with
    | update rowsAffected =>
      have hnone : s'.cursor = none := by simpa [Execution.rows?] using hrows
      refine ⟨iff_of_true hnone ?_, by simp [hnone]⟩
      rintro ⟨rows, hrows⟩
      cases (Parameters.count_of_opens hrows hexchange).1
    | query rows =>
      obtain ⟨c, hc, rfl⟩ := Option.map_eq_some_iff.mp hrows
      refine ⟨iff_of_false (by simp [hc]) fun hnot => hnot ⟨c.rows, hopens c.rows rfl⟩, ?_⟩
      rintro c' hc'
      obtain rfl : c = c' := Option.some.inj (hc.symm.trans hc')
      exact ⟨hopens c.rows rfl, count', ps', hperformed,
        outputs_of_executeWith_error failed hlink hperformed⟩

/-- **The current result set after a failed execution**, of a statement in any state.  There is
none, whatever went wrong, unless the server answered an execution with arguments by a result set
that could be opened.  Then an output could not be read, and that result set is current. -/
theorem idle_of_execution_error_iff (hs : s.Sound) (w : ClientWorld) :
    (s.isPrepared = false → ∀ sql e s' w', execute sql (s, w) = .error e (s', w') → s'.Idle) ∧
    (s.isClosed = true → ∀ args e args' s' w',
      executeWith (args, s, w) = .error e (args', s', w') → s'.Idle) ∧
    ∀ h ps args e args' s' w', s.link = some ⟨h, some ps⟩ →
      executeWith (args, s, w) = .error e (args', s', w') →
      (s'.Idle ↔ ¬ ∃ rows, Parameters.Opens args s.options h w.server ps rows) ∧
      ∀ c, s'.cursor = some c → Parameters.Opens args s.options h w.server ps c.rows ∧
        ∃ count ps', Parameters.perform args s.options h w.server ps = .ok count ps' ∧
          ps'.outputs = .error e := by
  refine ⟨fun hdirect sql e s' w' failed => idle_of_execute_error hs hdirect failed, ?_, ?_⟩
  · intro hclosed args e args' s' w' failed
    have hlink : s.link = none := by simpa [isClosed] using hclosed
    rw [executeWith_of_closed hlink] at failed
    cases failed
    exact idle_iff.mpr (hs.closed hlink)
  · intro h ps args e args' s' w' hlink failed
    rw [idle_iff]
    exact cursor_executeWith_error hlink failed

/-- A statement with a current result set is executed again, with a text that cannot be bound to a
number. -/
theorem idle_of_execution_error_unbindable :
    let sql := "SELECT N FROM T WHERE N = ?"
    let server := Server.empty.register sql
      ⟨.query ⟨[.ofLength "N" SqlType.integer.code 10], [[.int 1]]⟩,
        [.ofLength SqlType.integer.code 10 .input], none⟩
    ∃ s w args args' e s' w' s'' w'', prepare Handle.new sql .empty (.new server) = .ok s w ∧
      executeWith (.positional [.int32 1], s, w) = .ok 1 (args, s', w') ∧ s'.isQuery = true ∧
      executeWith (.positional [.text "x"], s', w') = .error e (args', s'', w'') ∧ s''.Idle := by
  intro sql server
  have hruns : ∃ s w args args' e s' w' s'' w'' h ps e' ps',
      prepare Handle.new sql .empty (.new server) = .ok s w ∧
      executeWith (.positional [.int32 1], s, w) = .ok 1 (args, s', w') ∧ s'.isQuery = true ∧
      executeWith (.positional [.text "x"], s', w') = .error e (args', s'', w'') ∧
      s'.link = some ⟨h, some ps⟩ ∧
      Parameters.exchange (.positional [.text "x"]) (h.given s'.options) w'.server ps =
        .error e' ps' :=
    ⟨_, _, _, _, _, _, _, _, _, _, _, _, _, by cbv, by cbv, by cbv, by cbv, by cbv, by cbv⟩
  obtain ⟨s, w, args, args', e, s', w', s'', w'', h, ps, e', ps', hprepare, hfirst, hquery, hnext,
    hlink, hexchange⟩ := hruns
  have hs : s.Sound :=
    (made_prepare rfl sql .empty (.new server)).sound s (by rw [hprepare, result?_ok])
  have hs' : s'.Sound := by
    have hafter := hs.after (.executeWith (.positional [.int32 1])) w
    rwa [after, hfirst] at hafter
  refine ⟨s, w, args, args', e, s', w', s'', w'', hprepare, hfirst, hquery, hnext, ?_⟩
  apply ((idle_of_execution_error_iff hs' w').2.2 h ps _ e _ _ _ hlink hnext).1.mpr
  rintro ⟨rows, ps'', count, hanswer, -⟩
  rw [hexchange] at hanswer
  cases hanswer

/-- The first execution of a statement: the server answers with a result set and fills no output.
The execution fails, and a row can be fetched afterwards. -/
theorem current_after_execution_error :
    let sql := "SELECT N FROM T WHERE P(?)"
    let server := Server.empty.register sql
      ⟨.query ⟨[.ofLength "N" SqlType.integer.code 10], [[.int 1]]⟩,
        [.ofLength SqlType.integer.code 10 .output], none⟩
    ∃ s w args s' w', prepare Handle.new sql .empty (.new server) = .ok s w ∧
      executeWith (.positional [.null], s, w) = .error (.bufferTooSmall 4 0) (args, s', w') ∧
      s'.isQuery = true ∧
      ∃ row s'' w'', Statement.fetch .next (s', w') = .ok (some row) (s'', w'') :=
  ⟨_, _, _, _, _, by cbv, by cbv, by cbv, _, _, _, by cbv⟩

end Statement
end SqlClient
