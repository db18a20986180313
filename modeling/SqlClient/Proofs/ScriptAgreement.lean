import SqlClient.Proofs.ResultSetCounts
import SqlClient.Proofs.StatementExecution

/-! # What a statement looks at

Of its server a statement looks at the scripts and at nothing else: not at the books, not at the
settings of the last execution, and not at contents.  So an operation comes to the same on two
servers with the same scripts, and leaves the same handle, cursor or statement (`Concur`,
`World.Beside`).  This holds step by step, up to whole executions.
-/
namespace SqlClient

open Scripted

/-! ## Results that concur -/

/-- **Results that concur**: they say the same, and leave states that are related. -/
inductive Concur {ε σ τ α : Type} (R : σ → τ → Prop) :
    EStateM.Result ε σ α → EStateM.Result ε τ α → Prop
  | ok (a : α) {s : σ} {t : τ} (h : R s t) : Concur R (.ok a s) (.ok a t)
  | error (e : ε) {s : σ} {t : τ} (h : R s t) : Concur R (.error e s) (.error e t)

section Concur
variable {ε σ τ α β : Type} {R : σ → τ → Prop} {x : EStateM ε σ α} {y : EStateM ε τ α} {s : σ}
  {t : τ}

/-- Both succeed with the same, or both fail with the same. -/
theorem Concur.cases {r : EStateM.Result ε σ α} {r' : EStateM.Result ε τ α} (h : Concur R r r') :
    (∃ a s t, r = .ok a s ∧ r' = .ok a t ∧ R s t) ∨
      ∃ e s t, r = .error e s ∧ r' = .error e t ∧ R s t := by
  cases h with
  | ok a hstate => exact .inl ⟨a, _, _, rfl, rfl, hstate⟩
  | error e hstate => exact .inr ⟨e, _, _, rfl, rfl, hstate⟩

/-- **Steps that concur**, one after the other. -/
theorem Concur.bind {f : α → EStateM ε σ β} {g : α → EStateM ε τ β} (h : Concur R (x s) (y t))
    (hnext : ∀ a s' t', R s' t' → Concur R (f a s') (g a t')) :
    Concur R ((x >>= f) s) ((y >>= g) t) := by
  obtain ⟨a, s', t', hx, hy, hstate⟩ | ⟨e, s', t', hx, hy, hstate⟩ := h.cases
  · rw [run_bind_ok hx, run_bind_ok hy]
    exact hnext a s' t' hstate
  · rw [run_bind_error hx, run_bind_error hy]
    exact .error e hstate

/-- Two results that concur with a third concur. -/
theorem Concur.trans_symm {υ : Type} {S : σ → υ → Prop} {T : τ → υ → Prop}
    {r : EStateM.Result ε σ α} {r' : EStateM.Result ε τ α} {r'' : EStateM.Result ε υ α}
    (hstates : ∀ s t u, S s u → T t u → R s t) (h : Concur S r r'') (h' : Concur T r' r'') :
    Concur R r r' := by
  cases h with
  | ok a hs =>
    cases h' with
    | ok _ ht => exact .ok a (hstates _ _ _ hs ht)
  | error e hs =>
    cases h' with
    | error _ ht => exact .error e (hstates _ _ _ hs ht)

/-- The same is made of both. -/
theorem Concur.map (h : Concur R (x s) (y t)) (f : α → β) :
    Concur R ((x >>= fun a => Pure.pure (f a)) s) ((y >>= fun a => Pure.pure (f a)) t) :=
  h.bind fun a _ _ hstate => .ok (f a) hstate

end Concur

namespace Scripted

theorem Server.script?_congr {s s' : Server} (hscripts : s.scripts = s'.scripts) (sql : String) :
    s.script? sql = s'.script? sql := by
  rw [Server.script?, hscripts, ← Server.script?]

/-! ## Handles -/

namespace Handle

/-- The same handle on servers with the same scripts. -/
def Beside (x y : Handle × Server) : Prop := x.1 = y.1 ∧ x.2.scripts = y.2.scripts

variable {x y : Handle × Server}

theorem Beside.exists_eq (h : Beside x y) :
    ∃ handle s s', x = (handle, s) ∧ y = (handle, s') ∧ s.scripts = s'.scripts := by
  obtain ⟨handle, s⟩ := x
  obtain ⟨_, s'⟩ := y
  obtain ⟨rfl, hscripts⟩ := h
  exact ⟨handle, s, s', rfl, rfl, hscripts⟩

theorem concur_ensureLive (h : Beside x y) : Concur Beside (ensureLive x) (ensureLive y) := by
  obtain ⟨handle, s, s', rfl, rfl, hscripts⟩ := h.exists_eq
  cases hreleased : handle.isReleased with
  | true =>
    rw [ensureLive_of_released hreleased, ensureLive_of_released hreleased]
    exact .error _ ⟨rfl, hscripts⟩
  | false =>
    rw [ensureLive_of_live hreleased, ensureLive_of_live hreleased]
    exact .ok () ⟨rfl, hscripts⟩

theorem concur_enter (sql : String) (h : Beside x y) :
    Concur Beside (enter sql x) (enter sql y) := by
  obtain ⟨handle, s, s', rfl, rfl, hscripts⟩ := h.exists_eq
  rw [enter_eq, enter_eq, Server.script?_congr hscripts]
  cases s'.script? sql with
  | ok script => exact .ok script ⟨rfl, hscripts⟩
  | error e => exact .error e ⟨rfl, hscripts⟩

theorem concur_run (script : Script) (inputs : List Value) (h : Beside x y) :
    Concur Beside (run script inputs x) (run script inputs y) := by
  obtain ⟨handle, s, s', rfl, rfl, hscripts⟩ := h.exists_eq
  unfold run
  cases script.action with
  | fail code text => exact .error _ ⟨rfl, hscripts⟩
  | update rows => exact .ok _ ⟨rfl, hscripts⟩
  | query result => exact .ok _ ⟨rfl, hscripts⟩
  | call procedure =>
    simp only
    cases procedure inputs with
    | error e => exact .error e ⟨rfl, hscripts⟩
    | ok outputs => exact .ok _ ⟨rfl, hscripts⟩

theorem concur_execute (sql : String) (h : Beside x y) :
    Concur Beside (execute sql x) (execute sql y) := by
  refine (concur_ensureLive h).bind fun _ _ _ hlive => ?_
  refine (concur_enter sql hlive).bind fun script _ _ hentered => ?_
  exact (concur_run script [] hentered).map _

theorem concur_executeEntries (sqls : List String) (h : Beside x y) :
    Concur Beside (executeEntries sqls x) (executeEntries sqls y) := by
  induction sqls generalizing x y with
  | nil => exact .ok [] h
  | cons sql rest ih =>
    refine (concur_enter sql h).bind fun script _ _ hentered => ?_
    cases batchStatus sql script with
    | error e => exact .error e hentered
    | ok status => exact (ih hentered).map _

theorem concur_executeBatch (sqls : List String) (h : Beside x y) :
    Concur Beside (executeBatch sqls x) (executeBatch sqls y) :=
  (concur_ensureLive h).bind fun _ _ _ hlive => concur_executeEntries sqls hlive

theorem concur_serial (choice : SerialChoice) (h : Beside x y) :
    Concur Beside (serial choice x) (serial choice y) := by
  refine (concur_ensureLive h).bind fun _ live live' hlive => ?_
  rw [run_bind_get, run_bind_get, hlive.1]
  exact .ok _ hlive

theorem concur_applyOptions (options : Options) (h : Beside x y) :
    Concur Beside (applyOptions options x) (applyOptions options y) := by
  obtain ⟨handle, s, s', rfl, rfl, hscripts⟩ := h.exists_eq
  rw [applyOptions_eq, applyOptions_eq]
  split
  · exact .error _ ⟨rfl, hscripts⟩
  · exact .ok () ⟨rfl, hscripts⟩

theorem concur_prepare (sql : String) (h : Beside x y) :
    Concur Beside (prepare sql x) (prepare sql y) := by
  refine (concur_ensureLive h).bind fun _ live live' hlive => ?_
  rw [run_bind_get, run_bind_get, Server.script?_congr hlive.2]
  cases live'.2.script? sql with
  | error e => exact .error e hlive
  | ok script => exact .ok _ ⟨congrArg (fun h => { h with prepared := some sql }) hlive.1, hlive.2⟩

theorem concur_enterPrepared (bindings : List Binding) (h : Beside x y) :
    Concur Beside (enterPrepared bindings x) (enterPrepared bindings y) := by
  refine (concur_ensureLive h).bind fun _ live live' hlive => ?_
  rw [run_bind_get, run_bind_get, hlive.1]
  cases live'.1.prepared with
  | none => exact .error _ hlive
  | some sql =>
    refine (concur_enter sql hlive).bind fun script _ _ hentered => ?_
    by_cases hcount : bindings.length = script.parameters.length
    · rw [if_neg (not_not.mpr hcount)]
      cases inputsOf bindings with
      | error e => exact .error e hentered
      | ok inputs => exact .ok _ hentered
    · rw [if_pos hcount]
      exact .error _ hentered

/-- **A prepared execution**; the bindings receive the same. -/
theorem concur_executePrepared (bindings : List Binding) (h : Beside x y) :
    Concur (fun a b => a.1 = b.1 ∧ Beside a.2 b.2) (executePrepared (bindings, x))
      (executePrepared (bindings, y)) := by
  have hrun := (concur_enterPrepared bindings h).bind
    fun entered _ _ hentered => concur_run entered.1 entered.2 hentered
  obtain ⟨answer, s, s', hx, hy, hstate⟩ | ⟨e, s, s', hx, hy, hstate⟩ := hrun.cases
  · simp only [executePrepared, hx, hy]
    cases fillOutputs bindings answer.2 with
    | ok _ bindings' => exact .ok _ ⟨rfl, hstate⟩
    | error e bindings' => exact .error e ⟨rfl, hstate⟩
  · simp only [executePrepared, hx, hy]
    exact .error e ⟨rfl, hstate⟩

theorem beside_release (h : Beside x y) : Beside (release x) (release y) := by
  obtain ⟨handle, s, s', rfl, rfl, hscripts⟩ := h.exists_eq
  simp only [release]
  split <;> exact ⟨rfl, hscripts⟩

end Handle

end Scripted

/-! ## Cursors -/

/-- The same thing in worlds with the same scripts. -/
def World.Beside {β : Type} (x y : β × ClientWorld) : Prop :=
  x.1 = y.1 ∧ x.2.server.scripts = y.2.server.scripts

theorem World.Beside.exists_eq {β : Type} {x y : β × ClientWorld} (h : World.Beside x y) :
    ∃ b v w, x = (b, v) ∧ y = (b, w) ∧ v.server.scripts = w.server.scripts := by
  obtain ⟨b, v⟩ := x
  obtain ⟨_, w⟩ := y
  obtain ⟨rfl, hscripts⟩ := h
  exact ⟨b, v, w, rfl, rfl, hscripts⟩

open World (Beside)

namespace Cursor

variable {x y : Cursor ResultSet × ClientWorld}

theorem concur_seek (move : Seek) (h : Beside x y) :
    Concur Beside (seek move x) (seek move y) := by
  obtain ⟨c, v, w, rfl, rfl, hscripts⟩ := h.exists_eq
  cases hclosed : c.rows.isClosed with
  | true =>
    rw [seek_of_closed hclosed, seek_of_closed hclosed]
    exact .error _ ⟨rfl, hscripts⟩
  | false =>
    rw [seek_of_open hclosed, seek_of_open hclosed]
    split
    · exact .error _ ⟨rfl, hscripts⟩
    · exact .ok _ ⟨rfl, hscripts⟩

theorem concur_setFetchSize (size : Nat) (h : Beside x y) :
    Concur Beside (setFetchSize size x) (setFetchSize size y) := by
  obtain ⟨c, v, w, rfl, rfl, hscripts⟩ := h.exists_eq
  cases hclosed : c.rows.isClosed with
  | true =>
    simp only [setFetchSize, onServer, Statement.setFetchSize_of_closed hclosed]
    exact .error _ ⟨rfl, hscripts⟩
  | false =>
    simp only [setFetchSize, onServer, Statement.setFetchSize_of_open hclosed]
    exact .ok () ⟨rfl, hscripts⟩

/-- Closing a result set looks at it alone. -/
theorem beside_closeRows (rows : ResultSet) {s s' : Server} (hscripts : s.scripts = s'.scripts) :
    (RemoteRows.close (rows, s)).1 = (RemoteRows.close (rows, s')).1 ∧
      (RemoteRows.close (rows, s)).2.scripts = (RemoteRows.close (rows, s')).2.scripts := by
  show (ResultSet.close (rows, s)).1 = (ResultSet.close (rows, s')).1 ∧
    (ResultSet.close (rows, s)).2.scripts = (ResultSet.close (rows, s')).2.scripts
  simp only [ResultSet.close]
  split <;> exact ⟨rfl, hscripts⟩

theorem beside_close (h : Beside x y) : Beside (close x) (close y) := by
  obtain ⟨c, v, w, rfl, rfl, hscripts⟩ := h.exists_eq
  obtain ⟨hrows, hserver⟩ := beside_closeRows c.rows hscripts
  simp only [close]
  split
  · exact ⟨rfl, hscripts⟩
  · exact ⟨by simp only [hrows], hserver⟩

end Cursor

/-! ## Statements -/

namespace Statement

variable {x y : Statement × ClientWorld}

theorem beside_closeCursor (h : Beside x y) : Beside (closeCursor x) (closeCursor y) := by
  obtain ⟨s, v, w, rfl, rfl, hscripts⟩ := h.exists_eq
  simp only [closeCursor]
  cases s.cursor with
  | none => exact ⟨rfl, hscripts⟩
  | some c => exact ⟨rfl, (Cursor.beside_close (x := (c, v)) (y := (c, w)) ⟨rfl, hscripts⟩).2⟩

/-- An operation of the server that looks at the handle and the scripts alone. -/
theorem concur_onHandle {α : Type} {op : EStateM Error (Handle × Server) α}
    (hop : ∀ a b, Handle.Beside a b → Concur Handle.Beside (op a) (op b)) (h : Beside x y) :
    Concur Beside (onHandle op x) (onHandle op y) := by
  obtain ⟨s, v, w, rfl, rfl, hscripts⟩ := h.exists_eq
  cases hlink : s.link with
  | none =>
    simp only [onHandle, hlink]
    exact .error _ ⟨rfl, hscripts⟩
  | some link =>
    have hhandle := hop (link.handle, v.server) (link.handle, w.server) ⟨rfl, hscripts⟩
    obtain ⟨a, ⟨handle, server⟩, ⟨_, server'⟩, hx, hy, rfl, hstate⟩ |
      ⟨e, ⟨handle, server⟩, ⟨_, server'⟩, hx, hy, rfl, hstate⟩ := hhandle.cases
    · simp only [onHandle, hlink, hx, hy]
      exact .ok a ⟨rfl, hstate⟩
    · simp only [onHandle, hlink, hx, hy]
      exact .error e ⟨rfl, hstate⟩

theorem concur_openCursor (options : Options) (rows : ResultSet) {v w : ClientWorld}
    (hscripts : v.server.scripts = w.server.scripts) :
    Concur (fun v w => v.server.scripts = w.server.scripts) (openCursor options rows v)
      (openCursor options rows w) := by
  have hback := (Cursor.beside_closeRows rows hscripts).2
  rcases hcolumns : Column.ofDescriptions rows.columns with e | (_ | ⟨column, columns⟩)
  · simp only [openCursor, Cursor.openOn_eq, hcolumns]
    exact .error e hback
  · simp only [openCursor, Cursor.openOn_eq, hcolumns]
    exact .error _ hback
  · cases hsize : options.fetchSize with
    | none =>
      simp only [openCursor, Cursor.openOn_eq, hcolumns, hsize]
      exact .ok _ hscripts
    | some size =>
      have hset := Cursor.concur_setFetchSize size
        (x := (⟨rows, column :: columns, .new (Cursor.widest (column :: columns)), .unpositioned,
          false⟩, v)) (y := (_, w)) ⟨rfl, hscripts⟩
      obtain ⟨_, ⟨c, v'⟩, ⟨_, w'⟩, hx, hy, rfl, hstate⟩ |
        ⟨e, ⟨c, v'⟩, ⟨_, w'⟩, hx, hy, rfl, hstate⟩ := hset.cases
      · simp only [openCursor, Cursor.openOn_eq, hcolumns, hsize, hx, hy]
        exact .ok c hstate
      · simp only [openCursor, Cursor.openOn_eq, hcolumns, hsize, hx, hy]
        exact .error e (Cursor.beside_close (x := (c, v')) (y := (c, w')) ⟨rfl, hstate⟩).2

theorem concur_takeResult (execution : Execution) (h : Beside x y) :
    Concur Beside (takeResult execution x) (takeResult execution y) := by
  obtain ⟨s, v, w, rfl, rfl, hscripts⟩ := h.exists_eq
  cases execution with
  | update rowsAffected => exact .ok _ ⟨rfl, hscripts⟩
  | query rows =>
    obtain ⟨c, v', w', hx, hy, hstate⟩ | ⟨e, v', w', hx, hy, hstate⟩ :=
      (concur_openCursor s.options rows hscripts).cases
    · simp only [takeResult, hx, hy]
      exact .ok _ ⟨rfl, hstate⟩
    · simp only [takeResult, hx, hy]
      exact .error e ⟨rfl, hstate⟩

theorem concur_refresh (h : Beside x y) : Concur Beside (refresh x) (refresh y) := by
  have hclosed := beside_closeCursor h
  rw [refresh, run_bind_modify, run_bind_get, run_bind_modify, run_bind_get, hclosed.1]
  exact concur_onHandle (fun _ _ => Handle.concur_applyOptions _) hclosed

/-- **A direct execution.** -/
theorem concur_execute (sql : String) (h : Beside x y) :
    Concur Beside (execute sql x) (execute sql y) := by
  obtain ⟨s, v, w, rfl, rfl, hscripts⟩ := h.exists_eq
  cases hlink : s.link with
  | none =>
    rw [execute_of_closed hlink, execute_of_closed hlink]
    exact .error _ ⟨rfl, hscripts⟩
  | some link =>
    obtain ⟨handle, _ | ps⟩ := link
    · rw [execute_of_direct hlink, execute_of_direct hlink]
      have hrefresh := concur_refresh (x := (s, v)) (y := (s, w)) ⟨rfl, hscripts⟩
      refine hrefresh.bind fun _ _ _ hrefreshed => ?_
      refine (concur_onHandle (fun _ _ => Handle.concur_execute sql) hrefreshed).bind ?_
      exact fun execution _ _ hexecuted => concur_takeResult execution hexecuted
    · rw [execute_of_prepared hlink, execute_of_prepared hlink]
      exact .error _ ⟨rfl, hscripts⟩

theorem concur_bind (args : Arguments) (h : Beside x y) :
    Concur Beside (bind args x) (bind args y) := by
  obtain ⟨⟨_ | ⟨handle, _ | ps⟩, cursor, options⟩, v, w, rfl, rfl, hscripts⟩ := h.exists_eq
  · exact .error _ ⟨rfl, hscripts⟩
  · exact .error _ ⟨rfl, hscripts⟩
  · simp only [bind]
    cases Parameters.bind args ps with
    | ok _ ps' => exact .ok () ⟨rfl, hscripts⟩
    | error e ps' => exact .error e ⟨rfl, hscripts⟩

theorem concur_executeBound (h : Beside x y) : Concur Beside (executeBound x) (executeBound y) := by
  obtain ⟨⟨_ | ⟨handle, _ | ps⟩, cursor, options⟩, v, w, rfl, rfl, hscripts⟩ := h.exists_eq
  · exact .error _ ⟨rfl, hscripts⟩
  · exact .error _ ⟨rfl, hscripts⟩
  · have hhandle := Handle.concur_executePrepared ps.bindings
      (x := (handle, v.server)) (y := (handle, w.server)) ⟨rfl, hscripts⟩
    obtain ⟨execution, ⟨bindings, handle', server⟩, ⟨_, _, server'⟩, hx, hy, rfl, rfl, hstate⟩ |
      ⟨e, ⟨bindings, handle', server⟩, ⟨_, _, server'⟩, hx, hy, rfl, rfl, hstate⟩ := hhandle.cases
    · simp only [executeBound, hx, hy]
      exact .ok execution ⟨rfl, hstate⟩
    · simp only [executeBound, hx, hy]
      exact .error e ⟨rfl, hstate⟩

/-- **An execution with arguments**, up to its result. -/
theorem concur_perform (args : Arguments) (h : Beside x y) :
    Concur Beside (perform args x) (perform args y) := by
  refine (concur_refresh h).bind fun _ _ _ hrefreshed => ?_
  refine (concur_bind args hrefreshed).bind fun _ _ _ hbound => ?_
  refine (concur_executeBound hbound).bind fun execution _ _ hexecuted => ?_
  exact concur_takeResult execution hexecuted

theorem concur_batch (sqls : List String) (h : Beside x y) :
    Concur Beside (batch sqls x) (batch sqls y) := by
  rw [batch, run_bind_modify, run_bind_modify]
  exact concur_onHandle (fun _ _ => Handle.concur_executeBatch sqls) (beside_closeCursor h)

theorem concur_serial (choice : SerialChoice) (h : Beside x y) :
    Concur Beside (serial choice x) (serial choice y) :=
  concur_onHandle (fun _ _ => Handle.concur_serial choice) h

theorem beside_close (h : Beside x y) : Beside (close x) (close y) := by
  obtain ⟨hsame, hscripts⟩ := beside_closeCursor h
  cases hlink : (closeCursor y).1.link with
  | none =>
    simp only [close, hsame, hlink]
    exact ⟨rfl, hscripts⟩
  | some link =>
    simp only [close, hsame, hlink]
    exact ⟨rfl, (Handle.beside_release (x := (link.handle, (closeCursor x).2.server))
      (y := (link.handle, (closeCursor y).2.server)) ⟨rfl, hscripts⟩).2⟩

/-! ## New statements -/

theorem concur_setUp {α : Type} {op : EStateM Error (Handle × Server) α}
    (hop : ∀ a b, Handle.Beside a b → Concur Handle.Beside (op a) (op b)) (handle : Handle)
    {v w : ClientWorld} (hscripts : v.server.scripts = w.server.scripts) :
    Concur (fun v w => v.server.scripts = w.server.scripts) (setUp handle op v)
      (setUp handle op w) := by
  obtain ⟨a, ⟨handle', server⟩, ⟨_, server'⟩, hx, hy, rfl, hstate⟩ |
    ⟨e, ⟨handle', server⟩, ⟨_, server'⟩, hx, hy, rfl, hstate⟩ :=
      (hop (handle, v.server) (handle, w.server) ⟨rfl, hscripts⟩).cases
  · simp only [setUp, hx, hy]
    exact .ok _ hstate
  · simp only [setUp, hx, hy]
    exact .error e
      (Handle.beside_release (x := (handle', server)) (y := (handle', server')) ⟨rfl, hstate⟩).2

theorem concur_new (handle : Handle) (options : Options) {v w : ClientWorld}
    (hscripts : v.server.scripts = w.server.scripts) :
    Concur (fun v w => v.server.scripts = w.server.scripts) (new handle options v)
      (new handle options w) :=
  (concur_setUp (fun _ _ => Handle.concur_applyOptions options) handle hscripts).map _

theorem concur_prepare (handle : Handle) (sql : String) (options : Options) {v w : ClientWorld}
    (hscripts : v.server.scripts = w.server.scripts) :
    Concur (fun v w => v.server.scripts = w.server.scripts) (prepare handle sql options v)
      (prepare handle sql options w) := by
  refine (concur_setUp (fun a b hab => ?_) handle hscripts).map _
  refine (Handle.concur_applyOptions options hab).bind fun _ _ _ happlied => ?_
  refine (Handle.concur_prepare sql happlied).bind fun ds _ _ hprepared => ?_
  cases Parameters.ofDescriptions .unicode sql ds with
  | ok ps => exact .ok ps hprepared
  | error e => exact .error e hprepared

end Statement
end SqlClient
