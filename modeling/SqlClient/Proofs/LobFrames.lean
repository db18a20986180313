import SqlClient.Proofs.LobOwnership
import SqlClient.Proofs.StatementOperations

/-! # What leaves large objects alone

Nothing that a statement does on its handle concerns large objects (`World.lobState`), and the
result sets it comes to show contents that its scripts name.  Both are followed through one step
after the other (`Statement.Aside`), up to a whole execution with arguments but for writing back
(`Statement.aside_perform`).
-/
namespace SqlClient

open Scripted

namespace Scripted

/-! ## Contents that are stored -/

/-- A large object of a cell has one of the first `limit` contents. -/
def Cell.Stored (limit : Nat) : Cell → Prop
  | .lob content => content < limit
  | _ => True

theorem Cell.Stored.mono {cell : Cell} {limit limit' : Nat} (h : cell.Stored limit)
    (hle : limit ≤ limit') : cell.Stored limit' := by
  cases cell with
  | lob content => exact Nat.lt_of_lt_of_le h hle
  | null | int | double | text | bytes => trivial

/-- So have all that a result set shows. -/
def ResultSet.Stored (limit : Nat) (rows : ResultSet) : Prop :=
  ∀ row ∈ rows.rows, ∀ cell ∈ row, cell.Stored limit

/-- So have all that a script answers with. -/
def Script.Stored (limit : Nat) (script : Script) : Prop :=
  ∀ result, script.action = .query result → ∀ row ∈ result.rows, ∀ cell ∈ row, cell.Stored limit

/-- So have all that a server answers with. -/
def Server.Stored (limit : Nat) (s : Server) : Prop :=
  ∀ sql script, (sql, script) ∈ s.scripts → script.Stored limit

/-- So has all that an execution came to. -/
def Execution.Stored (limit : Nat) (execution : Execution) : Prop :=
  ∀ rows, execution = .query rows → rows.Stored limit

variable {limit : Nat} {s s' : Server} {script : Script} {sql : String}

theorem Server.Stored.script? (h : s.Stored limit) (hscript : s.script? sql = .ok script) :
    script.Stored limit := by
  rw [Server.script?] at hscript
  cases hlookup : s.scripts.lookup sql with
  | none =>
    rw [hlookup] at hscript
    cases hscript
  | some found =>
    rw [hlookup] at hscript
    cases hscript
    obtain ⟨before, after, hentries, -⟩ := List.lookup_eq_some_iff.mp hlookup
    exact h sql script (by simp [hentries])

theorem Server.stored_of_lobState_eq (hstate : s'.lobState = s.lobState) (h : s.Stored limit) :
    s'.Stored limit := by
  have hscripts : s'.scripts = s.scripts := congrArg (·.2.2) hstate
  rw [Server.Stored, hscripts]
  exact h

/-! ## On a handle -/

namespace Handle

variable {bindings bindings' : List Binding} {h h' : Handle} {execution : Execution}

/-- A step on a handle that does not concern large objects. -/
def Aside (before after : Handle × Server) : Prop := after.2.lobState = before.2.lobState

theorem Aside.trans {x y z : Handle × Server} (hfirst : Aside x y) (hnext : Aside y z) :
    Aside x z :=
  Eq.trans hnext hfirst

theorem Requested.aside {before after : Handle × Server} (hrequested : Requested before after) :
    Aside before after := by
  obtain ⟨_, _, _, _, heq⟩ := hrequested.server
  rw [Aside, heq]
  rfl

theorem aside_applyOptions (options : Options) (state : Handle × Server) :
    Aside state (leaves (applyOptions options state)) := by
  obtain ⟨h, s⟩ := state
  rw [applyOptions_eq]
  split <;> rfl

theorem aside_prepare (sql : String) (state : Handle × Server) :
    Aside state (leaves (prepare sql state)) := by
  obtain ⟨h, s⟩ := state
  obtain ⟨_, hleaves⟩ := leaves_prepare sql h s
  rw [hleaves]
  rfl

theorem aside_release (state : Handle × Server) : Aside state (release state) := by
  obtain ⟨h, s⟩ := state
  simp only [release]
  split <;> rfl

/-- **What a script answers shows contents that the script names.** -/
theorem stored_answer {settings : Settings} {inputs outputs : List Value}
    (hscript : script.Stored limit)
    (hanswer : script.answer settings inputs = .ok (execution, outputs)) :
    execution.Stored limit := by
  rintro rows rfl
  obtain ⟨result, haction, rfl, -⟩ := Script.query_of_answer hanswer
  intro row hrow cell hcell
  refine hscript result haction row ?_ cell hcell
  simp only [resultSet, ResultSet.new] at hrow
  split at hrow
  · exact List.mem_of_mem_take hrow
  · exact hrow

theorem stored_execute {state state' : Handle × Server} (hs : state.2.Stored limit)
    (hexecute : execute sql state = .ok execution state') : execution.Stored limit := by
  obtain ⟨-, script, outputs, hscript, hanswer⟩ := execute_eq_ok hexecute
  exact stored_answer (hs.script? hscript) hanswer

theorem stored_serve (hs : s.Stored limit)
    (hserve : serve h s bindings = .ok execution bindings') : execution.Stored limit := by
  obtain ⟨outputs, hreply, -⟩ := serve_eq_ok_iff.mp hserve
  obtain ⟨script, inputs, haccept, hanswer⟩ := reply_eq_ok_iff.mp hreply
  obtain ⟨-, ⟨sql, -, hscript⟩, -⟩ := accept_eq_ok_iff.mp haccept
  exact stored_answer (hs.script? hscript) hanswer

theorem stored_executePrepared {state' : List Binding × Handle × Server} (hs : s.Stored limit)
    (hexecute : executePrepared (bindings, h, s) = .ok execution state') :
    execution.Stored limit :=
  stored_serve hs (executePrepared_eq_ok hexecute)

end Handle
end Scripted

theorem World.Closes.lobState {w w' : ClientWorld} (h : w.Closes w') :
    w'.lobState = w.lobState := by
  obtain ⟨_, rfl⟩ := h
  rfl

namespace Statement

/-! ## On a statement -/

/-- The result set of the cursor shows contents that are stored. -/
def Stored (limit : Nat) (s : Statement) : Prop :=
  ∀ c, s.cursor = some c → c.rows.Stored limit

/-- **A step that does not concern large objects**; a result set that it comes to shows contents
that are stored if the scripts name no others. -/
structure Aside (x y : Statement × ClientWorld) : Prop where
  lobState : y.2.lobState = x.2.lobState
  stored : ∀ limit, x.2.server.Stored limit → x.1.Stored limit → y.1.Stored limit

variable {x y z : Statement × ClientWorld} {s : Statement} {w w' : ClientWorld}

theorem Aside.refl (x : Statement × ClientWorld) : Aside x x := ⟨rfl, fun _ _ h => h⟩

theorem server_lobState_eq (h : w'.lobState = w.lobState) :
    w'.server.lobState = w.server.lobState :=
  congrArg (·.2) h

theorem Aside.trans (hfirst : Aside x y) (hnext : Aside y z) : Aside x z where
  lobState := hnext.lobState.trans hfirst.lobState
  stored := fun limit hserver hs =>
    hnext.stored limit (Server.stored_of_lobState_eq (server_lobState_eq hfirst.lobState) hserver)
      (hfirst.stored limit hserver hs)

/-- A step that keeps the cursor. -/
theorem Aside.of_cursor (hstate : y.2.lobState = x.2.lobState) (hcursor : y.1.cursor = x.1.cursor) :
    Aside x y :=
  ⟨hstate, fun _ _ hs c hc => hs c (hcursor ▸ hc)⟩

theorem aside_closeCursor (x : Statement × ClientWorld) : Aside x (closeCursor x) := by
  obtain ⟨w', hcloses, hclose⟩ := closeCursor_eq x.1 x.2
  rw [hclose]
  exact ⟨hcloses.lobState, fun _ _ _ _ hc => nomatch hc⟩

theorem aside_onHandle {α : Type} {op : EStateM Error (Handle × Server) α}
    (hop : ∀ state, Handle.Aside state (leaves (op state))) (x : Statement × ClientWorld) :
    Aside x (leaves (onHandle op x)) := by
  obtain ⟨s, w⟩ := x
  cases hlink : s.link with
  | none =>
    rw [onHandle_of_closed hlink]
    exact .refl _
  | some link =>
    rw [leaves_onHandle hlink]
    exact .of_cursor (congrArg (w.handles, ·) (hop (link.handle, w.server))) rfl

theorem aside_refresh (x : Statement × ClientWorld) : Aside x (leaves (refresh x)) := by
  rw [refresh, run_bind_modify, run_bind_get]
  exact (aside_closeCursor x).trans (aside_onHandle (Handle.aside_applyOptions _) _)

theorem aside_bind (args : Arguments) (x : Statement × ClientWorld) :
    Aside x (leaves (bind args x)) := by
  obtain ⟨⟨_ | ⟨h, _ | ps⟩, cursor, options⟩, w⟩ := x
  · exact .refl _
  · exact .refl _
  · simp only [bind]
    cases Parameters.bind args ps <;> exact .of_cursor rfl rfl

theorem aside_executeBound (x : Statement × ClientWorld) :
    Aside x (leaves (executeBound x)) := by
  obtain ⟨⟨_ | ⟨h, _ | ps⟩, cursor, options⟩, w⟩ := x
  · exact .refl _
  · exact .refl _
  · have hhandle := (Handle.requested_executePrepared ps.bindings (h, w.server)).aside
    simp only [executeBound]
    cases hresult : Handle.executePrepared (ps.bindings, h, w.server) <;>
      rw [hresult] at hhandle <;> exact .of_cursor (congrArg (w.handles, ·) hhandle) rfl

/-- A cursor that is opened is over the result set it is opened over. -/
theorem aside_openCursor (options : Options) (rows : ResultSet) (w : ClientWorld) :
    (leaves (openCursor options rows w)).lobState = w.lobState ∧
      ∀ c w', openCursor options rows w = .ok c w' → c.rows = rows := by
  have hback := (w.closes_closeRows rows).lobState
  rw [openCursor, Cursor.openOn_eq]
  rcases Column.ofDescriptions rows.columns with e | (_ | ⟨column, columns⟩)
  · exact ⟨hback, fun _ _ h => by cases h⟩
  · exact ⟨hback, fun _ _ h => by cases h⟩
  · simp only
    cases options.fetchSize with
    | none =>
      refine ⟨rfl, ?_⟩
      rintro c w' ⟨⟩
      rfl
    | some size =>
      cases hclosed : rows.isClosed with
      | false =>
        have hset := setFetchSize_of_open hclosed size w.server
        simp only [Cursor.setFetchSize, Cursor.onServer, hset]
        refine ⟨rfl, ?_⟩
        rintro c w' ⟨⟩
        rfl
      | true =>
        have hset := setFetchSize_of_closed hclosed size w.server
        simp only [Cursor.setFetchSize, Cursor.onServer, hset]
        refine ⟨?_, by simp only [reduceCtorEq, false_implies, implies_true]⟩
        exact (Cursor.closes_close _ w).lobState

theorem aside_takeResult {execution : Execution} (x : Statement × ClientWorld)
    (hstored : ∀ limit, x.2.server.Stored limit → execution.Stored limit) :
    Aside x (leaves (takeResult execution x)) := by
  obtain ⟨s, w⟩ := x
  cases execution with
  | update rowsAffected => exact .refl _
  | query rows =>
    obtain ⟨hstate, hrows⟩ := aside_openCursor s.options rows w
    simp only [takeResult]
    cases hopen : openCursor s.options rows w with
    | error e w' =>
      rw [hopen] at hstate
      exact .of_cursor hstate rfl
    | ok c w' =>
      rw [hopen] at hstate
      refine ⟨hstate, fun limit hserver _ => ?_⟩
      rintro _ ⟨⟩
      rw [hrows c w' hopen]
      exact hstored limit hserver rows rfl

/-- What a handle comes to shows contents that the scripts of its server name. -/
theorem stored_onHandle {op : EStateM Error (Handle × Server) Execution} {execution : Execution}
    (hop : ∀ state state' limit, op state = .ok execution state' → state.2.Stored limit →
      execution.Stored limit) (hresult : onHandle op x = .ok execution y) {limit : Nat}
    (hserver : x.2.server.Stored limit) : execution.Stored limit := by
  obtain ⟨s, w⟩ := x
  cases hlink : s.link with
  | none =>
    simp only [onHandle, hlink] at hresult
    cases hresult
  | some link =>
    simp only [onHandle, hlink] at hresult
    cases hop' : op (link.handle, w.server) with
    | error e state =>
      rw [hop'] at hresult
      cases hresult
    | ok execution' state =>
      rw [hop'] at hresult
      cases hresult
      exact hop _ _ limit hop' hserver

theorem stored_executeBound {execution : Execution} (hresult : executeBound x = .ok execution y)
    {limit : Nat} (hserver : x.2.server.Stored limit) : execution.Stored limit := by
  obtain ⟨⟨_ | ⟨h, _ | ps⟩, cursor, options⟩, w⟩ := x
  · cases hresult
  · cases hresult
  · simp only [executeBound] at hresult
    cases hexecute : Handle.executePrepared (ps.bindings, h, w.server) with
    | error e state =>
      rw [hexecute] at hresult
      cases hresult
    | ok execution' state =>
      rw [hexecute] at hresult
      cases hresult
      exact Handle.stored_executePrepared hserver hexecute

theorem aside_execute (sql : String) (x : Statement × ClientWorld) :
    Aside x (leaves (execute sql x)) := by
  obtain ⟨s, w⟩ := x
  cases hlink : s.link with
  | none =>
    rw [execute_of_closed hlink]
    exact .refl _
  | some link =>
    obtain ⟨h, _ | ps⟩ := link
    · rw [execute_of_direct hlink]
      apply leaves_bind (R := Aside) .trans (aside_refresh (s, w))
      intro _ refreshed _
      have hexecute :=
        aside_onHandle (fun state => (Handle.requested_execute sql state).aside) refreshed
      apply leaves_bind (R := Aside) .trans hexecute
      intro execution executed hresult
      rw [hresult] at hexecute
      apply aside_takeResult
      intro limit hserver
      refine stored_onHandle (fun state state' limit => ?_) hresult
        (Server.stored_of_lobState_eq (server_lobState_eq hexecute.lobState.symm) hserver)
      exact fun hok hs => Handle.stored_execute hs hok
    · rw [execute_of_prepared hlink]
      exact .refl _

/-- An execution with arguments, up to its result. -/
theorem aside_perform (args : Arguments) (x : Statement × ClientWorld) :
    Aside x (leaves (perform args x)) := by
  rw [perform]
  apply leaves_bind (R := Aside) .trans (aside_refresh x)
  intro _ refreshed _
  apply leaves_bind (R := Aside) .trans (aside_bind args refreshed)
  intro _ bound _
  have hexecute := aside_executeBound bound
  apply leaves_bind (R := Aside) .trans hexecute
  intro execution executed hresult
  rw [hresult] at hexecute
  apply aside_takeResult
  intro limit hserver
  exact stored_executeBound hresult
    (Server.stored_of_lobState_eq (server_lobState_eq hexecute.lobState.symm) hserver)

/-- Writing back drops arguments, and does nothing else to large objects. -/
theorem exists_dropped_writeBack (args : Arguments) (s : Statement) (w : ClientWorld) :
    ∃ dropped, (∀ ref, .lob ref ∈ dropped → .lob ref ∈ args.values) ∧
      (leaves (writeBack (args, s, w))).2.2 = w.releaseAll dropped := by
  have hnone : (∀ ref, .lob ref ∈ ([] : List Value) → .lob ref ∈ args.values) ∧
      w = w.releaseAll [] := ⟨fun _ href => absurd href List.not_mem_nil, rfl⟩
  simp only [writeBack]
  cases s.parameters? with
  | none => exact ⟨[], hnone⟩
  | some ps =>
    simp only
    cases ps.outputs with
    | error e => exact ⟨[], hnone⟩
    | ok outputs =>
      simp only
      cases Parameters.assign args outputs with
      | error e => exact ⟨[], hnone⟩
      | ok written =>
        refine ⟨_, fun ref href => ?_, rfl⟩
        obtain ⟨entry, -, hget⟩ := List.mem_map.mp href
        exact Arguments.mem_values_of_get hget (by simp)

/-- **A whole execution with arguments** leaves large objects alone as well, and in the end drops
those of the arguments that it writes outputs over. -/
theorem exists_dropped_executeWith (args : Arguments) (s : Statement) (w : ClientWorld) :
    ∃ (w' : ClientWorld) (dropped : List Value), w'.lobState = w.lobState ∧
      (∀ ref, .lob ref ∈ dropped → .lob ref ∈ args.values) ∧
      (leaves (executeWith (args, s, w))).2.2 = w'.releaseAll dropped := by
  have hnone : ∀ ref, .lob ref ∈ ([] : List Value) → .lob ref ∈ args.values :=
    fun _ href => absurd href List.not_mem_nil
  cases hlink : s.link with
  | none =>
    rw [executeWith_of_closed hlink]
    exact ⟨w, [], rfl, hnone, rfl⟩
  | some link =>
    obtain ⟨h, _ | ps⟩ := link
    · rw [executeWith_of_direct hlink]
      exact ⟨w, [], rfl, hnone, rfl⟩
    · have hstate := (aside_perform args (s, w)).lobState
      cases hperform : perform args (s, w) with
      | error e x =>
        rw [hperform] at hstate
        rw [executeWith_of_error hlink hperform]
        exact ⟨x.2, [], hstate, hnone, rfl⟩
      | ok count x =>
        obtain ⟨s', w'⟩ := x
        rw [hperform] at hstate
        obtain ⟨dropped, hdropped, hleft⟩ := exists_dropped_writeBack args s' w'
        rw [executeWith_of_result hlink hperform, leaves_bind_pure]
        exact ⟨w', dropped, hstate, hdropped, hleft⟩

theorem aside_batch (sqls : List String) (x : Statement × ClientWorld) :
    Aside x (leaves (batch sqls x)) := by
  rw [batch, run_bind_modify]
  exact (aside_closeCursor x).trans
    (aside_onHandle (fun state => (Handle.requested_executeBatch sqls state).aside) _)

theorem aside_serial (choice : SerialChoice) (x : Statement × ClientWorld) :
    Aside x (leaves (serial choice x)) :=
  aside_onHandle (fun state => (Handle.requested_serial choice state).aside) x

theorem lobState_releaseHandle (h : Handle) (w : ClientWorld) :
    (releaseHandle h w).lobState = w.lobState :=
  congrArg (w.handles, ·) (Handle.aside_release (h, w.server))

theorem aside_close (x : Statement × ClientWorld) : Aside x (close x) := by
  have hcursor := aside_closeCursor x
  simp only [close]
  cases (closeCursor x).1.link with
  | none => exact hcursor
  | some link => exact hcursor.trans (.of_cursor (lobState_releaseHandle ..) rfl)

/-! ## New statements -/

theorem lobState_setUp {α : Type} {op : EStateM Error (Handle × Server) α}
    (hop : ∀ state, Handle.Aside state (leaves (op state))) (h : Handle) (w : ClientWorld) :
    (leaves (setUp h op w)).lobState = w.lobState := by
  have hhandle := hop (h, w.server)
  simp only [setUp]
  cases hresult : op (h, w.server) with
  | ok a state =>
    rw [hresult] at hhandle
    exact congrArg (w.handles, ·) hhandle
  | error e state =>
    rw [hresult] at hhandle
    exact (lobState_releaseHandle ..).trans (congrArg (w.handles, ·) hhandle)

theorem lobState_new (h : Handle) (options : Options) (w : ClientWorld) :
    (leaves (new h options w)).lobState = w.lobState := by
  rw [new, leaves_bind_pure]
  exact lobState_setUp (Handle.aside_applyOptions options) h w

theorem lobState_prepare (h : Handle) (sql : String) (options : Options) (w : ClientWorld) :
    (leaves (prepare h sql options w)).lobState = w.lobState := by
  rw [prepare, leaves_bind_pure]
  refine lobState_setUp (fun state => ?_) h w
  apply leaves_bind (R := Handle.Aside) .trans (Handle.aside_applyOptions options state)
  intro _ applied _
  apply leaves_bind (R := Handle.Aside) .trans (Handle.aside_prepare sql applied)
  intro ds prepared _
  cases Parameters.ofDescriptions .unicode sql ds <;> rfl

end Statement
end SqlClient
