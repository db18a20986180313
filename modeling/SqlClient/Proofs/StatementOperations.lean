import SqlClient.Proofs.ResultSetCounts

/-! # What operations keep of a statement

A statement is used by one operation after the other (`Operation`), each of which may succeed or
fail.  What all of them keep is `Sound`: the cursor knows where its result set stands or was shut
with it, a closed statement has no cursor, and the handle limits the rows only if the options do.

On the way no result set is lost: what an operation was given by the server is given back, or is
what the statement holds afterwards (`Counted`).  An execution, a batch and closing give back all
that the statement held before (`Settled`).
-/
namespace SqlClient

open Scripted

namespace Scripted

/-- The number of result sets that are still to be given back of this one. -/
def ResultSet.held (rows : ResultSet) : Nat := if rows.isClosed then 0 else 1

end Scripted

namespace Statement

/-- One operation on a statement. -/
inductive Operation where
  | configure (later : Options)
  | execute (sql : String)
  | executeWith (args : Arguments)
  | batch (sqls : List String)
  | serial (choice : SerialChoice)
  /-- Use the current cursor, also to fetch a row. -/
  | cursor (call : Cursor.Call)
  | close

/-- A statement and its world after an operation, whether it succeeds or fails. -/
def after (op : Operation) (state : Statement × ClientWorld) : Statement × ClientWorld :=
  match op with
  | .configure later => (state.1.configure later, state.2)
  | .execute sql => leaves (execute sql state)
  | .executeWith args => (leaves (executeWith (args, state))).2
  | .batch sqls => leaves (batch sqls state)
  | .serial choice => leaves (serial choice state)
  | .cursor call => leaves (onCursor (Cursor.perform call) state)
  | .close => close state

/-- The number of result sets that a statement holds. -/
def held (s : Statement) : Nat := s.cursor.elim 0 (·.rows.held)

@[simp] theorem held_of_cursor_none {s : Statement} (h : s.cursor = none) : s.held = 0 := by
  simp [held, h]

/-- **What every operation keeps** of a statement. -/
structure Sound (s : Statement) : Prop where
  cursor : ∀ c, s.cursor = some c → c.Tracks ∨ c.Shut
  closed : s.link = none → s.cursor = none
  maxRows : ∀ link, s.link = some link → s.options.maxRows = none →
    link.handle.settings.maxRows = 0
  named : ∀ ps, s.parameters? = some ps → ps.items = [] → ps.named = false

/-! ## Counting -/

/-- **No result set was lost**: what was given out in between was given back, or is held. -/
def Counted (x y : Statement × ClientWorld) : Prop :=
  ∃ given, y.2.server.openedResultSets = x.2.server.openedResultSets + given ∧
    y.2.server.closedResultSets + y.1.held = x.2.server.closedResultSets + x.1.held + given

/-- **The statement holds nothing of what it held before**: its cursor is a new one, over a result
set that was given out in between, and no other result set was lost. -/
structure Settled (x y : Statement × ClientWorld) : Prop where
  cursor : ∀ c, y.1.cursor = some c → c.Tracks
  counts : ∃ given, y.2.server.openedResultSets = x.2.server.openedResultSets + given ∧
    y.2.server.closedResultSets + y.1.held = x.2.server.closedResultSets + x.1.held + given ∧
    y.1.held ≤ given

variable {x y z : Statement × ClientWorld} {s s' : Statement} {w w' : ClientWorld}

theorem Settled.counted (h : Settled x y) : Counted x y := by
  obtain ⟨given, hopened, hclosed, -⟩ := h.counts
  exact ⟨given, hopened, hclosed⟩

theorem Settled.trans (hfirst : Settled x y) (hnext : Settled y z) : Settled x z := by
  obtain ⟨given, hopened, hclosed, -⟩ := hfirst.counts
  obtain ⟨given', hopened', hclosed', hheld⟩ := hnext.counts
  exact ⟨hnext.cursor, given + given', by omega, by omega, by omega⟩

/-- Nothing is lost where nothing happens to result sets. -/
theorem counted_of_sameResultSets (hserver : w.server.SameResultSets w'.server)
    (hheld : s'.held = s.held) : Counted (s, w) (s', w') :=
  ⟨0, hserver.opened, by rw [hserver.closed, hheld, Nat.add_zero]⟩

/-- **The statement gave back what it held**, and that is all that happened. -/
structure GivesBack (x y : Statement × ClientWorld) : Prop where
  cursor : y.1.cursor = none
  opened : y.2.server.openedResultSets = x.2.server.openedResultSets
  closed : y.2.server.closedResultSets = x.2.server.closedResultSets + x.1.held

theorem GivesBack.settled (h : GivesBack x y) : Settled x y where
  cursor := by simp [h.cursor]
  counts := ⟨0, h.opened, by rw [held_of_cursor_none h.cursor, h.closed],
    by rw [held_of_cursor_none h.cursor]⟩

theorem GivesBack.sameResultSets (h : GivesBack x (s, w))
    (hserver : w.server.SameResultSets w'.server) (hnone : s'.cursor = none) :
    GivesBack x (s', w') :=
  ⟨hnone, hserver.opened.trans h.opened, hserver.closed.trans h.closed⟩

theorem settled_of_sameResultSets (hserver : w.server.SameResultSets w'.server)
    (hnone : s.cursor = none) (hnone' : s'.cursor = none) : Settled (s, w) (s', w') :=
  GivesBack.settled ⟨hnone', hserver.opened, by rw [held_of_cursor_none hnone, hserver.closed]; rfl⟩

/-! ## One step after the other -/

/-- Closing a cursor gives back what it holds. -/
theorem counts_close {c : Cursor ResultSet} (hc : c.Tracks ∨ c.Shut) (w : ClientWorld) :
    (Cursor.close (c, w)).2.server.openedResultSets = w.server.openedResultSets ∧
      (Cursor.close (c, w)).2.server.closedResultSets =
        w.server.closedResultSets + c.rows.held := by
  have hremote : (RemoteRows.close (c.rows, w.server) : ResultSet × Server) =
      ResultSet.close (c.rows, w.server) := rfl
  rcases hc with htracks | hshut
  · simp [Cursor.close, htracks.isOpen, hremote, ResultSet.close, htracks.rowsOpen, ResultSet.held]
  · simp [Cursor.close, hshut.isClosed, ResultSet.held, hshut.rowsClosed]

theorem givesBack_closeCursor (hs : s.Sound) (w : ClientWorld) :
    GivesBack (s, w) (closeCursor (s, w)) := by
  obtain ⟨link, cursor, options⟩ := s
  cases cursor with
  | none => exact ⟨rfl, rfl, rfl⟩
  | some c =>
    obtain ⟨hopened, hclosed⟩ := counts_close (hs.cursor c rfl) w
    exact ⟨rfl, hopened, hclosed⟩

theorem settled_closeCursor (hs : s.Sound) (w : ClientWorld) :
    Settled (s, w) (closeCursor (s, w)) :=
  (givesBack_closeCursor hs w).settled

theorem cursor_closeCursor (s : Statement) (w : ClientWorld) :
    (closeCursor (s, w)).1.cursor = none := by
  obtain ⟨_, _ | _, _⟩ := s <;> rfl

theorem cursor_onHandle {α : Type} (op : EStateM Error (Handle × Server) α) (s : Statement)
    (w : ClientWorld) : (leaves (onHandle op (s, w))).1.cursor = s.cursor := by
  cases hlink : s.link with
  | none =>
    rw [onHandle_of_closed hlink]
    rfl
  | some link => rw [leaves_onHandle hlink]

/-- What a handle does quietly concerns no result set. -/
theorem sameResultSets_onHandle {α : Type} {op : EStateM Error (Handle × Server) α}
    (hop : ∀ h server, Handle.Quiet (h, server) (leaves (op (h, server)))) (s : Statement)
    (w : ClientWorld) : w.server.SameResultSets (leaves (onHandle op (s, w))).2.server := by
  cases hlink : s.link with
  | none =>
    rw [onHandle_of_closed hlink]
    exact .refl w.server
  | some link =>
    rw [leaves_onHandle hlink]
    exact (hop link.handle w.server).server

theorem sameResultSets_applyOptions (options : Options) (s : Statement) (w : ClientWorld) :
    w.server.SameResultSets
      (leaves (onHandle (Handle.applyOptions options) (s, w))).2.server := by
  cases hlink : s.link with
  | none =>
    rw [onHandle_of_closed hlink]
    exact .refl w.server
  | some link =>
    rw [leaves_onHandle hlink, Handle.applyOptions_eq]
    split <;> exact .refl w.server

theorem cursor_refresh (s : Statement) (w : ClientWorld) :
    (leaves (refresh (s, w))).1.cursor = none := by
  rw [refresh, run_bind_modify, run_bind_get]
  exact (cursor_onHandle ..).trans (cursor_closeCursor s w)

theorem settled_refresh (hs : s.Sound) (w : ClientWorld) :
    Settled (s, w) (leaves (refresh (s, w))) := by
  have hcursor := cursor_refresh s w
  rw [refresh, run_bind_modify, run_bind_get] at hcursor ⊢
  apply (settled_closeCursor hs w).trans
  exact settled_of_sameResultSets (sameResultSets_applyOptions ..) (cursor_closeCursor s w) hcursor

theorem settled_bind (hnone : s.cursor = none) (args : Arguments) (w : ClientWorld) :
    Settled (s, w) (leaves (bind args (s, w))) ∧ (leaves (bind args (s, w))).1.cursor = none := by
  have hsame : (leaves (bind args (s, w))).1.cursor = s.cursor ∧
      (leaves (bind args (s, w))).2 = w := by
    obtain ⟨_ | ⟨h, _ | ps⟩, cursor, options⟩ := s
    · exact ⟨rfl, rfl⟩
    · exact ⟨rfl, rfl⟩
    · simp only [bind]
      cases Parameters.bind args ps <;> exact ⟨rfl, rfl⟩
  have hcursor := hsame.1.trans hnone
  have hserver : w.server.SameResultSets (leaves (bind args (s, w))).2.server := by
    rw [hsame.2]
    exact .refl w.server
  exact ⟨settled_of_sameResultSets hserver hnone hcursor, hcursor⟩

/-- The server gave out at most one result set, a fresh one, and the statement has not taken it
yet. -/
structure Supplied (x : Statement × ClientWorld) (given : Option ResultSet)
    (y : Statement × ClientWorld) : Prop where
  cursor : y.1.cursor = x.1.cursor
  opened : y.2.server.openedResultSets = x.2.server.openedResultSets + given.toList.length
  closed : y.2.server.closedResultSets = x.2.server.closedResultSets
  fresh : ∀ rows ∈ given, rows.Fresh

theorem supplied_execute (sql : String) (s : Statement) (w : ClientWorld) :
    Supplied (s, w) ((result? (onHandle (Handle.execute sql) (s, w))).bind Execution.rows?)
      (leaves (onHandle (Handle.execute sql) (s, w))) := by
  obtain ⟨_ | link, cursor, options⟩ := s
  · exact ⟨rfl, rfl, rfl, nofun⟩
  · have hgave := Handle.gave_execute sql link.handle w.server
    simp only [onHandle]
    cases hresult : Handle.execute sql (link.handle, w.server) <;> rw [hresult] at hgave <;>
      exact ⟨rfl, hgave.opened, hgave.closed, hgave.fresh⟩

theorem supplied_executeBound (s : Statement) (w : ClientWorld) :
    Supplied (s, w) ((result? (executeBound (s, w))).bind Execution.rows?)
      (leaves (executeBound (s, w))) := by
  obtain ⟨_ | ⟨h, _ | ps⟩, cursor, options⟩ := s
  · exact ⟨rfl, rfl, rfl, nofun⟩
  · exact ⟨rfl, rfl, rfl, nofun⟩
  · have hgave := Handle.gave_executePrepared ps.bindings h w.server
    simp only [executeBound]
    cases hresult : Handle.executePrepared (ps.bindings, h, w.server) <;> rw [hresult] at hgave <;>
      exact ⟨rfl, hgave.opened, hgave.closed, hgave.fresh⟩

/-- A fresh result set that no cursor can be opened over was given back. -/
theorem settled_given_back {rows : ResultSet} (hsupplied : Supplied x (some rows) (s, w))
    (hnone : x.1.cursor = none)
    (hback : w'.server.closedResultSets = w.server.closedResultSets + 1)
    (hopened : w'.server.openedResultSets = w.server.openedResultSets) : Settled x (s, w') := by
  have hcursor : s.cursor = none := hsupplied.cursor.trans hnone
  have hclosed : w.server.closedResultSets = x.2.server.closedResultSets := hsupplied.closed
  refine ⟨fun c hc => ?_, 1, hopened.trans hsupplied.opened, ?_, ?_⟩
  · rw [hcursor] at hc
    cases hc
  · rw [held_of_cursor_none hcursor, held_of_cursor_none hnone, hback, hclosed]
  · rw [held_of_cursor_none hcursor]
    exact Nat.zero_le 1

/-- **A fresh result set is taken, or given back at once.** -/
theorem settled_takeResult {execution : Execution} (hsupplied : Supplied x execution.rows? y)
    (hnone : x.1.cursor = none) : Settled x (leaves (takeResult execution y)) := by
  obtain ⟨s, w⟩ := y
  cases execution with
  | update rowsAffected =>
    exact settled_of_sameResultSets ⟨hsupplied.opened, hsupplied.closed⟩ hnone
      (hsupplied.cursor.trans hnone)
  | query rows =>
    obtain ⟨hopen, hstart⟩ := hsupplied.fresh rows rfl
    simp only [takeResult, openCursor_of_open s.options hopen]
    rcases Column.ofDescriptions rows.columns with e | (_ | ⟨column, columns⟩)
    · exact settled_given_back hsupplied hnone rfl rfl
    · exact settled_given_back hsupplied hnone rfl rfl
    · have htuned : w.server.SameResultSets (tuned s.options w.server) := by
        unfold tuned
        split
        · exact .refl w.server
        · exact ⟨rfl, rfl⟩
      have hheld (cursor : Cursor ResultSet) (h : cursor.rows = rows) :
          held { s with cursor := some cursor } = 1 := by
        simp [held, ResultSet.held, h, hopen]
      refine ⟨?_, 1, htuned.opened.trans hsupplied.opened, ?_, ?_⟩
      · rintro c ⟨⟩
        exact ⟨rfl, hopen, by simp [hstart], hstart⟩
      · rw [leaves_ok, hheld _ rfl, held_of_cursor_none hnone]
        exact congrArg (· + 1) (htuned.closed.trans hsupplied.closed)
      · rw [leaves_ok, hheld _ rfl]

/-- What comes after the cursor was closed, up to the result. -/
theorem settled_finish {run : EStateM Error (Statement × ClientWorld) Execution}
    (hrun : Supplied x ((result? (run x)).bind Execution.rows?) (leaves (run x)))
    (hnone : x.1.cursor = none) : Settled x (leaves ((do takeResult (← run)) x)) := by
  cases hresult : run x with
  | error e y =>
    rw [hresult] at hrun
    rw [run_bind_error hresult]
    exact settled_of_sameResultSets ⟨hrun.opened, hrun.closed⟩ hnone (hrun.cursor.trans hnone)
  | ok execution y =>
    rw [hresult] at hrun
    rw [run_bind_ok hresult]
    exact settled_takeResult hrun hnone

/-! ## Operations that end a result set -/

/-- The operation executes the statement, or closes its cursor in another way.  A direct statement
is executed with a SQL text, a prepared one with arguments. -/
def Ends (s : Statement) : Operation → Prop
  | .execute _ => s.isPrepared = false
  | .executeWith _ => s.isPrepared = true ∨ s.isClosed = true
  | .batch _ | .close => True
  | .configure _ | .serial _ | .cursor _ => False

/-- A statement that has a handle is prepared if it has parameters. -/
theorem isPrepared_of_link {h : Handle} {p : Option Parameters} (hlink : s.link = some ⟨h, p⟩) :
    s.isPrepared = p.isSome := by
  rw [isPrepared, parameters?, hlink, Option.bind_some]

theorem isPrepared_of_closed (hlink : s.link = none) : s.isPrepared = false := by
  rw [isPrepared, parameters?, hlink]
  rfl

/-- An operation that a closed statement refuses. -/
theorem Sound.settled_refl (hs : s.Sound) (hlink : s.link = none) (w : ClientWorld) :
    Settled (s, w) (s, w) :=
  settled_of_sameResultSets (.refl w.server) (hs.closed hlink) (hs.closed hlink)

theorem settled_execute (hs : s.Sound) (hdirect : s.isPrepared = false) (sql : String)
    (w : ClientWorld) : Settled (s, w) (leaves (execute sql (s, w))) := by
  cases hlink : s.link with
  | none =>
    rw [execute_of_closed hlink]
    exact hs.settled_refl hlink w
  | some link =>
    obtain ⟨h, _ | ps⟩ := link
    · rw [execute_of_direct hlink]
      apply leaves_bind (R := Settled) .trans (settled_refresh hs w)
      intro _ refreshed hrefresh
      have hcursor := cursor_refresh s w
      rw [hrefresh] at hcursor
      exact settled_finish (supplied_execute sql refreshed.1 refreshed.2) hcursor
    · cases hdirect.symm.trans (isPrepared_of_link hlink)

theorem settled_perform (hs : s.Sound) (args : Arguments) (w : ClientWorld) :
    Settled (s, w) (leaves (perform args (s, w))) := by
  rw [perform]
  apply leaves_bind (R := Settled) .trans (settled_refresh hs w)
  intro _ refreshed hrefresh
  have hcursor := cursor_refresh s w
  rw [hrefresh] at hcursor
  obtain ⟨hbind, hcursor'⟩ := settled_bind hcursor args refreshed.2
  apply leaves_bind (R := Settled) .trans hbind
  intro _ bound hbound
  rw [hbound] at hcursor'
  exact settled_finish (supplied_executeBound bound.1 bound.2) hcursor'

/-- Writing back concerns no result set. -/
theorem sameResultSets_writeBack (args : Arguments) (s : Statement) (w : ClientWorld) :
    (leaves (writeBack (args, s, w))).2.1 = s ∧
      w.server.SameResultSets (leaves (writeBack (args, s, w))).2.2.server := by
  simp only [writeBack]
  split
  · exact ⟨rfl, .refl w.server⟩
  · split
    · exact ⟨rfl, .refl w.server⟩
    · split
      · exact ⟨rfl, .refl w.server⟩
      · exact ⟨rfl, (w.onlyLobs_releaseAll _).sameResultSets⟩

theorem Settled.sameResultSets (hfirst : Settled x (s, w))
    (hserver : w.server.SameResultSets w'.server) : Settled x (s, w') := by
  obtain ⟨given, hopened, hclosed, hheld⟩ := hfirst.counts
  exact ⟨hfirst.cursor, given, hserver.opened.trans hopened,
    (congrArg (· + s.held) hserver.closed).trans hclosed, hheld⟩

theorem settled_executeWith (hs : s.Sound) (hprepared : s.isPrepared = true ∨ s.isClosed = true)
    (args : Arguments) (w : ClientWorld) :
    Settled (s, w) (leaves (executeWith (args, s, w))).2 := by
  cases hlink : s.link with
  | none =>
    rw [executeWith_of_closed hlink]
    exact hs.settled_refl hlink w
  | some link =>
    obtain ⟨h, _ | ps⟩ := link
    · simp [isPrepared_of_link hlink, isClosed, hlink] at hprepared
    · have hsettled := settled_perform hs args w
      cases hperform : perform args (s, w) with
      | error e state =>
        rw [hperform] at hsettled
        rw [executeWith_of_error hlink hperform]
        exact hsettled
      | ok count state =>
        obtain ⟨s', w'⟩ := state
        rw [hperform] at hsettled
        rw [executeWith_of_result hlink hperform, leaves_bind_pure]
        obtain ⟨hsame, hserver⟩ := sameResultSets_writeBack args s' w'
        have hwritten := hsettled.sameResultSets hserver
        cases hback : leaves (writeBack (args, s', w')) with
        | mk args' state =>
          obtain ⟨s'', w''⟩ := state
          rw [hback] at hsame hwritten
          obtain rfl : s'' = s' := hsame
          exact hwritten

theorem cursor_batch (sqls : List String) (s : Statement) (w : ClientWorld) :
    (leaves (batch sqls (s, w))).1.cursor = none := by
  rw [batch, run_bind_modify]
  exact (cursor_onHandle ..).trans (cursor_closeCursor s w)

theorem settled_batch (hs : s.Sound) (sqls : List String) (w : ClientWorld) :
    Settled (s, w) (leaves (batch sqls (s, w))) := by
  have hcursor := cursor_batch sqls s w
  rw [batch, run_bind_modify] at hcursor ⊢
  apply (settled_closeCursor hs w).trans
  exact settled_of_sameResultSets (sameResultSets_onHandle (Handle.quiet_executeBatch sqls) _ _)
    (cursor_closeCursor s w) hcursor

theorem sameResultSets_releaseHandle (h : Handle) (w : ClientWorld) :
    w.server.SameResultSets (releaseHandle h w).server := by
  simp only [releaseHandle, Handle.release]
  split <;> exact ⟨rfl, rfl⟩

/-- **Closing a statement gives back what it holds.** -/
theorem givesBack_close (hs : s.Sound) (w : ClientWorld) : GivesBack (s, w) (close (s, w)) := by
  have hclosed := givesBack_closeCursor hs w
  rw [close]
  cases hclose : closeCursor (s, w) with
  | mk s' w' =>
    rw [hclose] at hclosed
    cases hlink : s'.link with
    | none => simpa only [hlink] using hclosed
    | some link =>
      simp only [hlink]
      exact hclosed.sameResultSets (sameResultSets_releaseHandle _ w') hclosed.cursor

/-- **An operation that ends a result set gives it back.** -/
theorem Sound.settled_after (hs : s.Sound) {op : Operation} (hop : s.Ends op) (w : ClientWorld) :
    Settled (s, w) (after op (s, w)) := by
  cases op with
  | execute sql => exact settled_execute hs hop sql w
  | executeWith args => exact settled_executeWith hs hop args w
  | batch sqls => exact settled_batch hs sqls w
  | close => exact (givesBack_close hs w).settled
  | configure later | serial choice | cursor call => exact hop.elim

/-! ## Every operation -/

theorem cursor_serial (choice : SerialChoice) (s : Statement) (w : ClientWorld) :
    (leaves (serial choice (s, w))).1.cursor = s.cursor :=
  cursor_onHandle (Handle.serial choice) s w

theorem leaves_onCursor {α : Type} (op : EStateM Error (Cursor ResultSet × ClientWorld) α)
    (s : Statement) (w : ClientWorld) :
    leaves (onCursor op (s, w)) =
      match s.cursor with
      | none => (s, w)
      | some c => ({ s with cursor := some (leaves (op (c, w))).1 }, (leaves (op (c, w))).2) := by
  rw [onCursor]
  cases s.cursor with
  | none => rfl
  | some c =>
    simp only
    cases op (c, w) <;> rfl

/-- A cursor that is used, but not closed, tracks its result set or stays shut with it. -/
theorem sound_perform {c : Cursor ResultSet} (hc : c.Tracks ∨ c.Shut) {call : Cursor.Call}
    (hcall : call ≠ .close) (w : ClientWorld) :
    ((leaves (Cursor.perform call (c, w))).1.Tracks ∨
        (leaves (Cursor.perform call (c, w))).1.Shut) ∧
      (leaves (Cursor.perform call (c, w))).1.rows.held = c.rows.held := by
  rcases hc with htracks | hshut
  · have hperform := (htracks.perform hcall w).1
    exact ⟨.inl hperform, by simp [ResultSet.held, hperform.rowsOpen, htracks.rowsOpen]⟩
  · rw [hshut.perform]
    exact ⟨.inr hshut, rfl⟩

theorem shut_close {c : Cursor ResultSet} (hc : c.Tracks ∨ c.Shut) (w : ClientWorld) :
    (Cursor.close (c, w)).1.Shut := by
  rcases hc with htracks | hshut
  · exact htracks.close w
  · rw [Cursor.close, if_pos hshut.isClosed]
    exact hshut

theorem counted_cursor (hs : s.Sound) (call : Cursor.Call) (w : ClientWorld) :
    Counted (s, w) (leaves (onCursor (Cursor.perform call) (s, w))) := by
  rw [leaves_onCursor]
  cases hcursor : s.cursor with
  | none => exact counted_of_sameResultSets (.refl w.server) rfl
  | some c =>
    have hheld : s.held = c.rows.held := by simp [held, hcursor]
    by_cases hcall : call = .close
    · subst hcall
      have hclose : leaves (Cursor.perform .close (c, w)) = Cursor.close (c, w) := rfl
      obtain ⟨hopened, hclosed⟩ := counts_close (hs.cursor c hcursor) w
      have hshut := shut_close (hs.cursor c hcursor) w
      have hnothing : held { s with cursor := some (Cursor.close (c, w)).1 } = 0 := by
        simp [held, ResultSet.held, hshut.rowsClosed]
      simp only [hclose]
      exact ⟨0, hopened, by rw [hnothing, hclosed, hheld]⟩
    · obtain ⟨-, hsame⟩ := sound_perform (hs.cursor c hcursor) hcall w
      exact counted_of_sameResultSets (Cursor.sameResultSets_perform hcall c w)
        (hsame.trans hheld.symm)

/-- **No operation loses a result set.** -/
theorem Sound.counted_after (hs : s.Sound) (op : Operation) (w : ClientWorld) :
    Counted (s, w) (after op (s, w)) := by
  cases op with
  | configure later => exact counted_of_sameResultSets (.refl w.server) rfl
  | execute sql =>
    by_cases hprepared : s.isPrepared = true
    · obtain ⟨ps, hps⟩ := Option.isSome_iff_exists.mp hprepared
      obtain ⟨link, hlink, hparameters⟩ := Option.bind_eq_some_iff.mp hps
      obtain ⟨h, _⟩ := link
      obtain rfl : _ = some ps := hparameters
      simp only [after, execute_of_prepared hlink, leaves_error]
      exact counted_of_sameResultSets (.refl w.server) rfl
    · exact (settled_execute hs (Bool.eq_false_iff.mpr hprepared) sql w).counted
  | executeWith args =>
    cases hlink : s.link with
    | none =>
      exact (settled_executeWith hs (.inr (by simp [isClosed, hlink])) args w).counted
    | some link =>
      obtain ⟨h, _ | ps⟩ := link
      · simp only [after, executeWith_of_direct hlink, leaves_error]
        exact counted_of_sameResultSets (.refl w.server) rfl
      · exact (settled_executeWith hs (.inl (isPrepared_of_link hlink)) args w).counted
  | batch sqls => exact (settled_batch hs sqls w).counted
  | serial choice =>
    have hheld : (leaves (serial choice (s, w))).1.held = s.held := by
      rw [held, held, cursor_serial]
    exact counted_of_sameResultSets (sameResultSets_onHandle (Handle.quiet_serial choice) s w) hheld
  | cursor call => exact counted_cursor hs call w
  | close => exact (givesBack_close hs w).settled.counted

/-- What an operation keeps of the options and the link of a statement that it does not close.  The
handle may have been given the options. -/
structure Follows (x y : Statement × ClientWorld) : Prop where
  options : y.1.options = x.1.options
  isClosed : y.1.link = none → x.1.link = none
  settings : ∀ link', y.1.link = some link' → ∃ link, x.1.link = some link ∧
    x.1.options.applyTo link'.handle.settings = x.1.options.applyTo link.handle.settings
  parameters : ∀ ps', y.1.parameters? = some ps' → ∃ ps, x.1.parameters? = some ps ∧
    Parameters.SameShape ps' ps

theorem Follows.of_link (hoptions : s'.options = s.options) (hlink : s'.link = s.link) :
    Follows (s, w) (s', w') where
  options := hoptions
  isClosed := fun h => hlink ▸ h
  settings := fun link' h => ⟨link', hlink ▸ h, rfl⟩
  parameters := fun ps' h => ⟨ps', by rw [← h, parameters?, parameters?, hlink], .refl ps'⟩

theorem Follows.of_handle {link : Link} {h : Handle} (hlink : s.link = some link)
    (hsettings : s.options.applyTo h.settings = s.options.applyTo link.handle.settings) :
    Follows (s, w) ({ s with link := some { link with handle := h } }, w') where
  options := rfl
  isClosed := by simp
  settings := fun link' hlink' => by
    obtain rfl := Option.some.inj hlink'
    exact ⟨link, hlink, hsettings⟩
  parameters := fun ps' hps' => ⟨ps', by simpa [parameters?, hlink] using hps', .refl ps'⟩

theorem Follows.trans (hfirst : Follows x y) (hnext : Follows y z) : Follows x z where
  options := hnext.options.trans hfirst.options
  isClosed := fun h => hfirst.isClosed (hnext.isClosed h)
  settings := fun link'' hlink'' => by
    obtain ⟨link', hlink', heq'⟩ := hnext.settings link'' hlink''
    obtain ⟨link, hlink, heq⟩ := hfirst.settings link' hlink'
    rw [hfirst.options] at heq'
    exact ⟨link, hlink, heq'.trans heq⟩
  parameters := fun ps'' hps'' => by
    obtain ⟨ps', hps', hshape'⟩ := hnext.parameters ps'' hps''
    obtain ⟨ps, hps, hshape⟩ := hfirst.parameters ps' hps'
    exact ⟨ps, hps, hshape'.trans hshape⟩

theorem Sound.of_follows (hs : s.Sound) (hfollows : Follows (s, w) (s', w'))
    (hcursor : ∀ c, s'.cursor = some c → c.Tracks ∨ c.Shut)
    (hclosed : s'.link = none → s'.cursor = none) : s'.Sound where
  cursor := hcursor
  closed := hclosed
  maxRows := fun link' hlink' hnone => by
    have hnone' : s.options.maxRows = none := hfollows.options ▸ hnone
    obtain ⟨link, hlink, heq⟩ := hfollows.settings link' hlink'
    have hrows := congrArg Settings.maxRows heq
    simp only [Options.applyTo, hnone', Option.getD_none] at hrows
    rw [hrows]
    exact hs.maxRows link hlink hnone'
  named := fun ps' hps' hitems => by
    obtain ⟨ps, hps, hshape⟩ := hfollows.parameters ps' hps'
    rw [hshape.named]
    apply hs.named ps hps
    have hmap := hshape.items
    rwa [hitems, List.map_nil, eq_comm, List.map_eq_nil_iff] at hmap

theorem follows_onHandle {α : Type} {op : EStateM Error (Handle × Server) α} (s : Statement)
    (hop : ∀ h server, s.options.applyTo (leaves (op (h, server))).1.settings =
      s.options.applyTo h.settings) (w : ClientWorld) :
    Follows (s, w) (leaves (onHandle op (s, w))) := by
  cases hlink : s.link with
  | none =>
    rw [onHandle_of_closed hlink]
    exact .of_link rfl rfl
  | some link =>
    rw [leaves_onHandle hlink]
    exact .of_handle hlink (hop link.handle w.server)

theorem follows_closeCursor (s : Statement) (w : ClientWorld) :
    Follows (s, w) (closeCursor (s, w)) := by
  obtain ⟨link, _ | c, options⟩ := s <;> exact .of_link rfl rfl

/-- A handle that is given options may be given them again. -/
theorem settings_applyOptions (options : Options) (h : Handle) (server : Server) :
    options.applyTo (leaves (Handle.applyOptions options (h, server))).1.settings =
      options.applyTo h.settings := by
  rw [Handle.applyOptions_eq]
  split
  · rfl
  · exact Options.applyTo_applyTo ..

theorem follows_refresh (s : Statement) (w : ClientWorld) :
    Follows (s, w) (leaves (refresh (s, w))) := by
  rw [refresh, run_bind_modify, run_bind_get]
  apply (follows_closeCursor s w).trans
  apply follows_onHandle
  exact settings_applyOptions (closeCursor (s, w)).1.options

theorem follows_takeResult (execution : Execution) (s : Statement) (w : ClientWorld) :
    Follows (s, w) (leaves (takeResult execution (s, w))) := by
  obtain ⟨cursor, w', -, htake⟩ := takeResult_eq execution s w
  rw [htake]
  cases execution.count s.options <;> exact .of_link rfl rfl

theorem follows_execute (sql : String) (s : Statement) (w : ClientWorld) :
    Follows (s, w) (leaves (execute sql (s, w))) := by
  cases hlink : s.link with
  | none =>
    rw [execute_of_closed hlink]
    exact .of_link rfl rfl
  | some link =>
    obtain ⟨h, _ | ps⟩ := link
    · rw [execute_of_direct hlink]
      apply leaves_bind (R := Follows) .trans (follows_refresh s w)
      intro _ refreshed _
      have hexecute : Follows refreshed (leaves (onHandle (Handle.execute sql) refreshed)) := by
        apply follows_onHandle
        intro h' server
        rw [(Handle.gave_execute sql h' server).settings]
      apply leaves_bind (R := Follows) .trans hexecute
      intro execution executed _
      exact follows_takeResult execution executed.1 executed.2
    · rw [execute_of_prepared hlink]
      exact .of_link rfl rfl

theorem follows_executeWith (args : Arguments) (s : Statement) (w : ClientWorld) :
    Follows (s, w) (leaves (executeWith (args, s, w))).2 := by
  cases hlink : s.link with
  | none =>
    rw [executeWith_of_closed hlink]
    exact .of_link rfl rfl
  | some link =>
    obtain ⟨h, _ | ps⟩ := link
    · rw [executeWith_of_direct hlink]
      exact .of_link rfl rfl
    · obtain ⟨h', cursor, halike, hleaves⟩ := leaves_executeWith hlink args w
      have hshape := Parameters.shape_transact args s.options h w.server ps
      refine ⟨by rw [hleaves], by simp [hleaves], ?_, ?_⟩
      · intro link' hlink'
        rw [hleaves] at hlink'
        cases hlink'
        exact ⟨_, hlink, halike.settings⟩
      · intro ps' hps'
        rw [hleaves] at hps'
        cases hps'
        exact ⟨ps, by simp [parameters?, hlink], hshape⟩

theorem follows_batch (sqls : List String) (s : Statement) (w : ClientWorld) :
    Follows (s, w) (leaves (batch sqls (s, w))) := by
  rw [batch, run_bind_modify]
  apply (follows_closeCursor s w).trans
  apply follows_onHandle
  intro h server
  rw [(Handle.quiet_executeBatch sqls h server).settings]

theorem follows_serial (choice : SerialChoice) (s : Statement) (w : ClientWorld) :
    Follows (s, w) (leaves (serial choice (s, w))) := by
  apply follows_onHandle
  intro h server
  rw [(Handle.quiet_serial choice h server).settings]

/-- **What becomes of the cursor**: an operation leaves a new one that tracks its result set, or
the one there was, which may have been called. -/
theorem Sound.cursor_after (hs : s.Sound) {P : Cursor ResultSet → Prop}
    (htracks : ∀ c, c.Tracks → P c) (hcursor : ∀ c, s.cursor = some c → P c) (op : Operation)
    (w : ClientWorld) (hcall : ∀ call c, op = .cursor call → P c →
      P (leaves (Cursor.perform call (c, w))).1) :
    ∀ c, (after op (s, w)).1.cursor = some c → P c := by
  -- an operation that ends the result set leaves a new cursor
  have hends (hop : s.Ends op) : ∀ c, (after op (s, w)).1.cursor = some c → P c :=
    fun c hc => htracks c ((hs.settled_after hop w).cursor c hc)
  cases op with
  | configure later => exact hcursor
  | execute sql =>
    cases hlink : s.link with
    | none => exact hends (isPrepared_of_closed hlink)
    | some link =>
      obtain ⟨h, _ | ps⟩ := link
      · exact hends (isPrepared_of_link hlink)
      · simpa only [after, execute_of_prepared hlink, leaves_error] using hcursor
  | executeWith args =>
    cases hlink : s.link with
    | none => exact hends (.inr (by simp [isClosed, hlink]))
    | some link =>
      obtain ⟨h, _ | ps⟩ := link
      · simpa only [after, executeWith_of_direct hlink, leaves_error] using hcursor
      · exact hends (.inl (isPrepared_of_link hlink))
  | batch sqls | close => exact hends trivial
  | serial choice =>
    simpa only [after, cursor_serial] using hcursor
  | cursor call =>
    intro c' hc'
    rw [after, leaves_onCursor] at hc'
    cases hc : s.cursor with
    | none => simp [hc] at hc'
    | some c =>
      simp only [hc, Option.some.injEq] at hc'
      rw [← hc']
      exact hcall call c rfl (hcursor c hc)

theorem close_fst (s : Statement) (w : ClientWorld) :
    (close (s, w)).1 = { s with link := none, cursor := none } := by
  obtain ⟨_ | link, _ | c, options⟩ := s <;> rfl

theorem sound_of_closed (hlink : s.link = none) (hcursor : s.cursor = none) : s.Sound where
  cursor := by simp [hcursor]
  closed := fun _ => hcursor
  maxRows := by simp [hlink]
  named := by simp [parameters?, hlink]

/-- **A closed statement has no cursor**, and gets none by any operation. -/
theorem closed_after (hclosed : s.link = none → s.cursor = none) (op : Operation)
    (w : ClientWorld) (hlink : (after op (s, w)).1.link = none) :
    (after op (s, w)).1.cursor = none := by
  cases op with
  | configure later => exact hclosed hlink
  | execute sql =>
    have hbefore : s.link = none := (follows_execute sql s w).isClosed hlink
    rw [after, execute_of_closed hbefore]
    exact hclosed hbefore
  | executeWith args =>
    have hbefore : s.link = none := (follows_executeWith args s w).isClosed hlink
    rw [after, executeWith_of_closed hbefore]
    exact hclosed hbefore
  | batch sqls => exact cursor_batch sqls s w
  | serial choice =>
    exact (cursor_serial choice s w).trans (hclosed ((follows_serial choice s w).isClosed hlink))
  | cursor call =>
    rw [after, leaves_onCursor] at hlink ⊢
    cases hc : s.cursor with
    | none => exact hc
    | some c =>
      rw [hc] at hlink
      cases hc.symm.trans (hclosed hlink)
  | close => rw [after, close_fst]

/-- **Every operation keeps a statement sound**, whether it succeeds or fails. -/
theorem Sound.after (hs : s.Sound) (op : Operation) (w : ClientWorld) :
    (Statement.after op (s, w)).1.Sound := by
  have hcursor : ∀ c, (Statement.after op (s, w)).1.cursor = some c → c.Tracks ∨ c.Shut := by
    apply hs.cursor_after (fun _ => .inl) hs.cursor op w
    intro call c _ hc
    by_cases hcall : call = .close
    · subst hcall
      exact .inr (shut_close hc w)
    · exact (sound_perform hc hcall w).1
  have hclosed := closed_after hs.closed op w
  cases op with
  | configure later =>
    refine ⟨hcursor, hclosed, fun link hlink hnone => ?_, hs.named⟩
    have hmerged : (later.maxRows <|> s.options.maxRows) = none := hnone
    have hboth : later.maxRows = none ∧ s.options.maxRows = none := by simpa using hmerged
    exact hs.maxRows link hlink hboth.2
  | execute sql => exact hs.of_follows (follows_execute sql s w) hcursor hclosed
  | executeWith args => exact hs.of_follows (follows_executeWith args s w) hcursor hclosed
  | batch sqls => exact hs.of_follows (follows_batch sqls s w) hcursor hclosed
  | serial choice => exact hs.of_follows (follows_serial choice s w) hcursor hclosed
  | cursor call =>
    rw [Statement.after, leaves_onCursor] at hcursor hclosed ⊢
    cases hc : s.cursor with
    | none => exact hs
    | some c =>
      rw [hc] at hcursor hclosed
      exact ⟨hcursor, hclosed, hs.maxRows, hs.named⟩
  | close =>
    rw [Statement.after, close_fst]
    exact sound_of_closed rfl rfl

/-! ## New statements -/

/-- What comes of making a statement: no result set is concerned, and the statement is sound and
holds none. -/
structure Made (w : ClientWorld) (outcome : EStateM.Result Error ClientWorld Statement) : Prop where
  server : w.server.SameResultSets (leaves outcome).server
  sound : ∀ s, result? outcome = some s → s.Sound
  cursor : ∀ s, result? outcome = some s → s.cursor = none

theorem Made.of_error (hserver : w.server.SameResultSets w'.server) (e : Error) :
    Made w (.error e w') :=
  ⟨hserver, by simp, by simp⟩

theorem Made.of_ok (hserver : w.server.SameResultSets w'.server) (hs : s.Sound)
    (hcursor : s.cursor = none) : Made w (.ok s w') :=
  ⟨hserver, by simpa using hs, by simpa using hcursor⟩

/-- Nothing happened to result sets, and the handle has no settings but its own and the options. -/
structure Prepares (options : Options) (before after : Handle × Server) : Prop where
  server : before.2.SameResultSets after.2
  settings : options.applyTo after.1.settings = options.applyTo before.1.settings

theorem Prepares.trans {options : Options} {a b c : Handle × Server} (hfirst : Prepares options a b)
    (hnext : Prepares options b c) : Prepares options a c :=
  ⟨hfirst.server.trans hnext.server, hnext.settings.trans hfirst.settings⟩

/-- The rows are limited only if the options do. -/
theorem Prepares.maxRows {options : Options} {a b : Handle × Server} (h : Prepares options a b)
    (hnone : options.maxRows = none) : b.1.settings.maxRows = a.1.settings.maxRows := by
  have hrows := congrArg Settings.maxRows h.settings
  simpa only [Options.applyTo, hnone, Option.getD_none] using hrows

theorem prepares_applyOptions (options : Options) (h : Handle) (server : Server) :
    Prepares options (h, server) (leaves (Handle.applyOptions options (h, server))) := by
  refine ⟨?_, settings_applyOptions options h server⟩
  rw [Handle.applyOptions_eq]
  split <;> exact .refl server

theorem prepares_prepare (options : Options) (sql : String) (h : Handle) (server : Server) :
    Prepares options (h, server) (leaves (Handle.prepare sql (h, server))) := by
  obtain ⟨_, hleaves⟩ := Handle.leaves_prepare sql h server
  rw [hleaves]
  exact ⟨.refl server, rfl⟩

theorem prepares_prepareOn (sql : String) (options : Options) (h : Handle) (server : Server) :
    Prepares options (h, server) (leaves (prepareOn sql options (h, server))) := by
  apply leaves_bind (R := Prepares options) .trans (prepares_applyOptions options h server)
  intro _ applied _
  apply leaves_bind (R := Prepares options) .trans
    (prepares_prepare options sql applied.1 applied.2)
  intro ds prepared _
  cases Parameters.ofDescriptions .unicode sql ds <;> exact ⟨.refl prepared.2, rfl⟩

/-- Parameters use names only if there are any. -/
theorem named_of_prepareOn {sql : String} {options : Options} {h h' : Handle}
    {server server' : Server} {ps : Parameters}
    (hprepare : prepareOn sql options (h, server) = .ok ps (h', server'))
    (hitems : ps.items = []) : ps.named = false := by
  rw [prepareOn] at hprepare
  cases happly : Handle.applyOptions options (h, server) with
  | error e state =>
    rw [run_bind_error happly] at hprepare
    cases hprepare
  | ok _ state =>
    rw [run_bind_ok happly] at hprepare
    cases hdescribe : Handle.prepare sql state with
    | error e state' =>
      rw [run_bind_error hdescribe] at hprepare
      cases hprepare
    | ok ds state' =>
      rw [run_bind_ok hdescribe] at hprepare
      cases hps : Parameters.ofDescriptions .unicode sql ds with
      | error e =>
        simp only [hps] at hprepare
        cases hprepare
      | ok ps' =>
        simp only [hps] at hprepare
        cases hprepare
        obtain ⟨markers, -, hrest⟩ := bind_eq_ok hps
        obtain ⟨items, -, hmade⟩ := bind_eq_ok hrest
        cases hmade
        obtain rfl : items = [] := hitems
        rfl

theorem sameResultSets_setUp {α : Type} {h : Handle} {op : EStateM Error (Handle × Server) α}
    (hop : w.server.SameResultSets (leaves (op (h, w.server))).2) :
    w.server.SameResultSets (leaves (setUp h op w)).server := by
  simp only [setUp]
  cases hresult : op (h, w.server) with
  | ok a state =>
    rw [hresult] at hop
    exact hop
  | error e state =>
    rw [hresult] at hop
    exact hop.trans (sameResultSets_releaseHandle state.1 { w with server := state.2 })

theorem setUp_eq_ok {α : Type} {h h' : Handle} {op : EStateM Error (Handle × Server) α} {a : α}
    (hsetUp : setUp h op w = .ok (a, h') w') : op (h, w.server) = .ok a (h', w'.server) := by
  simp only [setUp] at hsetUp
  cases hresult : op (h, w.server) with
  | error e state =>
    rw [hresult] at hsetUp
    cases hsetUp
  | ok a' state =>
    rw [hresult] at hsetUp
    cases hsetUp
    rfl

/-- A direct statement on a handle that does not limit the rows. -/
theorem made_new {h : Handle} (hrows : h.settings.maxRows = 0) (options : Options)
    (w : ClientWorld) : Made w (new h options w) := by
  have hprepares := prepares_applyOptions options h w.server
  have hserver := sameResultSets_setUp (w := w) hprepares.server
  rw [new]
  cases hsetUp : setUp h (Handle.applyOptions options) w with
  | error e w' =>
    rw [hsetUp] at hserver
    rw [run_bind_error hsetUp]
    exact .of_error hserver e
  | ok made w' =>
    obtain ⟨_, h'⟩ := made
    rw [hsetUp] at hserver
    rw [setUp_eq_ok hsetUp] at hprepares
    rw [run_bind_ok hsetUp]
    apply Made.of_ok hserver _ rfl
    refine ⟨nofun, fun _ => rfl, ?_, nofun⟩
    rintro link ⟨⟩ hnone
    exact (hprepares.maxRows hnone).trans hrows

/-- A prepared statement on a handle that does not limit the rows. -/
theorem made_prepare {h : Handle} (hrows : h.settings.maxRows = 0) (sql : String)
    (options : Options) (w : ClientWorld) : Made w (prepare h sql options w) := by
  have hprepares := prepares_prepareOn sql options h w.server
  have hserver := sameResultSets_setUp (w := w) hprepares.server
  rw [prepare]
  cases hsetUp : setUp h (prepareOn sql options) w with
  | error e w' =>
    rw [hsetUp] at hserver
    rw [run_bind_error hsetUp]
    exact .of_error hserver e
  | ok made w' =>
    obtain ⟨ps, h'⟩ := made
    rw [hsetUp] at hserver
    rw [setUp_eq_ok hsetUp] at hprepares
    rw [run_bind_ok hsetUp]
    apply Made.of_ok hserver _ rfl
    refine ⟨nofun, fun _ => rfl, ?_, ?_⟩
    · rintro link ⟨⟩ hnone
      exact (hprepares.maxRows hnone).trans hrows
    · rintro ps' ⟨⟩ hitems
      exact named_of_prepareOn (setUp_eq_ok hsetUp) hitems

end Statement
end SqlClient
