import SqlClient.Proofs.StatementOperations

/-! # What a statement has from the server

A statement has one handle from the server for as long as it is not closed.  Its `lease` is this
handle without the serial keys, which come and go, together with whether the statement is prepared.

Most steps of an operation keep the lease, and give no handle back (`KeepsLease`).  So the lease
changes where an execution gives the handle the options of the statement (`lease_after`), and ends
where the statement is closed (`releases_close`).  No step but a request on the handle adds to what
the server has written down (`Server.Unasked`).
-/
namespace SqlClient

open Scripted

/-! ## Beside requests -/

namespace Scripted

/-- **Nothing was asked of a statement handle**: only what concerns result sets and large objects
may have changed. -/
def Server.Unasked (s s' : Server) : Prop :=
  ∃ settings closedResultSets closedLobs contents,
    s' = { s with settings, closedResultSets, closedLobs, contents }

namespace Server.Unasked

variable {s s' s'' : Server}

theorem refl (s : Server) : s.Unasked s := ⟨_, _, _, _, rfl⟩

theorem trans (hfirst : s.Unasked s') (hnext : s'.Unasked s'') : s.Unasked s'' := by
  obtain ⟨_, _, _, _, rfl⟩ := hfirst
  obtain ⟨_, _, _, _, rfl⟩ := hnext
  exact ⟨_, _, _, _, rfl⟩

theorem executed (h : s.Unasked s') : s'.executed = s.executed := by
  obtain ⟨_, _, _, _, rfl⟩ := h
  rfl

theorem bound (h : s.Unasked s') : s'.bound = s.bound := by
  obtain ⟨_, _, _, _, rfl⟩ := h
  rfl

theorem releasedStatements (h : s.Unasked s') : s'.releasedStatements = s.releasedStatements := by
  obtain ⟨_, _, _, _, rfl⟩ := h
  rfl

theorem script? (h : s.Unasked s') (sql : String) : s'.script? sql = s.script? sql := by
  obtain ⟨_, _, _, _, rfl⟩ := h
  rfl

end Server.Unasked

theorem Server.OnlyLobs.unasked {s s' : Server} (h : s.OnlyLobs s') : s.Unasked s' := by
  obtain ⟨_, _, rfl⟩ := h
  exact ⟨_, _, _, _, rfl⟩

end Scripted

theorem World.Closes.unasked {w w' : ClientWorld} (h : w.Closes w') :
    w.server.Unasked w'.server := by
  obtain ⟨_, rfl⟩ := h
  exact ⟨_, _, _, _, rfl⟩

namespace Cursor

theorem unasked_setFetchSize (size : Nat) (c : Cursor ResultSet) (w : ClientWorld) :
    w.server.Unasked (leaves (setFetchSize size (c, w))).2.server := by
  have hremote : setFetchSize size (c, w) = onServer (ResultSet.setFetchSize size) (c, w) := rfl
  rw [hremote, onServer]
  cases hclosed : c.rows.isClosed <;>
    simp only [ResultSet.setFetchSize, ResultSet.whileOpen, hclosed] <;> exact ⟨_, _, _, _, rfl⟩

/-- **No call on a cursor** asks anything of a statement handle. -/
theorem unasked_perform (call : Call) (c : Cursor ResultSet) (w : ClientWorld) :
    w.server.Unasked (leaves (perform call (c, w))).2.server := by
  cases call with
  | seek move =>
    rw [perform, leaves_bind_pure, leaves_seek]
    exact .refl w.server
  | fetch move =>
    rw [perform, leaves_bind_pure]
    exact (onlyLobs_fetch move c w).unasked
  | current =>
    rw [perform, leaves_bind_pure]
    exact (read_current c w).server.unasked
  | count => exact .refl w.server
  | setFetchSize size =>
    rw [perform, leaves_bind_pure]
    exact unasked_setFetchSize size c w
  | close => exact (closes_close c w).unasked

end Cursor

namespace Statement

variable {s : Statement} {w : ClientWorld} {x y z : Statement × ClientWorld} {h : Handle}
  {p : Option Parameters} {ps : Parameters}

theorem unasked_openCursor (options : Options) (rows : ResultSet) (w : ClientWorld) :
    w.server.Unasked (leaves (openCursor options rows w)).server := by
  have hopened : w.server.Unasked (leaves (Cursor.openOn rows w)).server := by
    rw [Cursor.openOn_eq]
    split
    · exact (w.closes_closeRows rows).unasked
    · exact (w.closes_closeRows rows).unasked
    · exact .refl w.server
  rw [openCursor]
  cases hopen : Cursor.openOn rows w with
  | error e w' =>
    rw [hopen] at hopened
    exact hopened
  | ok c w' =>
    rw [hopen] at hopened
    cases options.fetchSize with
    | none => exact hopened
    | some size =>
      have hset := hopened.trans (c.unasked_setFetchSize size w')
      simp only
      cases hresult : Cursor.setFetchSize size (c, w') with
      | ok _ state =>
        rw [hresult] at hset
        exact hset
      | error e state =>
        rw [hresult] at hset
        exact hset.trans (state.1.closes_close state.2).unasked

/-! ## Leases -/

/-- The handle of a statement without its serial keys, and whether the statement is prepared. -/
def lease (s : Statement) : Option (Handle × Bool) :=
  s.link.map fun link => ({ link.handle with serials := none }, link.parameters.isSome)

/-- The lease after the handle was given the options of the statement. -/
def leaseGiven (s : Statement) : Option (Handle × Bool) :=
  s.lease.map fun (handle, prepared) => (handle.given s.options, prepared)

/-- The handle of the statement was not given back. -/
def LiveHandle (s : Statement) : Prop := ∀ link, s.link = some link → link.handle.isReleased = false

theorem lease_of_link (hlink : s.link = some ⟨h, p⟩) :
    s.lease = some ({ h with serials := none }, p.isSome) := by
  rw [lease, hlink, Option.map_some]

/-- **The lease is as it was**, and no handle was given back. -/
structure KeepsLease (x y : Statement × ClientWorld) : Prop where
  lease : y.1.lease = x.1.lease
  released : y.2.server.releasedStatements = x.2.server.releasedStatements

theorem KeepsLease.refl (x : Statement × ClientWorld) : KeepsLease x x := ⟨rfl, rfl⟩

theorem KeepsLease.trans (hfirst : KeepsLease x y) (hnext : KeepsLease y z) : KeepsLease x z :=
  ⟨hnext.lease.trans hfirst.lease, hnext.released.trans hfirst.released⟩

theorem KeepsLease.of_unasked (hlink : y.1.link = x.1.link)
    (hserver : x.2.server.Unasked y.2.server) : KeepsLease x y :=
  ⟨by rw [Statement.lease, Statement.lease, hlink], hserver.releasedStatements⟩

/-- A request on the handle changes nothing of the lease. -/
theorem KeepsLease.of_requested {state : Handle × Server} {p' : Option Parameters}
    (hlink : s.link = some ⟨h, p⟩) (hrequested : Handle.Requested (h, w.server) state)
    (hprepared : p'.isSome = p.isSome) :
    KeepsLease (s, w) ({ s with link := some ⟨state.1, p'⟩ }, { w with server := state.2 }) := by
  refine ⟨?_, hrequested.releasedStatements⟩
  obtain ⟨serials, heq⟩ := hrequested.handle
  rw [lease_of_link hlink, lease_of_link (h := state.1) (p := p') rfl, heq, hprepared]

/-! ## One step after the other -/

theorem keepsLease_closeCursor (x : Statement × ClientWorld) : KeepsLease x (closeCursor x) := by
  obtain ⟨w', hcloses, hclose⟩ := closeCursor_eq x.1 x.2
  rw [hclose]
  exact .of_unasked rfl hcloses.unasked

theorem keepsLease_onHandle {α : Type} {op : EStateM Error (Handle × Server) α}
    (hop : ∀ state, Handle.Requested state (leaves (op state))) (x : Statement × ClientWorld) :
    KeepsLease x (leaves (onHandle op x)) := by
  obtain ⟨s, w⟩ := x
  cases hlink : s.link with
  | none =>
    rw [onHandle_of_closed hlink]
    exact .refl _
  | some link =>
    rw [leaves_onHandle hlink]
    exact .of_requested hlink (hop (link.handle, w.server)) rfl

theorem keepsLease_bind (args : Arguments) (x : Statement × ClientWorld) :
    KeepsLease x (leaves (bind args x)) := by
  obtain ⟨⟨_ | ⟨h, _ | ps⟩, cursor, options⟩, w⟩ := x
  · exact .refl _
  · exact .refl _
  · simp only [bind]
    cases Parameters.bind args ps <;> exact ⟨rfl, rfl⟩

theorem keepsLease_executeBound (x : Statement × ClientWorld) :
    KeepsLease x (leaves (executeBound x)) := by
  obtain ⟨⟨_ | ⟨h, _ | ps⟩, cursor, options⟩, w⟩ := x
  · exact .refl _
  · exact .refl _
  · have hrequested := Handle.requested_executePrepared ps.bindings (h, w.server)
    simp only [executeBound]
    cases hresult : Handle.executePrepared (ps.bindings, h, w.server) <;>
      rw [hresult] at hrequested <;> exact .of_requested rfl hrequested rfl

theorem unasked_takeResult (execution : Execution) (x : Statement × ClientWorld) :
    (leaves (takeResult execution x)).1.link = x.1.link ∧
      x.2.server.Unasked (leaves (takeResult execution x)).2.server := by
  obtain ⟨s, w⟩ := x
  cases execution with
  | update rowsAffected => exact ⟨rfl, .refl w.server⟩
  | query rows =>
    have hopened := unasked_openCursor s.options rows w
    simp only [takeResult]
    cases hopen : openCursor s.options rows w <;> rw [hopen] at hopened <;> exact ⟨rfl, hopened⟩

theorem unasked_writeBack (args : Arguments) (s : Statement) (w : ClientWorld) :
    w.server.Unasked (leaves (writeBack (args, s, w))).2.2.server := by
  simp only [writeBack]
  split
  · exact .refl w.server
  · split
    · exact .refl w.server
    · split
      · exact .refl w.server
      · exact (w.onlyLobs_releaseAll _).unasked

/-- **The options of the statement reach its handle** before it is executed. -/
theorem refresh_of_live (hlink : s.link = some ⟨h, p⟩) (hlive : h.isReleased = false)
    (w : ClientWorld) :
    ∃ w', w.Closes w' ∧ refresh (s, w) =
      .ok () ({ s with link := some ⟨h.given s.options, p⟩, cursor := none }, w') := by
  obtain ⟨w', hcloses, hrefresh⟩ := refresh_eq hlink w
  rw [hlive, Bool.false_and, if_neg Bool.false_ne_true] at hrefresh
  exact ⟨w', hcloses, hrefresh⟩

/-- **An execution gives the handle the options**, whatever becomes of it then. -/
structure GivesLease (x y : Statement × ClientWorld) : Prop where
  lease : y.1.lease = x.1.leaseGiven
  released : y.2.server.releasedStatements = x.2.server.releasedStatements

theorem GivesLease.of_given {w' : ClientWorld} (hlink : s.link = some ⟨h, p⟩)
    (hserver : w.server.Unasked w'.server)
    (hkeeps : KeepsLease ({ s with link := some ⟨h.given s.options, p⟩, cursor := none }, w') y) :
    GivesLease (s, w) y := by
  refine ⟨?_, hkeeps.released.trans hserver.releasedStatements⟩
  rw [hkeeps.lease, leaseGiven, lease_of_link hlink, lease_of_link rfl, Option.map_some]
  rfl

theorem givesLease_execute (hlink : s.link = some ⟨h, none⟩) (hlive : h.isReleased = false)
    (sql : String) (w : ClientWorld) : GivesLease (s, w) (leaves (execute sql (s, w))) := by
  obtain ⟨w', hcloses, hrefresh⟩ := refresh_of_live hlink hlive w
  rw [execute_of_direct hlink, run_bind_ok hrefresh]
  apply GivesLease.of_given hlink hcloses.unasked
  apply leaves_bind (R := KeepsLease) .trans
    (keepsLease_onHandle (Handle.requested_execute sql) _)
  intro execution executed _
  obtain ⟨hlink', hserver'⟩ := unasked_takeResult execution executed
  exact .of_unasked hlink' hserver'

theorem givesLease_perform (hlink : s.link = some ⟨h, some ps⟩) (hlive : h.isReleased = false)
    (args : Arguments) (w : ClientWorld) : GivesLease (s, w) (leaves (perform args (s, w))) := by
  obtain ⟨w', hcloses, hrefresh⟩ := refresh_of_live hlink hlive w
  rw [perform, run_bind_ok hrefresh]
  apply GivesLease.of_given hlink hcloses.unasked
  apply leaves_bind (R := KeepsLease) .trans (keepsLease_bind args _)
  intro _ bound _
  apply leaves_bind (R := KeepsLease) .trans (keepsLease_executeBound bound)
  intro execution executed _
  obtain ⟨hlink', hserver'⟩ := unasked_takeResult execution executed
  exact .of_unasked hlink' hserver'

theorem givesLease_executeWith (hlink : s.link = some ⟨h, some ps⟩) (hlive : h.isReleased = false)
    (args : Arguments) (w : ClientWorld) :
    GivesLease (s, w) (leaves (executeWith (args, s, w))).2 := by
  have hgives := givesLease_perform hlink hlive args w
  cases hperform : perform args (s, w) with
  | error e state =>
    rw [hperform] at hgives
    rw [executeWith_of_error hlink hperform]
    exact hgives
  | ok count state =>
    obtain ⟨s', w'⟩ := state
    rw [hperform] at hgives
    rw [executeWith_of_result hlink hperform, leaves_bind_pure]
    have hserver := unasked_writeBack args s' w'
    refine ⟨?_, hserver.releasedStatements.trans hgives.released⟩
    rw [(sameResultSets_writeBack args s' w').1]
    exact hgives.lease

theorem keepsLease_batch (sqls : List String) (x : Statement × ClientWorld) :
    KeepsLease x (leaves (batch sqls x)) := by
  rw [batch, run_bind_modify]
  exact (keepsLease_closeCursor x).trans
    (keepsLease_onHandle (Handle.requested_executeBatch sqls) _)

theorem keepsLease_cursor (call : Cursor.Call) (s : Statement) (w : ClientWorld) :
    KeepsLease (s, w) (leaves (onCursor (Cursor.perform call) (s, w))) := by
  rw [leaves_onCursor]
  cases s.cursor with
  | none => exact .refl _
  | some c => exact .of_unasked rfl (c.unasked_perform call w)

/-! ## Operations -/

/-- The operation gives the handle the options of the statement first: it executes a SQL text on a
direct statement, or a prepared statement with arguments. -/
def Operation.gives (prepared : Bool) : Operation → Bool
  | .execute _ => !prepared
  | .executeWith _ => prepared
  | _ => false

/-- A statement that is executed in its form is given its lease again, and one that is not is
refused. -/
theorem lease_execute (hs : s.LiveHandle) (sql : String) (w : ClientWorld) :
    (leaves (execute sql (s, w))).1.lease =
        (if s.isPrepared then s.lease else s.leaseGiven) ∧
      (leaves (execute sql (s, w))).2.server.releasedStatements = w.server.releasedStatements := by
  cases hlink : s.link with
  | none =>
    have hlease : s.lease = none := by rw [lease, hlink, Option.map_none]
    rw [execute_of_closed hlink, leaseGiven, hlease]
    exact ⟨by simp [hlease], rfl⟩
  | some link =>
    obtain ⟨h, _ | ps⟩ := link
    · have hgives := givesLease_execute hlink (hs _ hlink) sql w
      rw [isPrepared_of_link hlink]
      exact ⟨hgives.lease, hgives.released⟩
    · rw [execute_of_prepared hlink, isPrepared_of_link hlink]
      exact ⟨rfl, rfl⟩

theorem lease_executeWith (hs : s.LiveHandle) (args : Arguments) (w : ClientWorld) :
    (leaves (executeWith (args, s, w))).2.1.lease =
        (if s.isPrepared then s.leaseGiven else s.lease) ∧
      (leaves (executeWith (args, s, w))).2.2.server.releasedStatements =
        w.server.releasedStatements := by
  cases hlink : s.link with
  | none =>
    rw [executeWith_of_closed hlink, isPrepared_of_closed hlink]
    exact ⟨rfl, rfl⟩
  | some link =>
    obtain ⟨h, _ | ps⟩ := link
    · rw [executeWith_of_direct hlink, isPrepared_of_link hlink]
      exact ⟨rfl, rfl⟩
    · have hgives := givesLease_executeWith hlink (hs _ hlink) args w
      rw [isPrepared_of_link hlink]
      exact ⟨hgives.lease, hgives.released⟩

/-- **What an operation does to the lease** of a statement that it does not close. -/
theorem lease_after (hs : s.LiveHandle) {op : Operation} (hop : op ≠ .close) (w : ClientWorld) :
    (after op (s, w)).1.lease = (if op.gives s.isPrepared then s.leaseGiven else s.lease) ∧
      (after op (s, w)).2.server.releasedStatements = w.server.releasedStatements := by
  cases op with
  | configure later => exact ⟨rfl, rfl⟩
  | execute sql =>
    obtain ⟨hlease, hreleased⟩ := lease_execute hs sql w
    refine ⟨hlease.trans ?_, hreleased⟩
    cases hprepared : s.isPrepared <;> rfl
  | executeWith args => exact lease_executeWith hs args w
  | batch sqls =>
    have hkeeps := keepsLease_batch sqls (s, w)
    exact ⟨hkeeps.lease, hkeeps.released⟩
  | serial choice =>
    have hkeeps := keepsLease_onHandle (Handle.requested_serial choice) (s, w)
    exact ⟨hkeeps.lease, hkeeps.released⟩
  | cursor call =>
    have hkeeps := keepsLease_cursor call s w
    exact ⟨hkeeps.lease, hkeeps.released⟩
  | close => exact absurd rfl hop

theorem liveHandle_iff : s.LiveHandle ↔
    ∀ handle prepared, s.lease = some (handle, prepared) → handle.isReleased = false := by
  constructor
  · intro hs handle prepared hlease
    obtain ⟨link, hlink, heq⟩ := Option.map_eq_some_iff.mp hlease
    cases heq
    exact hs link hlink
  · intro hs link hlink
    have hlive := hs _ _ (lease_of_link hlink)
    exact hlive

theorem liveHandle_of_closed (hlink : s.link = none) : s.LiveHandle := by
  intro link hsome
  rw [hlink] at hsome
  cases hsome

theorem LiveHandle.after (hs : s.LiveHandle) (op : Operation) (w : ClientWorld) :
    (Statement.after op (s, w)).1.LiveHandle := by
  by_cases hop : op = .close
  · subst hop
    rw [Statement.after, close_fst]
    exact liveHandle_of_closed rfl
  · obtain ⟨hlease, -⟩ := lease_after hs hop w
    rw [liveHandle_iff] at hs ⊢
    rw [hlease]
    split
    · intro handle prepared hgiven
      obtain ⟨own, hown, heq⟩ := Option.map_eq_some_iff.mp hgiven
      cases heq
      have hlive := hs own.1 own.2 hown
      exact hlive
    · exact hs

/-! ## The end of a lease -/

/-- The number of handles that a statement has: one, until it is closed. -/
def leases (s : Statement) : Nat := (!s.isClosed).toNat

theorem leases_of_closed (hlink : s.link = none) : s.leases = 0 := by
  rw [leases, isClosed, hlink]
  rfl

theorem leases_of_link {link : Link} (hlink : s.link = some link) : s.leases = 1 := by
  rw [leases, isClosed, hlink]
  rfl

theorem isClosed_eq (s : Statement) : s.isClosed = s.lease.isNone := by
  rw [isClosed, lease, Option.isNone_map]

/-- An operation that does not close a statement leaves it its handle. -/
theorem leases_after (hs : s.LiveHandle) {op : Operation} (hop : op ≠ .close) (w : ClientWorld) :
    (after op (s, w)).1.leases = s.leases := by
  rw [leases, isClosed_eq, (lease_after hs hop w).1, leases, isClosed_eq]
  split
  · rw [leaseGiven, Option.isNone_map]
  · rfl

/-- **Closing a statement gives its handle back**, once. -/
theorem releases_close (hs : s.LiveHandle) (w : ClientWorld) :
    (close (s, w)).2.server.releasedStatements = w.server.releasedStatements + s.leases := by
  obtain ⟨w', hcloses, hclose⟩ := closeCursor_eq s w
  have hserver := hcloses.unasked.releasedStatements
  rw [close, hclose]
  cases hlink : s.link with
  | none =>
    rw [leases_of_closed hlink]
    exact hserver
  | some link =>
    simp only [releaseHandle, Handle.release, hs link hlink]
    rw [leases_of_link hlink]
    exact congrArg (· + 1) hserver

/-- The operation closes the statement. -/
def Operation.closes : Operation → Bool
  | .close => true
  | _ => false

/-- **An operation gives a handle back only if it closes the statement**, which has none then. -/
theorem releases_after (hs : s.LiveHandle) (op : Operation) (w : ClientWorld) :
    let ended := if op.closes then s.leases else 0
    (after op (s, w)).2.server.releasedStatements = w.server.releasedStatements + ended ∧
      ended + (after op (s, w)).1.leases = s.leases := by
  by_cases hop : op = .close
  · subst hop
    have hclosed : (close (s, w)).1.link = none := by rw [close_fst]
    exact ⟨releases_close hs w, congrArg (s.leases + ·) (leases_of_closed hclosed)⟩
  · have hcloses : op.closes = false := by
      cases op <;> first | rfl | exact absurd rfl hop
    simp only [hcloses]
    exact ⟨(lease_after hs hop w).2, (Nat.zero_add _).trans (leases_after hs hop w)⟩

/-! ## The start of a lease -/

/-- A world in which one more handle was given back. -/
def givenBack (w : ClientWorld) : ClientWorld :=
  { w with server := { w.server with releasedStatements := w.server.releasedStatements + 1 } }

theorem releaseHandle_of_live (hlive : h.isReleased = false) (w : ClientWorld) :
    releaseHandle h w = givenBack w := by
  simp only [releaseHandle, Handle.release, hlive]
  rfl

theorem applyOptions_of_live (hlive : h.isReleased = false) (options : Options) (server : Server) :
    Handle.applyOptions options (h, server) = .ok () (h.given options, server) := by
  rw [Handle.applyOptions_eq, hlive]
  rfl

/-- **A direct statement has its handle**, with the options. -/
theorem new_of_live (hlive : h.isReleased = false) (options : Options) (w : ClientWorld) :
    new h options w = .ok ⟨some ⟨h.given options, none⟩, none, options⟩ w := by
  have hsetUp : setUp h (Handle.applyOptions options) w = .ok ((), h.given options) w := by
    rw [setUp, applyOptions_of_live hlive]
  rw [new, run_bind_ok hsetUp]
  rfl

/-- The parameters that a SQL text is prepared with: those of its script, paired with its
markers. -/
def parametersFor (sql : String) (server : Server) : Except Error Parameters :=
  match server.script? sql with
  | .error e => .error e
  | .ok script => Parameters.ofDescriptions .unicode sql script.parameters

theorem prepareOn_of_ok (hlive : h.isReleased = false) {sql : String} {server : Server}
    (hps : parametersFor sql server = .ok ps) (options : Options) :
    prepareOn sql options (h, server) =
      .ok ps ({ h.given options with prepared := some sql }, server) := by
  have hprepare := Handle.prepare_of_live (h := h.given options) hlive sql server
  rw [prepareOn, run_bind_ok (applyOptions_of_live hlive options server)]
  cases hscript : server.script? sql with
  | error e =>
    rw [parametersFor, hscript] at hps
    cases hps
  | ok script =>
    rw [hscript] at hprepare
    simp only [parametersFor, hscript] at hps
    rw [run_bind_ok hprepare, hps]
    rfl

/-- A handle that cannot be prepared is still live. -/
theorem prepareOn_of_error (hlive : h.isReleased = false) {sql : String} {server : Server}
    {e : Error} (hps : parametersFor sql server = .error e) (options : Options) :
    ∃ h', h'.isReleased = false ∧ prepareOn sql options (h, server) = .error e (h', server) := by
  have hprepare := Handle.prepare_of_live (h := h.given options) hlive sql server
  rw [prepareOn, run_bind_ok (applyOptions_of_live hlive options server)]
  cases hscript : server.script? sql with
  | error e' =>
    rw [hscript] at hprepare
    simp only [parametersFor, hscript] at hps
    cases hps
    exact ⟨h.given options, hlive, run_bind_error hprepare⟩
  | ok script =>
    rw [hscript] at hprepare
    simp only [parametersFor, hscript] at hps
    rw [run_bind_ok hprepare, hps]
    exact ⟨{ h.given options with prepared := some sql }, hlive, rfl⟩

/-- **A prepared statement has its handle**, with the options.  It is given back where there are no
parameters to prepare the text with. -/
theorem prepare_of_live (hlive : h.isReleased = false) (sql : String) (options : Options)
    (w : ClientWorld) :
    prepare h sql options w =
      match parametersFor sql w.server with
      | .ok ps =>
        .ok ⟨some ⟨{ h.given options with prepared := some sql }, some ps⟩, none, options⟩ w
      | .error e => .error e (givenBack w) := by
  rw [prepare]
  cases hps : parametersFor sql w.server with
  | ok ps =>
    have hsetUp : setUp h (prepareOn sql options) w =
        .ok (ps, { h.given options with prepared := some sql }) w := by
      rw [setUp, prepareOn_of_ok hlive hps]
    rw [run_bind_ok hsetUp]
    rfl
  | error e =>
    obtain ⟨h', hlive', hprepareOn⟩ := prepareOn_of_error hlive hps options
    have hsetUp : setUp h (prepareOn sql options) w = .error e (givenBack w) := by
      rw [setUp, hprepareOn]
      exact congrArg (EStateM.Result.error e) (releaseHandle_of_live hlive' w)
    rw [run_bind_error hsetUp]

/-- A handle that was given back cannot be prepared. -/
theorem prepareOn_of_released (hreleased : h.isReleased = true) (sql : String) (options : Options)
    (server : Server) : ∃ e state, prepareOn sql options (h, server) = .error e state := by
  have happly := Handle.applyOptions_eq options h server
  rw [hreleased, Bool.true_and] at happly
  rw [prepareOn]
  by_cases hconcern : options.concernHandle = true
  · rw [if_pos hconcern] at happly
    exact ⟨_, _, run_bind_error happly⟩
  · rw [if_neg hconcern] at happly
    have hprepare := Handle.prepare_of_released (h := h.given options) hreleased sql server
    rw [run_bind_ok happly]
    exact ⟨_, _, run_bind_error hprepare⟩

/-- A prepared statement comes from a live handle, and from parameters for its text. -/
theorem prepare_eq_ok {sql : String} {options : Options} {w w' : ClientWorld}
    (hprepare : prepare h sql options w = .ok s w') :
    h.isReleased = false ∧ w' = w ∧ ∃ ps, parametersFor sql w.server = .ok ps ∧
      s = ⟨some ⟨{ h.given options with prepared := some sql }, some ps⟩, none, options⟩ := by
  cases hreleased : h.isReleased with
  | true =>
    obtain ⟨e, state, herror⟩ := prepareOn_of_released hreleased sql options w.server
    have hsetUp : setUp h (prepareOn sql options) w =
        .error e (releaseHandle state.1 { w with server := state.2 }) := by
      rw [setUp, herror]
    rw [prepare, run_bind_error hsetUp] at hprepare
    cases hprepare
  | false =>
    rw [prepare_of_live hreleased] at hprepare
    cases hps : parametersFor sql w.server with
    | error e =>
      rw [hps] at hprepare
      cases hprepare
    | ok ps =>
      rw [hps] at hprepare
      cases hprepare
      exact ⟨rfl, rfl, ps, rfl, rfl⟩

end Statement
end SqlClient
