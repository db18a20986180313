import SqlClient.Proofs.OptionsInEffect
import SqlClient.Proofs.WorkspaceRuns

/-! # Every handle is given back once

A statement takes over a fresh handle of the server when it is made.  The handle is given back if
the statement cannot be made, or else when the statement is closed or dropped, whichever comes
first.  What a command ends (`Workspace.ended`) is read off the statements and the report of the
command alone; the server counts just that (`Returns`, `returns_step`), and over any run the handles
that ended and those of the statements that are not closed are all that were taken
(`run_returns_handles`).
-/
namespace SqlClient

open Scripted (Server Handle)

/-! ## Handles that a command takes and ends -/

/-- The command does not make a statement on a handle that was given back before. -/
def Command.isFresh : Command → Bool
  | .create _ _ released | .prepare _ _ _ released => !released
  | _ => true

/-- The command makes a statement, and takes a handle for it. -/
def Command.takesHandle : Command → Bool
  | .create .. | .prepare .. => true
  | _ => false

/-- Something failed. -/
def Report.isFailed : Report → Bool
  | .failed _ => true
  | _ => false

namespace Workspace

/-- The handles of the statement of a name: one, if it is there and not closed. -/
def leasesOf (ws : Workspace) (name : String) : Nat :=
  (ws.statements.get? name).elim 0 Statement.leases

/-- **The handles that end with a command**: that of a statement which could not be made, or of a
statement which is closed, dropped, or loses its name to a new one. -/
def ended (ws : Workspace) (c : Command) : Nat :=
  match c with
  | .create name .. | .prepare name .. =>
    if (ws.step c).1.isFailed then 1 else ws.leasesOf name
  | .close name | .drop name => ws.leasesOf name
  | _ => 0

/-- The handles that end in a run. -/
def endedIn (ws : Workspace) : List Command → Nat
  | [] => 0
  | c :: rest => ws.ended c + (ws.step c).2.endedIn rest

/-- The handles of the statements that are not closed. -/
def leases (ws : Workspace) : Nat := ws.statements.total Statement.leases

/-- **What a workspace keeps**: its statements have names of their own, and none of them has a
handle that was given back. -/
structure Leased (ws : Workspace) : Prop where
  names : ws.statements.names.Nodup
  live : ∀ s ∈ ws.statements.things, s.LiveHandle

/-- **A command gives back what it ends**, and what it takes is ended or is left with the
statements. -/
structure Returns (ws : Workspace) (c : Command) (ws' : Workspace) : Prop where
  leased : ws'.Leased
  released : ws'.world.server.releasedStatements =
    ws.world.server.releasedStatements + ws.ended c
  taken : ws.ended c + ws'.leases = ws.leases + c.takesHandle.toNat

variable {ws ws' : Workspace} {c : Command} {name : String} {s : Statement}

theorem Leased.live_of_get? (h : ws.Leased) (found : ws.statements.get? name = some s) :
    s.LiveHandle :=
  h.live s (Named.mem_things_of_get? found)

theorem leasesOf_of_some (found : ws.statements.get? name = some s) :
    ws.leasesOf name = s.leases := by
  rw [leasesOf, found, Option.elim_some]

theorem leasesOf_of_none (absent : ws.statements.get? name = none) : ws.leasesOf name = 0 := by
  rw [leasesOf, absent, Option.elim_none]

/-- A command that ends nothing leaves the statements their handles. -/
theorem Returns.of_same (h : ws.Leased) (hended : ws.ended c = 0) (htakes : c.takesHandle = false)
    (hstatements : ws'.statements = ws.statements)
    (hreleased : ws'.world.server.releasedStatements = ws.world.server.releasedStatements) :
    Returns ws c ws' where
  leased := ⟨hstatements ▸ h.names, hstatements ▸ h.live⟩
  released := by rw [hended, hreleased, Nat.add_zero]
  taken := by rw [hended, htakes, leases, leases, hstatements, Nat.zero_add]; rfl

/-! ## One command after the other -/

/-- A command for a statement ends its handle if it closes it, and takes none. -/
theorem ended_of_operation? {op : Statement.Operation} (command : c.operation? = some (name, op))
    (ws : Workspace) :
    ws.ended c = (if op.closes then ws.leasesOf name else 0) ∧ c.takesHandle = false := by
  cases c <;> cases command <;> exact ⟨rfl, rfl⟩

/-- **An operation** gives the handle of its statement back if it closes it. -/
theorem Leased.operation {op : Statement.Operation} (h : ws.Leased)
    (command : c.operation? = some (name, op)) (found : ws.statements.get? name = some s)
    (performs : ws.Performs name s op ws') : Returns ws c ws' := by
  obtain ⟨hended, htakes⟩ := ended_of_operation? command ws
  obtain ⟨shared, dropped, hstatements, hworld⟩ := performs
  rw [leasesOf_of_some found] at hended
  have hs := h.live_of_get? found
  obtain ⟨hreleased, hleases⟩ := Statement.releases_after hs op (shared.foldl World.share ws.world)
  have htotal := Named.total_put_of_some Statement.leases found
    (Statement.after op (s, shared.foldl World.share ws.world)).1
  have hafter := (Statement.after op (s, shared.foldl World.share ws.world)).2.onlyLobs_releaseAll
    dropped
  refine ⟨⟨?_, ?_⟩, ?_, ?_⟩
  · exact hstatements ▸ Named.nodup_put h.names
  · exact hstatements ▸ Named.forall_things_put h.live (hs.after op _)
  · rw [hworld, hafter.unasked.releasedStatements, hreleased, World.server_share, hended]
  · rw [hended, htakes, leases, leases, hstatements, Bool.toNat_false]
    omega

/-- **A new statement** ends the handle of the one that had its name. -/
theorem Leased.made (h : ws.Leased) (hs : s.LiveHandle) (hopen : s.leases = 1)
    (htakes : c.takesHandle = true) (hended : ws.ended c = ws.leasesOf name) :
    Returns ws c (ws.settle name (.ok s ws.world)).2 := by
  have htotal := Named.total_put Statement.leases ws.statements name s
  refine ⟨⟨Named.nodup_put h.names, Named.forall_things_put h.live hs⟩, ?_, ?_⟩
  · simp only [settle, hended]
    cases found : ws.statements.get? name with
    | none => rw [leasesOf_of_none found, Nat.add_zero]
    | some old =>
      rw [leasesOf_of_some found]
      exact Statement.releases_close (h.live_of_get? found) ws.world
  · rw [hended, htakes, leases, leases, leasesOf, Bool.toNat_true]
    simp only [settle]
    omega

/-- **A statement that cannot be made** ends the handle that was taken for it. -/
theorem Leased.failed (h : ws.Leased) (htakes : c.takesHandle = true) (hended : ws.ended c = 1) :
    Returns ws c { ws with world := Statement.givenBack ws.world } where
  leased := ⟨h.names, h.live⟩
  released := by rw [hended]; rfl
  taken := by rw [hended, htakes, Nat.add_comm]; rfl

/-- **A statement that is dropped** ends its handle. -/
theorem Leased.dropped (h : ws.Leased) (found : ws.statements.get? name = some s) :
    Returns ws (.drop name)
      { ws with
        world := (Statement.close (s, ws.world)).2
        statements := ws.statements.erase name } := by
  have hended : ws.ended (.drop name) = s.leases := leasesOf_of_some found
  have htotal := Named.total_erase Statement.leases h.names found
  refine ⟨⟨Named.nodup_erase h.names, fun s' hmem => h.live s' (Named.mem_things_erase hmem)⟩,
    ?_, ?_⟩
  · rw [hended]
    exact Statement.releases_close (h.live_of_get? found) ws.world
  · rw [hended, leases, leases, Nat.add_comm]
    exact htotal

/-- A command that is for no statement ends no handle. -/
theorem Leased.aside (h : ws.Leased) (hc : c.isAside = true) : Returns ws c (ws.step c).2 := by
  obtain ⟨hstatements, _, _, _, hserver⟩ := ws.step_of_isAside hc
  have hnone : ws.ended c = 0 ∧ c.takesHandle = false := by
    cases c <;> first | exact ⟨rfl, rfl⟩ | cases hc
  exact .of_same h hnone.1 hnone.2 hstatements (by rw [hserver])

/-- A statement on a fresh handle can be made. -/
theorem step_create (ws : Workspace) (name : String) (options : Options) :
    ∃ s, s.LiveHandle ∧ s.leases = 1 ∧
      ws.step (.create name options false) = ws.settle name (.ok s ws.world) := by
  have hstep : ws.step (.create name options false) =
      ws.settle name (Statement.new .new options ws.world) := rfl
  refine ⟨⟨some ⟨Handle.new.given options, none⟩, none, options⟩, ?_, rfl, ?_⟩
  · rintro _ ⟨⟩
    rfl
  · rw [hstep, Statement.new_of_live rfl]

/-- A statement is prepared on a fresh handle, if there are parameters for its text. -/
theorem step_prepare (ws : Workspace) (name sql : String) (options : Options) :
    (∃ s, s.LiveHandle ∧ s.leases = 1 ∧
      ws.step (.prepare name sql options false) = ws.settle name (.ok s ws.world)) ∨
    ∃ e, ws.step (.prepare name sql options false) =
      (.failed e, { ws with world := Statement.givenBack ws.world }) := by
  have hstep : ws.step (.prepare name sql options false) =
      ws.settle name (Statement.prepare .new sql options ws.world) := rfl
  rw [hstep, Statement.prepare_of_live rfl]
  cases Statement.parametersFor sql ws.world.server with
  | error e => exact .inr ⟨e, rfl⟩
  | ok ps =>
    refine .inl ⟨_, ?_, rfl, rfl⟩
    rintro _ ⟨⟩
    rfl

/-- **Every command gives back what it ends.** -/
theorem returns_step (h : ws.Leased) (hfresh : c.isFresh = true) : Returns ws c (ws.step c).2 := by
  cases hoperation : c.operation? with
  | some operation =>
    obtain ⟨name, op⟩ := operation
    cases found : ws.statements.get? name with
    | none =>
      obtain ⟨hended, htakes⟩ := ended_of_operation? hoperation ws
      rw [leasesOf_of_none found, ite_self] at hended
      rw [step_of_absent hoperation found]
      exact .of_same h hended htakes rfl rfl
    | some s => exact h.operation hoperation found (performs_step hoperation found)
  | none =>
    cases c with
    | register | take | dropRow | dropLob | lob => exact h.aside rfl
    | create name options released =>
      obtain rfl : released = false := by simpa [Command.isFresh] using hfresh
      obtain ⟨s, hs, hopen, hstep⟩ := ws.step_create name options
      rw [hstep]
      exact h.made hs hopen rfl (by rw [ended, hstep]; rfl)
    | prepare name sql options released =>
      obtain rfl : released = false := by simpa [Command.isFresh] using hfresh
      rcases ws.step_prepare name sql options with ⟨s, hs, hopen, hstep⟩ | ⟨e, hstep⟩
      · rw [hstep]
        exact h.made hs hopen rfl (by rw [ended, hstep]; rfl)
      · rw [hstep]
        exact h.failed rfl (by rw [ended, hstep]; rfl)
    | drop name =>
      cases found : ws.statements.get? name with
      | none =>
        simp only [step, found]
        exact .of_same h (leasesOf_of_none found) rfl rfl rfl
      | some s =>
        simp only [step, found]
        exact h.dropped found
    | _ => cases hoperation

/-! ## Runs -/

theorem leased_new (server : Server) : (new server).Leased where
  names := List.nodup_nil
  live := by simp [new, Named.things]

/-- **Every run gives back what it ends**, and nothing it has taken is lost. -/
theorem returns_run {commands : List Command} (h : ws.Leased)
    (hfresh : ∀ c ∈ commands, c.isFresh = true) :
    (ws.run commands).2.Leased ∧
      (ws.run commands).2.world.server.releasedStatements =
        ws.world.server.releasedStatements + ws.endedIn commands ∧
      ws.endedIn commands + (ws.run commands).2.leases =
        ws.leases + commands.countP Command.takesHandle := by
  induction commands generalizing ws with
  | nil => exact ⟨h, rfl, Nat.add_comm _ _⟩
  | cons c rest ih =>
    obtain ⟨hleased, hreleased, htaken⟩ := returns_step h (hfresh c (List.mem_cons_self ..))
    obtain ⟨hrest, hreleased', htaken'⟩ := ih hleased fun c' hmem =>
      hfresh c' (List.mem_cons_of_mem _ hmem)
    refine ⟨hrest, ?_, ?_⟩
    · rw [endedIn, ← Nat.add_assoc, ← hreleased]
      exact hreleased'
    · have hcount : (c :: rest).countP Command.takesHandle =
          rest.countP Command.takesHandle + c.takesHandle.toNat := by
        rw [List.countP_cons]
        cases c.takesHandle <;> rfl
      have hrun : (ws.run (c :: rest)).2 = ((ws.step c).2.run rest).2 := rfl
      rw [hrun, endedIn, hcount]
      omega

/-- Closing statements one after the other gives back their handles. -/
theorem released_closeAll {statements : List Statement}
    (hlive : ∀ s ∈ statements, s.LiveHandle) (w : ClientWorld) :
    (statements.foldl (fun w s => (Statement.close (s, w)).2) w).server.releasedStatements =
      w.server.releasedStatements + (statements.map Statement.leases).sum := by
  induction statements generalizing w with
  | nil => rfl
  | cons s rest ih =>
    have hclose := Statement.releases_close (hlive s (List.mem_cons_self ..)) w
    have hrest := ih (fun s' hmem => hlive s' (List.mem_cons_of_mem _ hmem))
      (Statement.close (s, w)).2
    rw [List.foldl_cons, hrest, hclose, List.map_cons, List.sum_cons, Nat.add_assoc]

theorem Leased.clear (h : ws.Leased) :
    ws.clear.world.server.releasedStatements =
      ws.world.server.releasedStatements + ws.leases := by
  rw [ws.onlyLobs_clear.unasked.releasedStatements]
  exact released_closeAll h.live ws.world

end Workspace

/-! ## Closed statements -/

namespace Statement

variable {s : Statement}

/-- **A closed statement refuses what needs its handle**, and asks nothing of the server. -/
structure Refuses (s : Statement) : Prop where
  execute : ∀ sql w, execute sql (s, w) = .error .statementClosed (s, w)
  executeWith : ∀ args w, executeWith (args, s, w) = .error .statementClosed (args, s, w)
  batch : ∀ sqls w, batch sqls (s, w) = .error .statementClosed (s, w)
  serial : ∀ choice w, serial choice (s, w) = .error .statementClosed (s, w)

theorem refuses_of_closed (hlink : s.link = none) (hcursor : s.cursor = none) : s.Refuses := by
  have hclose (w : ClientWorld) : closeCursor (s, w) = (s, w) := by
    simp only [closeCursor, hcursor]
  refine ⟨execute_of_closed hlink, executeWith_of_closed hlink, fun sqls w => ?_,
    fun choice w => onHandle_of_closed hlink _ w⟩
  rw [batch, run_bind_modify, hclose, onHandle_of_closed hlink]

/-- Nothing opens a closed statement again. -/
theorem after_of_closed (hlink : s.link = none) (hcursor : s.cursor = none) (op : Operation)
    (w : ClientWorld) : (after op (s, w)).1.link = none ∧ (after op (s, w)).1.cursor = none := by
  have hrefuses := refuses_of_closed hlink hcursor
  cases op with
  | configure later => exact ⟨hlink, hcursor⟩
  | execute sql => rw [after, hrefuses.execute]; exact ⟨hlink, hcursor⟩
  | executeWith args => rw [after, hrefuses.executeWith]; exact ⟨hlink, hcursor⟩
  | batch sqls => rw [after, hrefuses.batch]; exact ⟨hlink, hcursor⟩
  | serial choice => rw [after, hrefuses.serial]; exact ⟨hlink, hcursor⟩
  | cursor call => rw [after, leaves_onCursor, hcursor]; exact ⟨hlink, hcursor⟩
  | close => rw [after, close_fst]; exact ⟨rfl, rfl⟩

theorem refuses_runIn (hlink : s.link = none) (hcursor : s.cursor = none)
    (later : List (Operation × ClientWorld)) : (s.runIn later).Refuses := by
  induction later generalizing s with
  | nil => exact refuses_of_closed hlink hcursor
  | cons step rest ih =>
    obtain ⟨hlink', hcursor'⟩ := after_of_closed hlink hcursor step.1 step.2
    exact ih hlink' hcursor'

end Statement

namespace Workspace

/-- **Where the handles are** that a run has taken from the server. -/
structure HandleReturns (server : Server) (commands : List Command) (ws : Workspace) : Prop where
  /-- The server counts the handles whose statement could not be made, or was closed or dropped. -/
  released : ws.world.server.releasedStatements =
    server.releasedStatements + (new server).endedIn commands
  /-- The others are those of the statements that are not closed. -/
  taken : (new server).endedIn commands + ws.statements.things.countP (fun s => !s.isClosed) =
    commands.countP Command.takesHandle
  /-- In the end every handle that was taken was given back. -/
  clears : ws.clear.world.server.releasedStatements =
    server.releasedStatements + commands.countP Command.takesHandle
  /-- Where a statement cannot be prepared, the server only gets its handle back. -/
  failed : ∀ name sql options e, (ws.step (.prepare name sql options false)).1 = .failed e →
    (ws.step (.prepare name sql options false)).2.statements = ws.statements ∧
      (ws.step (.prepare name sql options false)).2.world.server =
        { ws.world.server with
          releasedStatements := ws.world.server.releasedStatements + 1 }
  /-- A statement that was closed refuses what needs its handle, whatever is done with it. -/
  closed : ∀ s w later, ((Statement.close (s, w)).1.runIn later).Refuses

/-- **Every handle is given back exactly once**, in whatever order statements are made, used, closed
and dropped. -/
theorem run_returns_handles (server : Server) (commands : List Command)
    (hfresh : ∀ c ∈ commands, c.isFresh = true) :
    HandleReturns server commands ((new server).run commands).2 := by
  obtain ⟨hleased, hreleased, htaken⟩ := returns_run (leased_new server) hfresh
  have htaken' : (new server).endedIn commands + ((new server).run commands).2.leases =
      commands.countP Command.takesHandle := htaken.trans (Nat.zero_add _)
  refine ⟨hreleased, ?_, ?_, ?_, ?_⟩
  · rw [← Named.total_eq_countP fun _ _ => rfl]
    exact htaken'
  · rw [hleased.clear, hreleased, Nat.add_assoc, htaken']
    rfl
  · intro name sql options e hfailed
    rcases step_prepare _ name sql options with ⟨s, -, -, hstep⟩ | ⟨e', hstep⟩
    · rw [hstep] at hfailed
      cases hfailed
    · rw [hstep]
      exact ⟨rfl, rfl⟩
  · intro s w later
    rw [Statement.close_fst]
    exact Statement.refuses_runIn rfl rfl later

/-- Four handles are taken: for a statement that is closed twice, for a text with markers of both
kinds, for a statement that is dropped, and for one that takes the name of the first. -/
theorem run_returns_handles_closed_twice :
    let described := ParameterDescription.ofLength 30 10 .input
    let commands : List Command :=
      [.register "CALL P(?)" ⟨.update 1, [described], none⟩,
        .register "CALL P(?, :a)" ⟨.update 1, [described, described], none⟩,
        .create "a" .empty false, .prepare "b" "CALL P(?, :a)" .empty false,
        .prepare "c" "CALL P(?)" .empty false, .executeWith "c" (.positional [.int32 5]),
        .close "a", .close "a", .drop "c", .create "a" .empty false]
    let ws := ((new .empty).run commands).2
    HandleReturns .empty commands ws ∧ ws.world.server.releasedStatements = 3 ∧
      ws.world.server.bound = [[.int32 5]] ∧ commands.countP Command.takesHandle = 4 := by
  intro described commands ws
  refine ⟨run_returns_handles .empty commands (by decide), by decide +kernel, by decide +kernel,
    by decide⟩

end Workspace
end SqlClient
