import SqlClient.Proofs.NamedTables
import SqlClient.Proofs.ScriptedObjects
import SqlClient.Proofs.StatementOperations
import SqlClient.Workspace

/-! # Runs of a program

What a command does to the statements of a workspace is one of four things (`Turn`): nothing, an
operation on the statement of a name, a new statement that takes the place of what had its name,
or a statement that is dropped.  `turn_step` reads this off every command.

From it follows what a workspace keeps over any run: every statement is sound, and no result set
is lost (`Orderly`, `Orderly.run`).  As long as no cursor is closed by hand, a statement has a
cursor exactly if it holds a result set (`Live`), so that the server was given back all result sets
but one for each statement with a cursor.
-/
namespace SqlClient

open Scripted (Server Handle Lob ResultSet Script)

/-! ## Large objects concern nothing else -/

theorem LobHandle.onlyLobs_perform (call : LobCall) (h : LobHandle Lob) (s : Server) :
    s.OnlyLobs (leaves (perform call (h, s))).2 := by
  rw [leaves_perform]
  cases h.request? call with
  | error e => exact .refl s
  | ok r =>
    obtain ⟨_, _, contents, hserve, -⟩ := Lob.leaves_serve h.lob s r
    simp only [hserve]
    exact ⟨_, _, rfl⟩

theorem World.onlyLobs_call (ref : LobRef) (call : LobCall) (w : ClientWorld) :
    w.server.OnlyLobs (leaves (w.call ref call)).server := by
  simp only [World.call, World.onHandle]
  cases w.handle? ref with
  | none => exact .refl w.server
  | some h =>
    have hperform := LobHandle.onlyLobs_perform call h w.server
    simp only
    cases hresult : LobHandle.perform call (h, w.server) <;> rw [hresult] at hperform <;>
      exact hperform

theorem World.server_share (w : ClientWorld) (vs : List Value) :
    (vs.foldl World.share w).server = w.server := by
  induction vs generalizing w with
  | nil => rfl
  | cons v vs ih =>
    rw [List.foldl_cons, ih]
    cases v <;> rfl

/-! ## What a command does to statements -/

/-- The operation of a command, and the name of the statement it is meant for. -/
def Command.operation? : Command → Option (String × Statement.Operation)
  | .close name => some (name, .close)
  | .configure name later => some (name, .configure later)
  | .execute name sql => some (name, .execute sql)
  | .executeWith name args => some (name, .executeWith args)
  | .batch name sqls => some (name, .batch sqls)
  | .serial name choice => some (name, .serial choice)
  | .fetch name move _ => some (name, .cursor (.fetch move))
  | .cursor name call => some (name, .cursor call)
  | _ => none

/-- The command is for scripts, rows or large objects, and not for a statement. -/
def Command.isAside : Command → Bool
  | .register .. | .take .. | .dropRow _ | .dropLob _ | .lob .. => true
  | _ => false

namespace Workspace

/-- **An operation on the statement of a name.**  Arguments are shared before it, and what nobody
keeps afterwards is released. -/
def Performs (ws : Workspace) (name : String) (s : Statement) (op : Statement.Operation)
    (ws' : Workspace) : Prop :=
  ∃ shared dropped : List Value,
    ws'.statements =
      ws.statements.put name (Statement.after op (s, shared.foldl World.share ws.world)).1 ∧
    ws'.world = (Statement.after op (s, shared.foldl World.share ws.world)).2.releaseAll dropped

/-- An operation on the statement of a name, with nothing happening to result sets around it. -/
def Operates (ws : Workspace) (name : String) (s : Statement) (op : Statement.Operation)
    (ws' : Workspace) : Prop :=
  ∃ w : ClientWorld, ws.world.server.SameResultSets w.server ∧
    ws'.statements = ws.statements.put name (Statement.after op (s, w)).1 ∧
    (Statement.after op (s, w)).2.server.SameResultSets ws'.world.server

/-- **What a command does** to the statements of a workspace. -/
inductive Turn (ws : Workspace) (c : Command) (ws' : Workspace) : Prop where
  | aside (statements : ws'.statements = ws.statements)
      (server : ws.world.server.SameResultSets ws'.world.server)
  | operation (name : String) (op : Statement.Operation) (s : Statement)
      (command : c.operation? = some (name, op)) (found : ws.statements.get? name = some s)
      (operates : ws.Operates name s op ws')
  /-- What had the name is dropped. -/
  | made (name : String) (s : Statement) (w : ClientWorld) (sound : s.Sound)
      (cursor : s.cursor = none) (server : ws.world.server.SameResultSets w.server)
      (statements : ws'.statements = ws.statements.put name s)
      (world : ws'.world = match ws.statements.get? name with
        | some old => (Statement.close (old, w)).2
        | none => w)
  | dropped (name : String) (s : Statement) (found : ws.statements.get? name = some s)
      (statements : ws'.statements = ws.statements.erase name)
      (world : ws'.world = (Statement.close (s, ws.world)).2)

variable {ws ws' : Workspace} {c : Command} {name : String} {s : Statement}

theorem Performs.operates {op : Statement.Operation} (h : ws.Performs name s op ws') :
    ws.Operates name s op ws' := by
  obtain ⟨shared, dropped, hstatements, hworld⟩ := h
  refine ⟨shared.foldl World.share ws.world, ?_, hstatements, ?_⟩
  · rw [World.server_share]
    exact .refl _
  · rw [hworld]
    exact (World.onlyLobs_releaseAll _ dropped).sameResultSets

theorem performs_onStatement {α : Type} {op : EStateM Error (Statement × ClientWorld) α}
    {report : α → ClientWorld → Report × ClientWorld} {operation : Statement.Operation}
    (found : ws.statements.get? name = some s)
    (hop : leaves (op (s, ws.world)) = Statement.after operation (s, ws.world))
    (hreport : ∀ a w, ∃ dropped, (report a w).2 = w.releaseAll dropped) :
    ws.Performs name s operation (ws.onStatement name op report).2 := by
  simp only [onStatement, found]
  cases hresult : op (s, ws.world) with
  | ok a state =>
    rw [hresult] at hop
    obtain ⟨dropped, hdropped⟩ := hreport a state.2
    exact ⟨[], dropped, congrArg (ws.statements.put name ·.1) hop,
      hdropped.trans (congrArg (·.2.releaseAll dropped) hop)⟩
  | error e state =>
    rw [hresult] at hop
    exact ⟨[], [], congrArg (ws.statements.put name ·.1) hop, congrArg (·.2) hop⟩

theorem leaves_fetch (move : Seek) (s : Statement) (w : ClientWorld) :
    leaves (Statement.fetch move (s, w)) = Statement.after (.cursor (.fetch move)) (s, w) := by
  rw [Statement.after, Statement.fetch, Statement.leaves_onCursor, Statement.leaves_onCursor]
  cases s.cursor with
  | none => rfl
  | some c => simp only [Cursor.perform, leaves_bind_pure]

theorem passAnswer_eq (answer : Cursor.Answer) (w : ClientWorld) :
    ∃ dropped, (passAnswer answer w).2 = w.releaseAll dropped := by
  cases answer with
  | row row => exact ⟨_, rfl⟩
  | _ => exact ⟨[], rfl⟩

theorem performs_fetchAndKeep (found : ws.statements.get? name = some s) (move : Seek)
    (keep : String) :
    ws.Performs name s (.cursor (.fetch move)) (ws.fetchAndKeep name move keep).2 := by
  have hfetch := leaves_fetch move s ws.world
  simp only [fetchAndKeep, found]
  unfold Performs
  cases hresult : Statement.fetch move (s, ws.world) with
  | error e state =>
    rw [hresult] at hfetch
    exact ⟨[], [], congrArg (ws.statements.put name ·.1) hfetch, congrArg (·.2) hfetch⟩
  | ok row state =>
    rw [hresult] at hfetch
    refine ⟨[], ?_⟩
    rw [List.foldl_nil, ← hfetch]
    cases row with
    | none => exact ⟨[], rfl, rfl⟩
    | some r => exact ⟨_, rfl, rfl⟩

theorem performs_executeWith (found : ws.statements.get? name = some s) (args : Arguments) :
    ws.Performs name s (.executeWith args) (ws.executeWith name args).2 := by
  refine ⟨args.values, ?_⟩
  simp only [Statement.after, executeWith, found]
  cases Statement.executeWith (args, s, args.values.foldl World.share ws.world) with
  | ok count state | error e state => exact ⟨state.1.values, rfl, rfl⟩

/-- **A command for a statement operates on it.** -/
theorem performs_step {op : Statement.Operation} (command : c.operation? = some (name, op))
    (found : ws.statements.get? name = some s) : ws.Performs name s op (ws.step c).2 := by
  cases c with
  | close | configure | execute | batch | serial =>
    cases command
    exact performs_onStatement found rfl fun _ _ => ⟨[], rfl⟩
  | executeWith name args =>
    cases command
    exact performs_executeWith found args
  | fetch name move keep =>
    cases command
    cases keep with
    | none => exact performs_onStatement found (leaves_fetch ..) fun _ _ => ⟨_, rfl⟩
    | some keep => exact performs_fetchAndKeep found move keep
  | cursor name call =>
    cases command
    simp only [step, found, Option.bind_some]
    cases hcursor : s.cursor with
    | none =>
      -- without a cursor the operation changes nothing
      have hsame : Statement.after (.cursor call) (s, ws.world) = (s, ws.world) := by
        rw [Statement.after, Statement.leaves_onCursor, hcursor]
      refine ⟨[], [], ?_⟩
      rw [List.foldl_nil, hsame]
      exact ⟨(Named.put_of_get? found).symm, rfl⟩
    | some cursor => exact performs_onStatement found rfl passAnswer_eq
  | _ => cases command

/-- A command for a statement that is not there does nothing. -/
theorem step_of_absent {op : Statement.Operation} (command : c.operation? = some (name, op))
    (absent : ws.statements.get? name = none) : (ws.step c).2 = ws := by
  cases c with
  | close | configure | execute | batch | serial =>
    cases command
    simp only [step, onStatement, absent]
  | executeWith name args =>
    cases command
    simp only [step, executeWith, absent]
  | fetch name move keep =>
    cases command
    cases keep <;> simp only [step, onStatement, fetchAndKeep, absent]
  | cursor name call =>
    cases command
    simp only [step, absent, Option.bind_none]
  | _ => cases command

/-- A handle is fresh, or was given back right away. -/
theorem handle_eq (released : Bool) (w : ClientWorld) :
    (handle released w).1.settings.maxRows = 0 ∧
      w.server.SameResultSets (handle released w).2.server := by
  cases released <;> exact ⟨rfl, rfl, rfl⟩

theorem turn_settle {outcome : EStateM.Result Error ClientWorld Statement} {w : ClientWorld}
    (hserver : ws.world.server.SameResultSets w.server) (hmade : Statement.Made w outcome) :
    Turn ws c (ws.settle name outcome).2 := by
  cases outcome with
  | error e w' => exact .aside rfl (hserver.trans hmade.server)
  | ok s w' =>
    exact .made name s w' (hmade.sound s rfl) (hmade.cursor s rfl) (hserver.trans hmade.server) rfl
      rfl

/-- **A command that is for no statement** changes the scripts or large objects of the server, if
anything. -/
theorem step_of_isAside (ws : Workspace) (hc : c.isAside = true) :
    (ws.step c).2.statements = ws.statements ∧ ∃ scripts contents closedLobs,
      (ws.step c).2.world.server = { ws.world.server with scripts, contents, closedLobs } := by
  have hlobs {s' : Server} (h : ws.world.server.OnlyLobs s') : ∃ scripts contents closedLobs,
      s' = { ws.world.server with scripts, contents, closedLobs } := by
    obtain ⟨contents, closedLobs, rfl⟩ := h
    exact ⟨_, _, _, rfl⟩
  cases c with
  | register sql script => exact ⟨rfl, _, _, _, rfl⟩
  | take row path lob =>
    simp only [step, take]
    split
    · exact ⟨rfl, hlobs (.refl _)⟩
    · rename_i ref _
      refine ⟨rfl, hlobs ?_⟩
      split
      · exact (ws.world.addAlias ref).onlyLobs_dropAlias _
      · exact .refl _
  | dropRow row =>
    simp only [step]
    split
    · exact ⟨rfl, hlobs (.refl _)⟩
    · exact ⟨rfl, hlobs (ws.world.onlyLobs_releaseAll _)⟩
  | dropLob lob =>
    simp only [step]
    split
    · exact ⟨rfl, hlobs (.refl _)⟩
    · exact ⟨rfl, hlobs (ws.world.onlyLobs_dropAlias _)⟩
  | lob lob call =>
    simp only [step]
    split
    · exact ⟨rfl, hlobs (.refl _)⟩
    · rename_i ref _
      have hcall := World.onlyLobs_call ref call ws.world
      cases hanswer : ws.world.call ref call <;> rw [hanswer] at hcall <;>
        exact ⟨rfl, hlobs hcall⟩
  | _ => cases hc

theorem turn_of_isAside (hc : c.isAside = true) : Turn ws c (ws.step c).2 := by
  obtain ⟨hstatements, _, _, _, hserver⟩ := ws.step_of_isAside hc
  refine .aside hstatements ?_
  rw [hserver]
  exact ⟨rfl, rfl⟩

/-- **Every command is one of these turns.** -/
theorem turn_step (ws : Workspace) (c : Command) : Turn ws c (ws.step c).2 := by
  cases hoperation : c.operation? with
  | some operation =>
    obtain ⟨name, op⟩ := operation
    cases found : ws.statements.get? name with
    | none =>
      rw [step_of_absent hoperation found]
      exact .aside rfl (.refl _)
    | some s => exact .operation name op s hoperation found (performs_step hoperation found).operates
  | none =>
    cases c with
    | register | take | dropRow | dropLob | lob => exact turn_of_isAside rfl
    | create name options released =>
      obtain ⟨hrows, hserver⟩ := handle_eq released ws.world
      exact turn_settle hserver (Statement.made_new hrows options _)
    | prepare name sql options released =>
      obtain ⟨hrows, hserver⟩ := handle_eq released ws.world
      exact turn_settle hserver (Statement.made_prepare hrows sql options _)
    | drop name =>
      simp only [step]
      cases found : ws.statements.get? name with
      | none => exact .aside rfl (.refl _)
      | some s => exact .dropped name s found rfl rfl
    | _ => cases hoperation

/-! ## No result set is lost -/

/-- **What a workspace keeps**: its statements have names of their own and are sound, and they hold
all result sets that are to be given back, but for the `base` that was missing at the start. -/
structure Orderly (base : Int) (ws : Workspace) : Prop where
  names : ws.statements.names.Nodup
  sound : ∀ s ∈ ws.statements.things, s.Sound
  counts : (ws.world.server.openedResultSets : Int) =
    ws.world.server.closedResultSets + ws.statements.total Statement.held + base

variable {base : Int}

theorem orderly_new (server : Server) :
    (new server).Orderly (server.openedResultSets - server.closedResultSets) where
  names := List.nodup_nil
  sound := by simp [new, Named.things]
  counts := by simp [new, World.new, Named.total, Named.things]

theorem Orderly.sound_of_get? (h : ws.Orderly base) (found : ws.statements.get? name = some s) :
    s.Sound :=
  h.sound s (Named.mem_things_of_get? found)

theorem Orderly.operation {op : Statement.Operation} (h : ws.Orderly base)
    (found : ws.statements.get? name = some s) (operates : ws.Operates name s op ws') :
    ws'.Orderly base := by
  obtain ⟨w, ⟨hopenedBefore, hclosedBefore⟩, hstatements, hopenedAfter, hclosedAfter⟩ := operates
  have hs := h.sound_of_get? found
  obtain ⟨given, hopened, hclosed⟩ := hs.counted_after op w
  simp only at hopened hclosed
  have htotal := Named.total_put_of_some Statement.held found (Statement.after op (s, w)).1
  have hcounts := h.counts
  exact
    { names := hstatements ▸ Named.nodup_put h.names
      sound := hstatements ▸ Named.forall_things_put h.sound (hs.after op w)
      counts := by rw [hstatements]; omega }

theorem Orderly.made {w : ClientWorld} (h : ws.Orderly base) (hs : s.Sound)
    (hcursor : s.cursor = none) (hserver : ws.world.server.SameResultSets w.server)
    (hstatements : ws'.statements = ws.statements.put name s)
    (hworld : ws'.world = match ws.statements.get? name with
      | some old => (Statement.close (old, w)).2
      | none => w) : ws'.Orderly base := by
  have hheld := Statement.held_of_cursor_none hcursor
  have hcounts := h.counts
  obtain ⟨hopenedBefore, hclosedBefore⟩ := hserver
  refine
    { names := hstatements ▸ Named.nodup_put h.names
      sound := hstatements ▸ Named.forall_things_put h.sound hs
      counts := ?_ }
  rw [hstatements, hworld]
  cases found : ws.statements.get? name with
  | none =>
    have htotal := Named.total_put_of_none Statement.held found s
    simp only
    omega
  | some old =>
    have htotal := Named.total_put_of_some Statement.held found s
    obtain ⟨-, hopened, hclosed⟩ := Statement.givesBack_close (h.sound_of_get? found) w
    simp only at hopened hclosed ⊢
    omega

theorem Orderly.dropped (h : ws.Orderly base) (found : ws.statements.get? name = some s)
    (hstatements : ws'.statements = ws.statements.erase name)
    (hworld : ws'.world = (Statement.close (s, ws.world)).2) : ws'.Orderly base := by
  obtain ⟨-, hopened, hclosed⟩ := Statement.givesBack_close (h.sound_of_get? found) ws.world
  have htotal := Named.total_erase Statement.held h.names found
  have hcounts := h.counts
  exact
    { names := hstatements ▸ Named.nodup_erase h.names
      sound := fun s' hmem => h.sound s' (Named.mem_things_erase (hstatements ▸ hmem))
      counts := by rw [hstatements, hworld]; simp only at hopened hclosed; omega }

/-- **No turn loses a result set.** -/
theorem Orderly.turn (h : ws.Orderly base) (hturn : Turn ws c ws') : ws'.Orderly base := by
  cases hturn with
  | aside hstatements hserver =>
    have hcounts := h.counts
    obtain ⟨hopened, hclosed⟩ := hserver
    exact ⟨hstatements ▸ h.names, hstatements ▸ h.sound, by rw [hstatements]; omega⟩
  | operation name op s _ found operates => exact h.operation found operates
  | made name s w hs hcursor hserver hstatements hworld =>
    exact h.made hs hcursor hserver hstatements hworld
  | dropped name s found hstatements hworld => exact h.dropped found hstatements hworld

/-- **No run loses a result set**, whatever it does and whatever fails in it. -/
theorem Orderly.run (h : ws.Orderly base) (commands : List Command) :
    (ws.run commands).2.Orderly base := by
  induction commands generalizing ws with
  | nil => exact h
  | cons c rest ih => exact ih (h.turn (turn_step ws c))

/-! ## Statements that have a cursor -/

/-- Every cursor tracks a result set that is still to be given back. -/
def Live (ws : Workspace) : Prop := ∀ s ∈ ws.statements.things, ∀ c, s.cursor = some c → c.Tracks

theorem held_of_live (h : ∀ c, s.cursor = some c → c.Tracks) : s.held = s.isQuery.toNat := by
  unfold Statement.held Statement.isQuery
  cases hcursor : s.cursor with
  | none => rfl
  | some c => simp [ResultSet.held, (h c hcursor).rowsOpen]

/-- Only one command closes a cursor by hand. -/
theorem eq_of_operation?_close (h : c.operation? = some (name, .cursor .close)) :
    c = .cursor name .close := by
  cases c <;> cases h
  rfl

/-- Cursors that nothing closes by hand stay live. -/
theorem Live.turn (h : ws.Live) (hsound : ∀ s ∈ ws.statements.things, s.Sound)
    (hc : ∀ name, c ≠ .cursor name .close) (hturn : Turn ws c ws') : ws'.Live := by
  cases hturn with
  | aside hstatements _ =>
    rw [Live, hstatements]
    exact h
  | operation name op s command found operates =>
    obtain ⟨w, -, hstatements, -⟩ := operates
    have hmem := Named.mem_things_of_get? found
    rw [Live, hstatements]
    apply Named.forall_things_put h
    apply (hsound s hmem).cursor_after (fun _ => id) (h s hmem) op w
    rintro call c' rfl htracks
    have hcall : call ≠ .close := by
      rintro rfl
      exact hc name (eq_of_operation?_close command)
    exact (htracks.perform hcall w).1
  | made name s w _ hcursor _ hstatements _ =>
    rw [Live, hstatements]
    apply Named.forall_things_put h
    simp [hcursor]
  | dropped name s _ hstatements _ =>
    rw [Live, hstatements]
    exact fun s' hmem => h s' (Named.mem_things_erase hmem)

theorem Live.run {commands : List Command} (h : ws.Live) (horderly : ws.Orderly base)
    (hcommands : ∀ name, .cursor name .close ∉ commands) : (ws.run commands).2.Live := by
  induction commands generalizing ws with
  | nil => exact h
  | cons c rest ih =>
    have hturn := turn_step ws c
    have hc (name : String) : c ≠ .cursor name .close := by
      rintro rfl
      exact hcommands name (List.mem_cons_self ..)
    exact ih (h.turn horderly.sound hc hturn) (horderly.turn hturn)
      fun name hmem => hcommands name (List.mem_cons_of_mem _ hmem)

/-! ## Giving everything back -/

theorem counts_closeAll {statements : List Statement} (hsound : ∀ s ∈ statements, s.Sound)
    (w : ClientWorld) :
    let w' := statements.foldl (fun w s => (Statement.close (s, w)).2) w
    w'.server.openedResultSets = w.server.openedResultSets ∧
      w'.server.closedResultSets =
        w.server.closedResultSets + (statements.map Statement.held).sum := by
  induction statements generalizing w with
  | nil => exact ⟨rfl, rfl⟩
  | cons s rest ih =>
    obtain ⟨-, hopened, hclosed⟩ := Statement.givesBack_close (hsound s (List.mem_cons_self ..)) w
    obtain ⟨hopened', hclosed'⟩ := ih (fun s hmem => hsound s (List.mem_cons_of_mem _ hmem))
      (Statement.close (s, w)).2
    simp only at hopened hclosed
    refine ⟨hopened'.trans hopened, hclosed'.trans ?_⟩
    rw [hclosed, List.map_cons, List.sum_cons, Nat.add_assoc]

theorem onlyLobs_foldl {α : Type} {f : ClientWorld → α → ClientWorld}
    (hf : ∀ (w : ClientWorld) (a : α), w.server.OnlyLobs (f w a).server) (l : List α)
    (w : ClientWorld) : w.server.OnlyLobs (l.foldl f w).server := by
  induction l generalizing w with
  | nil => exact .refl w.server
  | cons a l ih => exact (hf w a).trans (ih (f w a))

/-- After its statements a workspace only drops large objects. -/
theorem onlyLobs_clear (ws : Workspace) :
    (ws.statements.things.foldl (fun w s => (Statement.close (s, w)).2) ws.world).server.OnlyLobs
      ws.clear.world.server :=
  (onlyLobs_foldl (fun w (row : Row) => w.onlyLobs_releaseAll row.values) ws.rows.things _).trans
    (onlyLobs_foldl (fun w ref => w.onlyLobs_dropAlias ref) ws.lobs.things _)

/-- A workspace that is cleared gives everything back. -/
theorem Orderly.clear (h : ws.Orderly base) :
    (ws.clear.world.server.openedResultSets : Int) =
      ws.clear.world.server.closedResultSets + base := by
  obtain ⟨hopened, hclosed⟩ := counts_closeAll h.sound ws.world
  have hlobs := ws.onlyLobs_clear.sameResultSets
  have hcounts := h.counts
  rw [Named.total, ← Nat.cast_add, ← hclosed, ← hopened] at hcounts
  rw [hlobs.opened, hlobs.closed]
  exact hcounts

/-- **Where the result sets are** that the server gave out since it was `server`. -/
structure Accounted (server : Server) (ws : Workspace) : Prop where
  /-- All were given back, but for one for each statement that has a cursor. -/
  counts : (ws.world.server.closedResultSets : Int) - server.closedResultSets =
    (ws.world.server.openedResultSets - server.openedResultSets : Int) -
      ws.statements.things.countP Statement.isQuery
  /-- A statement that is executed again gives back what it has, and all it is given but what it
  keeps a cursor over. -/
  ends : ∀ c name op s, c.operation? = some (name, op) → ws.statements.get? name = some s →
    s.Ends op → ∃ s' given, (ws.step c).2.statements.get? name = some s' ∧
      (ws.step c).2.world.server.openedResultSets =
        ws.world.server.openedResultSets + given ∧
      (ws.step c).2.world.server.closedResultSets + s'.isQuery.toNat =
        ws.world.server.closedResultSets + s.isQuery.toNat + given ∧
      s'.isQuery.toNat ≤ given
  /-- A statement that is closed or dropped gives back what it has. -/
  closes : ∀ name s, ws.statements.get? name = some s → ∀ c ∈ [.close name, .drop name],
    (ws.step c).2.world.server.openedResultSets = ws.world.server.openedResultSets ∧
      (ws.step c).2.world.server.closedResultSets =
        ws.world.server.closedResultSets + s.isQuery.toNat ∧
      ∀ s', (ws.step c).2.statements.get? name = some s' → s'.isQuery = false
  /-- In the end there is nothing left to give back. -/
  clears : (ws.clear.world.server.closedResultSets : Int) - server.closedResultSets =
    ws.clear.world.server.openedResultSets - server.openedResultSets

theorem Live.counts (h : ws.Live) (horderly : ws.Orderly base) :
    (ws.world.server.openedResultSets : Int) =
      ws.world.server.closedResultSets + ws.statements.things.countP Statement.isQuery + base := by
  rw [← Named.total_eq_countP fun s hmem => held_of_live (h s hmem)]
  exact horderly.counts

theorem Live.ends {op : Statement.Operation} (h : ws.Live) (horderly : ws.Orderly base)
    (command : c.operation? = some (name, op)) (found : ws.statements.get? name = some s)
    (hop : s.Ends op) : ∃ s' given, (ws.step c).2.statements.get? name = some s' ∧
      (ws.step c).2.world.server.openedResultSets =
        ws.world.server.openedResultSets + given ∧
      (ws.step c).2.world.server.closedResultSets + s'.isQuery.toNat =
        ws.world.server.closedResultSets + s.isQuery.toNat + given ∧
      s'.isQuery.toNat ≤ given := by
  obtain ⟨w, hbefore, hstatements, hafter⟩ := (performs_step command found).operates
  have hsettled := (horderly.sound_of_get? found).settled_after hop w
  obtain ⟨given, hopened, hclosed, hheld⟩ := hsettled.counts
  rw [held_of_live hsettled.cursor] at hclosed hheld
  simp only [held_of_live (h s (Named.mem_things_of_get? found))] at hopened hclosed
  refine ⟨_, given, hstatements ▸ Named.get?_put_self .., ?_, ?_, hheld⟩
  · rw [hafter.opened, hopened, hbefore.opened]
  · rw [hafter.closed, hclosed, hbefore.closed]

theorem Live.closes (h : ws.Live) (horderly : ws.Orderly base)
    (found : ws.statements.get? name = some s) (hc : c ∈ [.close name, .drop name]) :
    (ws.step c).2.world.server.openedResultSets = ws.world.server.openedResultSets ∧
      (ws.step c).2.world.server.closedResultSets =
        ws.world.server.closedResultSets + s.isQuery.toNat ∧
      ∀ s', (ws.step c).2.statements.get? name = some s' → s'.isQuery = false := by
  have hclose := Statement.givesBack_close (horderly.sound_of_get? found) ws.world
  obtain ⟨hcursor, hopened, hclosed⟩ := hclose
  simp only [held_of_live (h s (Named.mem_things_of_get? found))] at hopened hclosed
  rcases List.mem_cons.mp hc with rfl | hc
  · have hstep : (ws.step (.close name)).2 =
        { ws with
          world := (Statement.close (s, ws.world)).2
          statements := ws.statements.put name (Statement.close (s, ws.world)).1 } := by
      simp only [step, onStatement, found]
      rfl
    rw [hstep]
    refine ⟨hopened, hclosed, fun s' hs' => ?_⟩
    rw [Named.get?_put_self] at hs'
    cases hs'
    rw [Statement.isQuery, hcursor]
    rfl
  · obtain rfl := List.mem_singleton.mp hc
    have hstep : (ws.step (.drop name)).2 =
        { ws with
          world := (Statement.close (s, ws.world)).2
          statements := ws.statements.erase name } := by
      simp only [step, found]
    rw [hstep]
    refine ⟨hopened, hclosed, fun s' hs' => ?_⟩
    rw [Named.get?_erase_self] at hs'
    cases hs'

/-- **No result set is lost, and none is given back twice**: at every point of a run the server was
given back all it gave out, but for one result set for each statement that has a cursor. -/
theorem run_returns_result_sets (server : Server) (commands : List Command)
    (hcommands : ∀ name, .cursor name .close ∉ commands) :
    Accounted server ((new server).run commands).2 := by
  have horderly := (orderly_new server).run commands
  have hlive : ((new server).run commands).2.Live := by
    apply Live.run _ (orderly_new server) hcommands
    simp [Live, new, Named.things]
  have hcounts := hlive.counts horderly
  have hclear := horderly.clear
  exact
    { counts := by omega
      ends := fun c name op s command found hop => hlive.ends horderly command found hop
      closes := fun name s found c hc => hlive.closes horderly found hc
      clears := by omega }

/-- Two statements with a cursor each, one of which is executed again, first for a query without
columns, and the other dropped. -/
theorem run_returns_result_sets_rejected :
    let query : Script :=
      ⟨.query ⟨[.ofLength "N" SqlType.integer.code 10], [[.int 5], [.int 7]]⟩, [], none⟩
    let rejected : Script := ⟨.query ⟨[], []⟩, [], none⟩
    let commands : List Command :=
      [.register "SELECT N FROM T" query, .register "SELECT" rejected, .create "a" .empty false,
        .create "b" .empty false, .execute "a" "SELECT N FROM T", .execute "b" "SELECT N FROM T",
        .fetch "a" .next none, .execute "a" "SELECT", .execute "a" "SELECT N FROM T", .drop "b"]
    let ws := ((new .empty).run commands).2
    Accounted .empty ws ∧ ws.world.server.openedResultSets = 4 ∧
      ws.world.server.closedResultSets = 3 ∧ ws.statements.things.countP Statement.isQuery = 1 := by
  intro query rejected commands ws
  refine ⟨run_returns_result_sets .empty commands ?_, ?_, ?_, ?_⟩
  · intro name hmem
    simp only [commands, List.mem_cons, List.not_mem_nil, reduceCtorEq, or_self] at hmem
  · decide +kernel
  · decide +kernel
  · decide +kernel

end Workspace
end SqlClient
