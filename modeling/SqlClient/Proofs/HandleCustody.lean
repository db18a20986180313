import SqlClient.Proofs.WorkspaceHandles

/-! # No LOB handle leaks

Over any run of a program the handles there are are the ones that were opened, each with as many
aliases as the program holds, and the server was given back those that are open no longer
(`Conserved.run`, `length_run`).  So what it was given back is what was opened but for the handles
that are open with a live alias, and a program that drops everything gives everything back
(`run_conserves_handles`).
-/
namespace SqlClient

open Scripted (Server Lob Script)

namespace World

variable {w : ClientWorld} {base : Nat} {owners : Nat → Nat}

/-- An open handle has an alias. -/
theorem Owned.countP_isOpen (h : Owned base owners w) :
    (w.handles.countP fun x => x.isOpen && decide (0 < x.aliases)) =
      w.handles.countP LobHandle.isOpen := by
  apply List.countP_congr
  intro x hx
  obtain ⟨id, hid⟩ := List.mem_iff_getElem?.mp hx
  have hlive := h.live id x hid
  simpa using hlive

/-- Where nobody holds a handle, all were given back. -/
theorem Owned.closedLobs_eq (h : Owned base (fun _ => 0) w) :
    w.server.closedLobs = base + w.handles.length := by
  have hclosed : w.handles.countP LobHandle.isOpen = 0 := by
    rw [List.countP_eq_zero]
    intro x hx hopen
    obtain ⟨id, hid⟩ := List.mem_iff_getElem?.mp hx
    have hlive := h.live id x hid hopen
    rw [h.aliases id x hid] at hlive
    exact Nat.lt_irrefl 0 hlive
  rw [← h.closed, hclosed, Nat.add_zero]

/-- Things that are dropped one after the other give up what each of them holds. -/
theorem Owned.foldl {α : Type} {f : ClientWorld → α → ClientWorld} (count : α → Nat → Nat)
    (hf : ∀ (owners : Nat → Nat) (w : ClientWorld) (a : α),
      Owned base (fun id => owners id + count a id) w → Owned base owners (f w a))
    (l : List α) (h : Owned base (fun id => owners id + (l.map (count · id)).sum) w) :
    Owned base owners (l.foldl f w) := by
  induction l generalizing w with
  | nil => exact h
  | cons a l ih =>
    apply ih
    apply hf
    refine h.congr fun id => ?_
    rw [List.map_cons, List.sum_cons]
    omega

theorem length_foldl {α : Type} {f : ClientWorld → α → ClientWorld}
    (hf : ∀ (w : ClientWorld) (a : α), (f w a).handles.length = w.handles.length) (l : List α)
    (w : ClientWorld) : (l.foldl f w).handles.length = w.handles.length := by
  induction l generalizing w with
  | nil => rfl
  | cons a l ih => exact (ih (f w a)).trans (hf w a)

end World

namespace Workspace

variable {ws : Workspace} {c : Command} {base : Nat}

/-! ## Runs -/

/-- **No run loses an alias**, whatever it does and whatever fails in it. -/
theorem Conserved.run (h : ws.Conserved base) (commands : List Command) :
    (ws.run commands).2.Conserved base := by
  induction commands generalizing ws with
  | nil => exact h
  | cons c rest ih => exact ih ((effect_step ws c).conserved base h)

/-- The handles after a run are those that were there and those that it opened. -/
theorem length_run (ws : Workspace) (commands : List Command) :
    (ws.run commands).2.world.handles.length = ws.world.handles.length + ws.opened commands := by
  induction commands generalizing ws with
  | nil => rfl
  | cons c rest ih =>
    refine (ih (ws.step c).2).trans ?_
    rw [(effect_step ws c).length, opened, Nat.add_assoc]

theorem Stocked.run {limit : Nat} (h : ws.Stocked limit) {commands : List Command}
    (hcommands : ∀ c ∈ commands, c.Stored limit) : (ws.run commands).2.Stocked limit := by
  induction commands generalizing ws with
  | nil => exact h
  | cons c rest ih =>
    exact ih ((effect_step ws c).stocked limit (hcommands c (List.mem_cons_self ..)) h)
      fun c' hmem => hcommands c' (List.mem_cons_of_mem _ hmem)

theorem conserved_new (server : Server) : (new server).Conserved server.closedLobs where
  owned := ⟨by simp [new, World.new], by simp [new, World.new], rfl⟩
  known := fun _ _ => rfl
  rows := List.nodup_nil
  lobs := List.nodup_nil

theorem stocked_new {server : Server} (h : server.Stored server.contents.length) :
    (new server).Stocked server.contents.length where
  world := ⟨h, le_refl _, by simp [new, World.new, World.Backed]⟩
  statements := by simp [new, Named.things]

/-! ## Giving everything back -/

theorem lobState_closeAll (statements : List Statement) (w : ClientWorld) :
    (statements.foldl (fun w s => (Statement.close (s, w)).2) w).lobState = w.lobState := by
  induction statements generalizing w with
  | nil => rfl
  | cons s rest ih => exact (ih _).trans (Statement.aside_close (s, w)).lobState

/-- **A workspace that is cleared gives back all handles.** -/
theorem Conserved.clear (h : ws.Conserved base) :
    ws.clear.world.server.closedLobs = base + ws.world.handles.length := by
  have hclosed := World.gains_of_lobState_eq (lobState_closeAll ws.statements.things ws.world)
  have howned := hclosed.owned base ws.holders h.known h.owned
  have hrows : World.Owned base (fun id => ws.lobs.total fun ref => aliasCount [.lob ref] id) _ :=
    World.Owned.foldl (fun row => aliasCount row.values) (fun _ _ _ => World.Owned.releaseAll)
      ws.rows.things (howned.congr fun id => Nat.add_comm ..)
  have hlobs : World.Owned base (fun _ => 0) ws.clear.world :=
    World.Owned.foldl (fun ref => aliasCount [.lob ref]) (fun _ _ _ => World.Owned.dropAlias)
      ws.lobs.things (hrows.congr fun id => Nat.zero_add _)
  rw [hlobs.closedLobs_eq]
  have hlength : ws.clear.world.handles.length = ws.world.handles.length := by
    rw [Workspace.clear]
    refine (World.length_foldl World.length_dropAlias _ _).trans ?_
    refine (World.length_foldl (fun w (row : Row) => w.length_releaseAll row.values) _ _).trans ?_
    exact hclosed.length
  rw [hlength]

/-! ## Both together -/

/-- **Where the LOB handles are** that commands opened on a server. -/
structure Custody (server : Server) (commands : List Command) (ws : Workspace) : Prop where
  /-- A handle has as many live aliases as there are references to it in rows and under names. -/
  aliases : ∀ (id : Nat) (x : LobHandle Lob), ws.world.handles[id]? = some x →
    x.aliases = ws.holders id
  /-- All that were opened were given back, but for those that are open with a live alias. -/
  counts : (ws.world.server.closedLobs : Int) - server.closedLobs =
    (new server).opened commands -
      (ws.world.handles.countP fun x => x.isOpen && decide (0 < x.aliases) : Nat)
  /-- A handle that is held after a command is as it was before, unless the command is a call on a
  handle. -/
  steady : ∀ c, (∀ lob call, c ≠ .lob lob call) → ∀ (id : Nat) (x : LobHandle Lob),
    ws.world.handles[id]? = some x → 0 < (ws.step c).2.holders id →
      ∃ x', (ws.step c).2.world.handles[id]? = some x' ∧ x'.lob = x.lob ∧ x'.kind = x.kind ∧
        x'.isOpen = x.isOpen
  /-- So is its content, given that all scripts name contents that the server had at the start. -/
  contents : server.Stored server.contents.length →
    (∀ c ∈ commands, c.Stored server.contents.length) →
      ∀ c, (∀ lob call, c ≠ .lob lob call) → ∀ (id : Nat) (x : LobHandle Lob),
        ws.world.handles[id]? = some x →
          (ws.step c).2.world.server.content x.lob.content =
            ws.world.server.content x.lob.content
  /-- In the end there is nothing left to give back. -/
  clears : (ws.clear.world.server.closedLobs : Int) - server.closedLobs =
    (new server).opened commands

/-- A handle that is held keeps what it has. -/
theorem Conserved.steady (h : ws.Conserved base) (hc : ∀ lob call, c ≠ .lob lob call) {id : Nat}
    {x : LobHandle Lob} (hx : ws.world.handles[id]? = some x)
    (hheld : 0 < (ws.step c).2.holders id) :
    ∃ x', (ws.step c).2.world.handles[id]? = some x' ∧ x'.lob = x.lob ∧ x'.kind = x.kind ∧
      x'.isOpen = x.isOpen := by
  have heffect := effect_step ws c
  obtain ⟨x', hx', hlob, hkind, hopen⟩ := (heffect.steady hc).handle id x hx
  refine ⟨x', hx', hlob, hkind, hopen.resolve_right fun hdead => ?_⟩
  rw [(heffect.conserved base h).owned.aliases id x' hx'] at hdead
  omega

/-- A content that is kept stays under its number. -/
theorem Stocked.content_step {limit : Nat} (h : ws.Stocked limit)
    (hc : ∀ lob call, c ≠ .lob lob call) {id : Nat} {x : LobHandle Lob}
    (hx : ws.world.handles[id]? = some x) :
    (ws.step c).2.world.server.content x.lob.content =
      ws.world.server.content x.lob.content := by
  have hlt := h.world.backed id x hx
  obtain ⟨more, hmore⟩ := ((effect_step ws c).steady hc).contents
  rw [Server.content, Server.content, ← hmore, List.getElem?_append_left hlt]

/-- **No LOB handle leaks, and none is closed while it is held**: at every point of a run the server
was given back all handles that were opened but those that are open with a live alias. -/
theorem run_conserves_handles (server : Server) (commands : List Command) :
    Custody server commands ((new server).run commands).2 := by
  have hconserved := (conserved_new server).run commands
  have hlength : ((new server).run commands).2.world.handles.length =
      (new server).opened commands := by
    rw [length_run]
    exact Nat.zero_add _
  have hcount := hconserved.owned.closed
  have hclear := hconserved.clear
  exact
    { aliases := hconserved.owned.aliases
      counts := by rw [hconserved.owned.countP_isOpen]; omega
      steady := fun c hc id x hx hheld => hconserved.steady hc hx hheld
      contents := fun hserver hcommands c hc id x hx =>
        ((stocked_new hserver).run hcommands).content_step hc hx
      clears := by omega }

/-- Two rows with the same large object are fetched.  The first is kept and dropped after its handle
got a name, while an output was written over an alias; the second row fails after its handle was
opened. -/
theorem run_conserves_handles_overwritten :
    let server : Server := { Server.empty with contents := [[1, 2, 3]] }
    let documents : Script :=
      ⟨.query ⟨[.ofLength "B" SqlType.blob.code 10, .ofLength "N" SqlType.integer.code 10],
        [[.lob 0, .int 5], [.lob 0, .text "five"]]⟩, [], none⟩
    let procedure : Script :=
      ⟨.call fun _ => .ok [.int32 7], [.ofLength SqlType.integer.code 10 .output], none⟩
    let commands : List Command :=
      [.register "SELECT B, N FROM D" documents, .register "CALL P(?)" procedure,
        .create "s" .empty false, .execute "s" "SELECT B, N FROM D", .fetch "s" .next (some "r"),
        .fetch "s" .next none, .take "r" (.index 0) "b", .prepare "p" "CALL P(?)" .empty false,
        .executeWith "p" (.positional [.lob ⟨0, .binary⟩]), .dropRow "r", .drop "s"]
    let ws := ((new server).run commands).2
    Custody server commands ws ∧
      (server.Stored server.contents.length ∧ ∀ c ∈ commands, c.Stored server.contents.length) ∧
      (new server).opened commands = 2 ∧ ws.world.server.closedLobs = 1 ∧ ws.holders 0 = 1 := by
  intro server documents procedure commands ws
  have hdocuments : documents.Stored server.contents.length := by
    rintro _ ⟨⟩
    simp [server, Scripted.Cell.Stored]
  have hprocedure : procedure.Stored server.contents.length := by
    rintro _ ⟨⟩
  have hcommands : ∀ c ∈ commands, c.Stored server.contents.length := by
    simp [commands, Command.Stored, hdocuments, hprocedure]
  refine ⟨run_conserves_handles server commands, ⟨by simp [server, Server.Stored, Server.empty],
    hcommands⟩, ?_, ?_, ?_⟩
  · decide +kernel
  · decide +kernel
  · decide +kernel

end Workspace
end SqlClient
