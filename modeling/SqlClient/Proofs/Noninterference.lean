import SqlClient.Proofs.HandleCustody
import SqlClient.Proofs.MirroredCommands

/-! # Statements do not interfere

Several parties use statements on one server, in any order.  The server writes down what all of them
do, keeps the settings of the last execution, whoever made it, and counts what it is given back;
nothing of this comes back to anybody.  As long as no script is registered and nothing is written to
a large object, a party is told what it would be told alone, and its statements are left as they
would be alone, with their cursors, columns, options and parameters (`noninterference`).

Each party has its own workspace besides the common one, in which nobody else does anything.  That the
common one mirrors all of them, with different handles for each, is kept by every request
(`Concert.serve`).
-/
namespace SqlClient

open Scripted (Server Handle Lob ResultSet Script)

/-! ## Requests -/

/-- No argument is a LOB handle. -/
def Command.Plain : Command → Prop
  | .executeWith _ args => ∀ v ∈ args.values, v.lob? = none
  | _ => True

/-- A command of a party.  Arguments that are LOB handles are given by the names of the handles. -/
structure Request (Party : Type) where
  party : Party
  command : Command
  /-- Slots of the arguments, each with the name of the handle that goes there. -/
  aliases : List (Nat × String)
  plain : command.Plain

/-- The arguments with named handles in their slots; a name that is not given stands for NULL. -/
def Arguments.fill (args : Arguments) (lobs : Named LobRef) (aliases : List (Nat × String)) :
    Arguments :=
  aliases.foldl (fun args entry => args.set entry.1 ((lobs.get? entry.2).elim .null .lob)) args

namespace Request

variable {Party : Type}

/-- The command as it is performed where handles have these names. -/
def resolved (r : Request Party) (lobs : Named LobRef) : Command :=
  match r.command with
  | .executeWith name args => .executeWith name (args.fill lobs r.aliases)
  | c => c

/-- The things that a request is about. -/
def things (r : Request Party) : List Thing :=
  r.command.things ++ r.aliases.map fun entry => .lob entry.2

end Request

namespace Workspace

variable {Party : Type}

/-- Perform the command of a request. -/
def serve (ws : Workspace) (r : Request Party) : Report × Workspace := ws.step (r.resolved ws.lobs)

/-- **What is reported to whom**, request by request. -/
def reports (ws : Workspace) : List (Request Party) → List (Party × Report)
  | [] => []
  | r :: rest => (r.party, (ws.serve r).1) :: reports (ws.serve r).2 rest

/-- The workspace after requests. -/
def after (ws : Workspace) (requests : List (Request Party)) : Workspace :=
  requests.foldl (fun ws r => (ws.serve r).2) ws

end Workspace

/-! ## One request -/

variable {Party : Type} {ids : List Nat}

/-- Handles of the same names go into the same slots. -/
theorem Arguments.Renumbered.fill {args args' : Arguments} (h : args.Renumbered ids args')
    {lobs lobs' : Named LobRef} {aliases : List (Nat × String)}
    (hnames : ∀ entry ∈ aliases,
      Option.Rel (LobRef.Renumbered ids) (lobs.get? entry.2) (lobs'.get? entry.2)) :
    (args.fill lobs aliases).Renumbered ids (args'.fill lobs' aliases) := by
  induction aliases generalizing args args' with
  | nil => exact h
  | cons entry rest ih =>
    refine ih (h.set entry.1 ?_) fun entry hentry => hnames entry (List.mem_cons_of_mem _ hentry)
    obtain ⟨hx, hy⟩ | ⟨ref, ref', hx, hy, href⟩ := rel_cases (hnames entry (List.mem_cons_self ..))
    · rw [hx, hy]
      exact .plain .null rfl
    · rw [hx, hy]
      exact .lob href

namespace Request

/-- A request is the same command for all, up to the numbers of handles. -/
theorem renumbered_resolved (r : Request Party) {lobs lobs' : Named LobRef}
    (hnames : ∀ entry ∈ r.aliases,
      Option.Rel (LobRef.Renumbered ids) (lobs.get? entry.2) (lobs'.get? entry.2)) :
    (r.resolved lobs).Renumbered ids (r.resolved lobs') := by
  obtain ⟨party, command, aliases, hplain⟩ := r
  cases command with
  | executeWith name args => exact .executeWith name ((Arguments.Renumbered.refl hplain).fill hnames)
  | _ => exact .same _ (by simp [resolved])

theorem things_resolved (r : Request Party) (lobs : Named LobRef) :
    (r.resolved lobs).things = r.command.things := by
  obtain ⟨party, command, aliases, hplain⟩ := r
  cases command <;> rfl

theorem quiet_resolved {r : Request Party} (h : r.command.Quiet) (lobs : Named LobRef) :
    (r.resolved lobs).Quiet := by
  obtain ⟨party, command, aliases, hplain⟩ := r
  cases command <;> exact h

end Request

/-- No script is registered, so no script names contents that are not kept. -/
theorem Command.Quiet.stored {c : Command} (h : c.Quiet) (limit : Nat) : c.Stored limit := by
  cases c with
  | register sql script => exact h.elim
  | _ => trivial

namespace Workspace

/-- **All parties at once**: the common workspace mirrors that of every party, with different
handles for each. -/
structure Concert (owner : Thing → Party) (limit : Nat) (ids : Party → List Nat)
    (vs : Party → Workspace) (ws : Workspace) : Prop where
  mirrors : ∀ p, Mirrors (fun thing => owner thing = p) limit (ids p) (vs p) ws
  apart : ∀ p q, p ≠ q → ∀ id ∈ ids p, id ∉ ids q
  stocked : ws.Stocked limit

/-- At first nobody has anything. -/
theorem concert_new (owner : Thing → Party) {server : Server}
    (hserver : server.Stored server.contents.length) :
    Concert owner server.contents.length (fun _ => []) (fun _ => new server) (new server) where
  mirrors := fun p =>
    { world :=
        { scripts := rfl
          length := rfl
          nodup := List.nodup_nil
          handle := fun _ _ _ hid => by cases hid
          shown := fun n hn => ⟨server.contents[n], List.getElem?_eq_getElem hn,
            List.getElem?_eq_getElem hn⟩ }
      statements := fun _ _ => .none
      rows := fun _ _ => .none
      lobs := fun _ _ => .none }
  apart := fun _ _ _ _ hid => by cases hid
  stocked := stocked_new hserver

variable [DecidableEq Party] {owner : Thing → Party} {limit : Nat} {ids : Party → List Nat}
  {vs : Party → Workspace} {ws : Workspace}

/-- **A request is answered as if its party were alone**, and all parties have what they would have
alone. -/
theorem Concert.serve (h : Concert owner limit ids vs ws) {r : Request Party}
    (hown : ∀ thing ∈ r.things, owner thing = r.party) (hquiet : r.command.Quiet) :
    (ws.serve r).1 = ((vs r.party).serve r).1 ∧
      ∃ ids', Concert owner limit ids' (Function.update vs r.party ((vs r.party).serve r).2)
        (ws.serve r).2 := by
  have hmirrors := h.mirrors r.party
  have hcommand : (r.resolved (vs r.party).lobs).Renumbered (ids r.party) (r.resolved ws.lobs) :=
    r.renumbered_resolved fun entry hentry => hmirrors.lobs entry.2
      (hown _ (List.mem_append_right _ (List.mem_map_of_mem hentry)))
  have hthings : ∀ thing ∈ (r.resolved (vs r.party).lobs).things, owner thing = r.party := by
    rw [r.things_resolved]
    exact fun thing hmem => hown thing (List.mem_append_left _ hmem)
  obtain ⟨hreport, ids', hadvances, hafter⟩ :=
    hmirrors.step h.stocked hcommand hthings (Request.quiet_resolved hquiet _)
  have hbeside : Beside r.command.things ws (ws.serve r).2 :=
    r.things_resolved ws.lobs ▸ beside_step ws (r.resolved ws.lobs)
  refine ⟨hreport, Function.update ids r.party ids', fun p => ?_, fun p q hne id hid => ?_, ?_⟩
  · by_cases hp : p = r.party
    · subst hp
      rw [Function.update_self, Function.update_self]
      exact hafter
    · -- what the party of the request does, others do not notice
      rw [Function.update_of_ne hp, Function.update_of_ne hp]
      refine (h.mirrors p).spared hadvances.spares (h.apart p r.party hp) hbeside ?_
      intro thing hmem howner
      exact hp (howner.symm.trans (hown thing (List.mem_append_left _ hmem)))
  · -- new handles have numbers that nobody has
    have hfresh {p : Party} {id : Nat} (hold : id ∈ ids p) (hother : p ≠ r.party) : id ∉ ids' := by
      intro hnew
      rcases hadvances.fresh id hnew with hmem | hlength
      · exact h.apart p r.party hother id hold hmem
      · exact absurd ((h.mirrors p).world.lt_length hold) (Nat.not_lt.mpr hlength)
    by_cases hp : p = r.party
    · subst hp
      rw [Function.update_self] at hid
      rw [Function.update_of_ne hne.symm]
      exact fun hold => hfresh hold hne.symm hid
    · rw [Function.update_of_ne hp] at hid
      by_cases hq : q = r.party
      · subst hq
        rw [Function.update_self]
        exact hfresh hid hp
      · rw [Function.update_of_ne hq]
        exact h.apart p q hne id hid
  · exact (effect_step ws _).stocked limit
      ((Request.quiet_resolved hquiet ws.lobs).stored limit) h.stocked

/-! ## All requests -/

/-- **Requests of all parties**, in any order. -/
theorem Concert.run (h : Concert owner limit ids vs ws) {requests : List (Request Party)}
    (hown : ∀ r ∈ requests, ∀ thing ∈ r.things, owner thing = r.party)
    (hquiet : ∀ r ∈ requests, r.command.Quiet) :
    (∀ p, (ws.reports requests).filter (fun entry => entry.1 = p) =
        (vs p).reports (requests.filter fun r => r.party = p)) ∧
      ∃ ids', Concert owner limit ids'
        (fun p => (vs p).after (requests.filter fun r => r.party = p)) (ws.after requests) := by
  induction requests generalizing ids vs ws with
  | nil => exact ⟨fun _ => rfl, ids, h⟩
  | cons r rest ih =>
    obtain ⟨hreport, ids', hnext⟩ :=
      h.serve (hown r (List.mem_cons_self ..)) (hquiet r (List.mem_cons_self ..))
    obtain ⟨hrest, ids'', hlast⟩ := ih hnext
      (fun r hr => hown r (List.mem_cons_of_mem _ hr)) fun r hr => hquiet r (List.mem_cons_of_mem _ hr)
    refine ⟨fun p => ?_, ids'', ?_⟩
    · have hp := hrest p
      by_cases hparty : r.party = p
      · subst hparty
        rw [Function.update_self] at hp
        rw [List.filter_cons_of_pos (by simp), reports, reports,
          List.filter_cons_of_pos (by simp), hp, hreport]
      · rw [Function.update_of_ne (Ne.symm hparty)] at hp
        rw [List.filter_cons_of_neg (by simpa using hparty), reports,
          List.filter_cons_of_neg (by simpa using hparty), hp]
    · have hworkspaces : (fun p => (vs p).after ((r :: rest).filter fun r => r.party = p)) =
          fun p => (Function.update vs r.party ((vs r.party).serve r).2 p).after
            (rest.filter fun r => r.party = p) := by
        funext p
        by_cases hparty : r.party = p
        · subst hparty
          rw [Function.update_self, List.filter_cons_of_pos (by simp)]
          rfl
        · rw [Function.update_of_ne (Ne.symm hparty),
            List.filter_cons_of_neg (by simpa using hparty)]
      rw [hworkspaces]
      exact hlast

/-- **Statements on one server do not interfere.**  Parties share a server, each with things of its
own, and make requests in any order; no script is registered on the way, and nothing is written to a
large object.  Then every party is told what it is told when it makes its requests alone, and it is
left with the statements that it has alone. -/
theorem noninterference (owner : Thing → Party) {server : Server}
    (hserver : server.Stored server.contents.length) {requests : List (Request Party)}
    (hown : ∀ r ∈ requests, ∀ thing ∈ r.things, owner thing = r.party)
    (hquiet : ∀ r ∈ requests, r.command.Quiet) (p : Party) :
    ((new server).reports requests).filter (fun entry => entry.1 = p) =
        (new server).reports (requests.filter fun r => r.party = p) ∧
      ∀ name, owner (.statement name) = p →
        ((new server).after requests).statements.get? name =
          ((new server).after (requests.filter fun r => r.party = p)).statements.get? name := by
  obtain ⟨hreports, ids', hafter⟩ := (concert_new owner hserver).run hown hquiet
  exact ⟨hreports p, fun name hname => ((hafter.mirrors p).statement_eq hname).symm⟩

/-- Two parties open the same large object, one after the other, and read it in turns.  One of them
also binds its handle, where an output is written over it.  Among others its handle has another number
than alone. -/
theorem noninterference_interleaved :
    let documents : Script :=
      ⟨.query ⟨[.ofLength "B" SqlType.blob.code 10], [[.lob 0], [.null]]⟩, [], some (7, 7)⟩
    let procedure : Script :=
      ⟨.call fun _ => .ok [.int32 7], [.ofLength SqlType.integer.code 10 .output], none⟩
    let server : Server :=
      { Server.empty with
        scripts := [("SELECT B FROM D", documents), ("CALL P(?)", procedure)]
        contents := [[1, 2, 3]] }
    let owner (thing : Thing) : Bool :=
      decide (thing ∈ [.statement "s", .statement "p", .row "r", .lob "b"])
    let requests : List (Request Bool) :=
      [⟨false, .create "t" .empty false, [], trivial⟩,
        ⟨true, .create "s" { Options.empty with maxRows := some 1 } false, [], trivial⟩,
        ⟨false, .execute "t" "SELECT B FROM D", [], trivial⟩,
        ⟨true, .execute "s" "SELECT B FROM D", [], trivial⟩,
        ⟨false, .fetch "t" .next (some "u"), [], trivial⟩,
        ⟨true, .fetch "s" .next (some "r"), [], trivial⟩,
        ⟨false, .take "u" (.index 0) "c", [], trivial⟩,
        ⟨true, .take "r" (.index 0) "b", [], trivial⟩,
        ⟨true, .prepare "p" "CALL P(?)" .empty false, [], trivial⟩,
        ⟨false, .lob "c" (.read none 2), [], trivial⟩,
        ⟨true, .lob "b" (.read none 1), [], trivial⟩,
        ⟨true, .executeWith "p" (.positional [.null]), [(0, "b")], by
          simp [Command.Plain, Arguments.values, Value.lob?]⟩,
        ⟨false, .lob "c" .close, [], trivial⟩,
        ⟨true, .lob "b" (.read none 4), [], trivial⟩,
        ⟨false, .drop "t", [], trivial⟩,
        ⟨true, .serial "s" .last, [], trivial⟩]
    let own := requests.filter fun r => r.party = true
    (((new server).reports requests).filter (fun entry => entry.1 = true) =
        (new server).reports own ∧
      ∀ name, owner (.statement name) = true →
        ((new server).after requests).statements.get? name =
          ((new server).after own).statements.get? name) ∧
      server.Stored server.contents.length ∧
      ((new server).after requests).lobs.get? "b" = some ⟨1, .binary⟩ ∧
      ((new server).after own).lobs.get? "b" = some ⟨0, .binary⟩ := by
  intro documents procedure server owner requests own
  have hdocuments : documents.Stored server.contents.length := by
    rintro _ ⟨⟩
    simp [server, Scripted.Cell.Stored]
  have hprocedure : procedure.Stored server.contents.length := by
    rintro _ ⟨⟩
  have hserver : server.Stored server.contents.length := by
    intro sql script hscript
    simp only [server, List.mem_cons, Prod.mk.injEq, List.not_mem_nil, or_false] at hscript
    rcases hscript with ⟨-, rfl⟩ | ⟨-, rfl⟩
    · exact hdocuments
    · exact hprocedure
  have hown : ∀ r ∈ requests, ∀ thing ∈ r.things, owner thing = r.party := by decide +kernel
  have hquiet : ∀ r ∈ requests, r.command.Quiet := by simp [requests, Command.Quiet]
  refine ⟨noninterference owner hserver hown hquiet true, hserver, ?_, ?_⟩
  · decide +kernel
  · decide +kernel

end Workspace
end SqlClient
