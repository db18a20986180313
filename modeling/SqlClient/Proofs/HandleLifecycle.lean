import SqlClient.Proofs.ScriptedObjects

/-! # The life of a shared handle

A program uses a handle through its aliases: it makes new ones, drops them, and makes calls.  The
server may do what it is asked or fail, each time anew.

`SharedHandle` follows a handle from its first alias to its last.  It knows the live aliases by
name, and keeps a log of the requests made of the server, each with whether it was fulfilled.  The
log is no assumption: the object and what it shares with others are where these requests take them,
one after the other (`Served`).  What holds of aliases and log at every point is `Lifecycle`: the
object is closed at most once, and no later than with the last alias.
-/
namespace SqlClient

/-- A request with whether the server fulfilled it. -/
abbrev LobLog := List (LobRequest × Bool)

/-- The number of times that an object was closed. -/
def LobLog.closings (log : LobLog) : Nat := log.count (.close, true)

theorem LobLog.closings_append (log : LobLog) (r : LobRequest) (fulfilled : Bool) :
    closings (log ++ [(r, fulfilled)]) =
      log.closings + if r = .close ∧ fulfilled = true then 1 else 0 := by
  have hentry : ((r, fulfilled) == (LobRequest.close, true)) =
      decide (r = .close ∧ fulfilled = true) := by
    simp [beq_eq_decide]
  simp [closings, List.count_append, List.count_singleton, hentry]

/-- Something that a program does with one alias of a handle. -/
inductive HandleUse where
  | share (name fresh : String)
  | drop (name : String)
  | call (name : String) (c : LobCall)
  deriving DecidableEq, Repr

/-- A handle with its aliases, the world of its object, and what was asked of the server. -/
structure SharedHandle (σ ω : Type) where
  handle : LobHandle σ
  world : ω
  /-- The names of the live aliases. -/
  live : List String
  log : LobLog

section AnyServer

variable {σ ω : Type} [RemoteLob σ ω]

/-- **The server was asked for exactly what a log says**, and answered as it says: on the way from
one state to another. -/
def Served : LobLog → σ × ω → σ × ω → Prop
  | [], before, after => before = after
  | (r, fulfilled) :: rest, before, after =>
    r.fulfilled before = fulfilled ∧ Served rest (leaves (r.serve before)) after

theorem Served.append {log later : LobLog} {x y z : σ × ω} (hfirst : Served log x y)
    (hnext : Served later y z) : Served (log ++ later) x z := by
  induction log generalizing x with
  | nil =>
    obtain rfl : x = y := hfirst
    exact hnext
  | cons entry rest ih => exact ⟨hfirst.1, ih hfirst.2⟩

namespace SharedHandle

/-- A handle on an open object, with one alias. -/
def start (lob : σ) (kind : LobKind) (w : ω) (name : String) : SharedHandle σ ω :=
  ⟨.new lob kind, w, [name], []⟩

/-- The state of the object on the server. -/
def remote (x : SharedHandle σ ω) : σ × ω := (x.handle.lob, x.world)

/-- The request that a call through an alias makes, if it makes one. -/
def asked (x : SharedHandle σ ω) (c : LobCall) : List LobRequest :=
  (x.handle.request? c).toOption.toList

/-- The request that dropping an alias makes, if it makes one. -/
def askedByDrop (x : SharedHandle σ ω) : List LobRequest :=
  if x.handle.aliases = 1 ∧ x.handle.isOpen then [.close] else []

/-- The log with requests that are made now. -/
def logged (x : SharedHandle σ ω) (requests : List LobRequest) : LobLog :=
  x.log ++ requests.map fun r => (r, r.fulfilled x.remote)

/-- Something is done with an alias.  What is not alive cannot be used, and a name that is taken
cannot be given to a new alias. -/
def use (x : SharedHandle σ ω) : HandleUse → SharedHandle σ ω
  | .share name fresh =>
    if name ∈ x.live ∧ fresh ∉ x.live then
      { x with handle := x.handle.addAlias, live := fresh :: x.live }
    else x
  | .drop name =>
    if name ∈ x.live then
      let (handle, world) := LobHandle.drop (x.handle, x.world)
      { handle, world, live := x.live.erase name, log := x.logged x.askedByDrop }
    else x
  | .call name c =>
    if name ∈ x.live then
      let (handle, world) := leaves (LobHandle.perform c (x.handle, x.world))
      { x with handle, world, log := x.logged (x.asked c) }
    else x

/-- One use after the other. -/
def run (x : SharedHandle σ ω) (uses : List HandleUse) : SharedHandle σ ω := uses.foldl use x

/-! ## What every use keeps -/

/-- **What every use keeps** of a handle on an object that was in some state at first. -/
structure Kept (origin : σ × ω) (x : SharedHandle σ ω) : Prop where
  names : x.live.Nodup
  aliases : x.handle.aliases = x.live.length
  served : Served x.log origin x.remote
  isOpen_iff : x.live ≠ [] → (x.handle.isOpen = true ↔ x.log.closings = 0)
  closings_le : x.log.closings ≤ 1
  /-- With the last alias the object was closed, or it was tried. -/
  ended : x.live = [] → ∃ fulfilled, (.close, fulfilled) ∈ x.log

variable {origin : σ × ω} {x : SharedHandle σ ω} {name fresh : String}

theorem kept_start (lob : σ) (kind : LobKind) (w : ω) (name : String) :
    Kept (lob, w) (start lob kind w name) where
  names := List.nodup_singleton name
  aliases := rfl
  served := rfl
  isOpen_iff := fun _ => ⟨fun _ => rfl, fun _ => rfl⟩
  closings_le := Nat.zero_le 1
  ended := nofun

theorem Kept.share (h : Kept origin x) (hname : name ∈ x.live) (hfresh : fresh ∉ x.live) :
    Kept origin { x with handle := x.handle.addAlias, live := fresh :: x.live } where
  names := List.nodup_cons.mpr ⟨hfresh, h.names⟩
  aliases := congrArg (· + 1) h.aliases
  served := h.served
  isOpen_iff := fun _ => h.isOpen_iff (List.ne_nil_of_mem hname)
  closings_le := h.closings_le
  ended := nofun

theorem Kept.call (h : Kept origin x) (hname : name ∈ x.live) (c : LobCall) :
    Kept origin (x.use (.call name c)) := by
  have hleaves := LobHandle.leaves_perform c x.handle x.world
  simp only [use, if_pos hname, hleaves]
  cases hrequest : x.handle.request? c with
  | error e =>
    have hlog : x.logged (x.asked c) = x.log := by simp [logged, asked, hrequest, Except.toOption]
    simp only [hlog]
    exact h
  | ok r =>
    have hopen := LobHandle.isOpen_of_request? hrequest
    have hnone := (h.isOpen_iff (List.ne_nil_of_mem hname)).mp hopen
    have hlog : x.logged (x.asked c) = x.log ++ [(r, r.fulfilled x.remote)] := by
      simp [logged, asked, hrequest, Except.toOption]
    simp only [hlog]
    refine ⟨h.names, h.aliases, h.served.append ⟨rfl, rfl⟩, fun _ => ?_, ?_, fun hdead => ?_⟩
    · have hafter : (x.handle.after r (r.fulfilled x.remote)
          (leaves (r.serve x.remote)).1).isOpen = true ↔
          ¬ (r = .close ∧ r.fulfilled x.remote = true) := by
        simp [LobHandle.after, hopen]
        tauto
      rw [LobLog.closings_append, hnone, Nat.zero_add]
      refine hafter.trans ?_
      by_cases hclosed : r = .close ∧ r.fulfilled x.remote = true
      · simp only [if_pos hclosed, Nat.one_ne_zero, iff_false, not_not]
        exact hclosed
      · simp only [if_neg hclosed, iff_true]
        exact hclosed
    · rw [LobLog.closings_append, hnone]
      split <;> omega
    · exact absurd hdead (List.ne_nil_of_mem hname)

theorem Kept.drop (h : Kept origin x) (hname : name ∈ x.live) :
    Kept origin (x.use (.drop name)) := by
  have hlength := List.length_erase_of_mem hname
  have hpos := List.length_pos_of_mem hname
  have hdrop := LobHandle.drop_eq (h := x.handle) (by rw [h.aliases]; omega) x.world
  simp only [use, if_pos hname, hdrop, logged, askedByDrop]
  by_cases hclose : x.handle.aliases = 1 ∧ x.handle.isOpen = true
  · -- the last alias closes what is still open
    have hnone := (h.isOpen_iff (List.ne_nil_of_mem hname)).mp hclose.2
    have hdead : x.live.erase name = [] :=
      List.eq_nil_of_length_eq_zero (by rw [hlength, ← h.aliases, hclose.1])
    simp only [if_pos hclose, List.map_cons, List.map_nil]
    refine ⟨h.names.erase name, ?_, h.served.append ⟨rfl, rfl⟩, fun hlive => absurd hdead hlive, ?_,
      fun _ => ⟨_, List.mem_append_right _ (List.mem_singleton_self _)⟩⟩
    · rw [hdead]
      rfl
    · rw [LobLog.closings_append, hnone]
      split <;> omega
  · simp only [if_neg hclose, List.map_nil, List.append_nil]
    refine ⟨h.names.erase name, ?_, h.served, ?_, h.closings_le, ?_⟩
    · rw [hlength, h.aliases]
    · exact fun _ => h.isOpen_iff (List.ne_nil_of_mem hname)
    · -- the last alias of a closed handle
      intro hdead
      have hnil : x.live.erase name = [] := hdead
      have hlast : x.handle.aliases = 1 := by
        rw [hnil, List.length_nil] at hlength
        rw [h.aliases]
        omega
      have hclosings : x.log.closings ≠ 0 := fun hnone =>
        hclose ⟨hlast, (h.isOpen_iff (List.ne_nil_of_mem hname)).mpr hnone⟩
      exact ⟨true, List.count_pos_iff.mp (Nat.pos_of_ne_zero hclosings)⟩

theorem Kept.use (h : Kept origin x) (u : HandleUse) : Kept origin (x.use u) := by
  cases u with
  | share name fresh =>
    by_cases hnames : name ∈ x.live ∧ fresh ∉ x.live
    · simp only [SharedHandle.use, if_pos hnames]
      exact h.share hnames.1 hnames.2
    · simpa only [SharedHandle.use, if_neg hnames] using h
  | drop name =>
    by_cases hname : name ∈ x.live
    · exact h.drop hname
    · simpa only [SharedHandle.use, if_neg hname] using h
  | call name c =>
    by_cases hname : name ∈ x.live
    · exact h.call hname c
    · simpa only [SharedHandle.use, if_neg hname] using h

theorem Kept.run (h : Kept origin x) (uses : List HandleUse) : Kept origin (x.run uses) := by
  induction uses generalizing x with
  | nil => exact h
  | cons u rest ih => exact ih (h.use u)

/-! ## The law of the lifecycle -/

/-- **The life of a handle**, at any point: what was asked of the server up to there, and what its
aliases can still do. -/
structure Lifecycle (origin : σ × ω) (x : SharedHandle σ ω) : Prop where
  /-- The log leaves nothing out. -/
  served : Served x.log origin x.remote
  aliases : x.handle.aliases = x.live.length
  /-- A close that failed leaves the handle open. -/
  isOpen_iff : x.live ≠ [] → (x.handle.isOpen = true ↔ x.log.closings = 0)
  closings_le : x.log.closings ≤ 1
  /-- After a close every alias refuses every call, and the server is not asked. -/
  closed : x.log.closings = 1 → ∀ name ∈ x.live, ∀ c,
    LobHandle.perform c (x.handle, x.world) = .error .lobClosed (x.handle, x.world) ∧
      x.use (.call name c) = x
  /-- Nothing is asked when an alias goes that is not the last. -/
  drop_shared : ∀ name ∈ x.live, x.live ≠ [name] →
    (x.use (.drop name)).log = x.log ∧ (x.use (.drop name)).remote = x.remote ∧
      (x.use (.drop name)).handle.isOpen = x.handle.isOpen
  /-- With the last alias one close is tried if none succeeded before, and none otherwise. -/
  drop_last : ∀ name, x.live = [name] →
    (x.use (.drop name)).live = [] ∧
      (x.use (.drop name)).log = x.log ++
        if x.handle.isOpen then [(.close, LobRequest.close.fulfilled x.remote)] else []

theorem Kept.closed (h : Kept origin x) (hclosings : x.log.closings = 1) (hname : name ∈ x.live)
    (c : LobCall) :
    LobHandle.perform c (x.handle, x.world) = .error .lobClosed (x.handle, x.world) ∧
      x.use (.call name c) = x := by
  have hclosed : x.handle.isOpen = false := by
    by_contra hopen
    have hnone := (h.isOpen_iff (List.ne_nil_of_mem hname)).mp (by simpa using hopen)
    omega
  have hperform := LobHandle.perform_of_closed hclosed c x.world
  refine ⟨hperform, ?_⟩
  have hasked : x.asked c = [] := by
    simp [asked, LobHandle.request?, hclosed, Except.toOption]
  simp only [SharedHandle.use, if_pos hname, hperform, leaves_error, hasked, logged, List.map_nil,
    List.append_nil]

theorem Kept.length_ne_one (h : Kept origin x) (hname : name ∈ x.live) (hshared : x.live ≠ [name]) :
    x.handle.aliases ≠ 1 := by
  rw [h.aliases]
  intro hone
  obtain ⟨only, honly⟩ := List.length_eq_one_iff.mp hone
  rw [honly, List.mem_singleton] at hname
  exact hshared (by rw [honly, hname])

theorem Kept.drop_shared (h : Kept origin x) (hname : name ∈ x.live) (hshared : x.live ≠ [name]) :
    (x.use (.drop name)).log = x.log ∧ (x.use (.drop name)).remote = x.remote ∧
      (x.use (.drop name)).handle.isOpen = x.handle.isOpen := by
  have hmany := h.length_ne_one hname hshared
  have hpos := List.length_pos_of_mem hname
  have hdrop := LobHandle.drop_eq (h := x.handle) (by rw [h.aliases]; omega) x.world
  rw [if_neg fun hlast => hmany hlast.1] at hdrop
  have hasked : x.askedByDrop = [] := if_neg fun hlast => hmany hlast.1
  simp only [SharedHandle.use, if_pos hname, hdrop, hasked, logged, List.map_nil, List.append_nil]
  exact ⟨trivial, rfl, trivial⟩

theorem Kept.drop_last (h : Kept origin x) (hlast : x.live = [name]) :
    (x.use (.drop name)).live = [] ∧
      (x.use (.drop name)).log = x.log ++
        if x.handle.isOpen then [(.close, LobRequest.close.fulfilled x.remote)] else [] := by
  have hname : name ∈ x.live := by simp [hlast]
  have hone : x.handle.aliases = 1 := by rw [h.aliases, hlast, List.length_singleton]
  have hasked : x.askedByDrop = if x.handle.isOpen then [.close] else [] := by
    simp [askedByDrop, hone]
  simp only [SharedHandle.use, if_pos hname, logged, hasked]
  refine ⟨by simp [hlast], ?_⟩
  by_cases hopen : x.handle.isOpen = true
  · simp only [if_pos hopen, List.map_cons, List.map_nil]
  · simp only [if_neg hopen, List.map_nil]

theorem Kept.lifecycle (h : Kept origin x) : Lifecycle origin x where
  served := h.served
  aliases := h.aliases
  isOpen_iff := h.isOpen_iff
  closings_le := h.closings_le
  closed := fun hclosings _ hname c => h.closed hclosings hname c
  drop_shared := fun _ hname hshared => h.drop_shared hname hshared
  drop_last := fun _ hlast => h.drop_last hlast

end SharedHandle
end AnyServer

/-! ## Objects of the scripted server -/

section ScriptedServer

open Scripted (Lob Server)

/-- What the scripted server counts are the closes of the log. -/
theorem Served.closedLobs {log : LobLog} {before after : Lob × Server}
    (h : Served log before after) :
    after.2.closedLobs = before.2.closedLobs + log.closings := by
  induction log generalizing before with
  | nil =>
    obtain rfl : before = after := h
    rfl
  | cons entry rest ih =>
    obtain ⟨r, fulfilled⟩ := entry
    obtain ⟨hfulfilled, hrest⟩ := h
    have hentry : LobLog.closings ((r, fulfilled) :: rest) =
        LobLog.closings rest + if r = .close then 1 else 0 := by
      by_cases hclose : r = .close
      · subst hclose
        rw [Lob.fulfilled_close] at hfulfilled
        subst hfulfilled
        exact List.count_cons_self
      · rw [if_neg hclose]
        exact List.count_cons_of_ne fun heq => hclose (congrArg Prod.fst heq)
    obtain ⟨_, _, contents, hserve, -⟩ := Lob.leaves_serve before.1 before.2 r
    rw [ih hrest, hentry, hserve]
    simp only
    omega

theorem Served.eq_true_of_close {log : LobLog} {before after : Lob × Server} {fulfilled : Bool}
    (h : Served log before after) (hclose : (.close, fulfilled) ∈ log) : fulfilled = true := by
  induction log generalizing before with
  | nil => cases hclose
  | cons entry rest ih =>
    rcases List.mem_cons.mp hclose with rfl | hrest
    · exact h.1.symm.trans (Lob.fulfilled_close before)
    · exact ih h.2 hrest

/-- When the last alias is gone, the object was closed once. -/
theorem SharedHandle.Kept.closedLobs {lob : Lob} {s : Server} {x : SharedHandle Lob Server}
    (h : Kept (lob, s) x) (hdead : x.live = []) : x.world.closedLobs = s.closedLobs + 1 := by
  obtain ⟨fulfilled, hclose⟩ := h.ended hdead
  obtain rfl := h.served.eq_true_of_close hclose
  have hpos : 0 < x.log.closings := List.count_pos_iff.mpr hclose
  have hle := h.closings_le
  have hcount : x.world.closedLobs = s.closedLobs + x.log.closings := h.served.closedLobs
  omega

end ScriptedServer

/-- **The lifecycle of a handle.**  However its aliases are used, and whatever the server makes of
each request, the object is closed at most once, by the first close that succeeds; from there on
every alias refuses every call.  The scripted server has closed the object exactly once when no
alias is left. -/
theorem SharedHandle.run_lifecycle :
    (∀ (σ ω : Type) [RemoteLob σ ω] (lob : σ) (kind : LobKind) (w : ω) (name : String)
      (uses : List HandleUse), Lifecycle (lob, w) ((start lob kind w name).run uses)) ∧
    ∀ (lob : Scripted.Lob) (kind : LobKind) (s : Scripted.Server) (name : String)
      (uses : List HandleUse), ((start lob kind s name).run uses).live = [] →
      ((start lob kind s name).run uses).world.closedLobs = s.closedLobs + 1 := by
  constructor
  · intro σ ω _ lob kind w name uses
    exact ((kept_start lob kind w name).run uses).lifecycle
  · intro lob kind s name uses hdead
    exact ((kept_start lob kind s name).run uses).closedLobs hdead

/-- An object that its server refuses to close so many times. -/
structure Reluctant where
  refusals : Nat
  deriving DecidableEq, Repr

instance : RemoteLob Reluctant Unit where
  length := return 0
  position := return 1
  preferredSize := return 0
  read _ _ := return .noData
  write _ := return ()
  close := fun (lob, w) =>
    match lob.refusals with
    | 0 => .ok () (lob, w)
    | refusals + 1 => .error (.refused .released) (⟨refusals⟩, w)

/-- A close that fails, one that succeeds, and a read through another alias; and an object of the
scripted server that its last alias closes. -/
theorem SharedHandle.run_lifecycle_reluctant :
    let x := (start (⟨1⟩ : Reluctant) .binary () "a").run
      [.call "a" .close, .share "a" "b", .call "b" .close]
    let uses : List HandleUse := [.share "a" "b", .drop "a", .call "b" .length, .drop "b"]
    let y := (start (Scripted.Lob.new 0 .binary) .binary Scripted.Server.empty "a").run uses
    x.log = [(.close, false), (.close, true)] ∧
      x.use (.call "a" (.read none 4)) = x ∧
      (y.live = [] ∧ y.world.closedLobs = 1) := by
  intro x uses y
  have hlog : x.log = [(.close, false), (.close, true)] := by decide
  have hlive : y.live = [] := by decide
  have hlife : Lifecycle (⟨1⟩, ()) x := run_lifecycle.1 Reluctant Unit ⟨1⟩ .binary () "a" _
  exact ⟨hlog, (hlife.closed (by decide) "a" (by decide) (.read none 4)).2, hlive,
    run_lifecycle.2 (.new 0 .binary) .binary .empty "a" uses hlive⟩

end SqlClient
