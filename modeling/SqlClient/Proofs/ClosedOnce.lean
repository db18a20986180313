import SqlClient.Proofs.SharedBuffer

/-! # A result set is closed once

A server may do anything: every request can fail, at any time, and change its state all the same.
To see how often it is asked to close a result set, a relay is put between client and server.  It
passes on every request and every answer, and notes the requests made of the result set
(`Recorder`).  What can be put behind it is any server at all.

Nobody can tell a relay from the server behind it: each operation of a cursor comes to the same with
it and without it, and leaves what is behind the relay in the state in which it would leave the
server (`Cursor.Relays`, `Concur`).  On the way the log grows, but only closing the cursor, and
failing to open one, adds a request to close.
-/
namespace SqlClient

/-! ## A relay -/

/-- A request made of a result set. -/
inductive RowsRequest where
  | describe
  | setFetchSize (rows : Nat)
  | seek (move : Seek)
  | readColumn (column : Nat) (host : HostType)
  | openLob (column : Nat) (host : HostType)
  | close
  deriving DecidableEq, Repr

/-- A server behind a relay, with the requests that the relay noted. -/
structure Recorder (ω : Type) where
  server : ω
  log : List RowsRequest

/-- A result set or a large object behind a relay. -/
structure Relayed (α : Type) where
  original : α

section Relay

variable {α β ρ ω σ : Type}

/-- How often it was asked to close. -/
def Recorder.closings (r : Recorder ω) : Nat := r.log.count .close

namespace Relayed

/-- Pass an operation on, and note requests. -/
def through (notes : List RowsRequest) (op : EStateM Error (α × ω) β) :
    EStateM Error (Relayed α × Recorder ω) β := fun (x, r) =>
  match op (x.original, r.server) with
  | .ok b (a, server) => .ok b (⟨a⟩, ⟨server, r.log ++ notes⟩)
  | .error e (a, server) => .error e (⟨a⟩, ⟨server, r.log ++ notes⟩)

variable [RemoteRows ρ ω σ]

/-- A column is put into the buffer by the server behind. -/
def readColumn (column : Nat) (host : HostType) :
    EStateM Error (Buffer × Relayed ρ × Recorder ω) Unit := fun (buffer, rows, r) =>
  match RemoteRows.readColumn column host (buffer, rows.original, r.server) with
  | .ok () (buffer, rows, server) =>
    .ok () (buffer, ⟨rows⟩, ⟨server, r.log ++ [.readColumn column host]⟩)
  | .error e (buffer, rows, server) =>
    .error e (buffer, ⟨rows⟩, ⟨server, r.log ++ [.readColumn column host]⟩)

/-- A large object that the server behind opens is behind the relay, too. -/
def openLob (column : Nat) (host : HostType) :
    EStateM Error (Relayed ρ × Recorder ω) (Option (Relayed σ)) := do
  return (← through [.openLob column host] (RemoteRows.openLob column host)).map mk

/-- Give the result set back to the server behind. -/
def close : Relayed ρ × Recorder ω → Relayed ρ × Recorder ω := fun (rows, r) =>
  let (rows, server) := RemoteRows.close (rows.original, r.server)
  (⟨rows⟩, ⟨server, r.log ++ [.close]⟩)

/-- **Any result set, behind a relay.** -/
instance : RemoteRows (Relayed ρ) (Recorder ω) (Relayed σ) where
  describe := through [.describe] RemoteRows.describe
  rowCount rows := RemoteRows.rowCount rows.original
  rowNumber rows := RemoteRows.rowNumber rows.original
  setFetchSize rows := through [.setFetchSize rows] (RemoteRows.setFetchSize rows)
  seek move := through [.seek move] (RemoteRows.seek move)
  readColumn := readColumn
  openLob := openLob
  close := close

/-- **Any large object, behind a relay.** -/
instance [RemoteLob σ ω] : RemoteLob (Relayed σ) (Recorder ω) where
  length := through [] RemoteLob.length
  position := through [] RemoteLob.position
  preferredSize := through [] RemoteLob.preferredSize
  read room start := through [] (RemoteLob.read room start)
  write data := through [] (RemoteLob.write data)
  close := through [] RemoteLob.close

end Relayed

/-! ## What is behind a relay -/

def LobHandle.unrelayed (h : LobHandle (Relayed σ)) : LobHandle σ :=
  ⟨h.lob.original, h.kind, h.isOpen, h.aliases⟩

def World.unrelayed (w : World (Recorder ω) (Relayed σ)) : World ω σ :=
  ⟨w.server.server, w.handles.map LobHandle.unrelayed⟩

def Cursor.unrelayed (c : Cursor (Relayed ρ)) : Cursor ρ :=
  ⟨c.rows.original, c.columns, c.buffer, c.standing, c.isClosed⟩

/-- A world behind a relay that has noted nothing yet. -/
def World.relayed (w : World ω σ) : World (Recorder ω) (Relayed σ) :=
  ⟨⟨w.server, []⟩, w.handles.map fun h => ⟨⟨h.lob⟩, h.kind, h.isOpen, h.aliases⟩⟩

theorem World.unrelayed_relayed (w : World ω σ) : w.relayed.unrelayed = w := by
  simp [relayed, unrelayed, LobHandle.unrelayed, Function.comp_def]

/-- A request that is no request to close leaves their number. -/
theorem Recorder.closings_noted (r : Recorder ω) {request : RowsRequest}
    (hrequest : request ≠ .close) (server : ω) :
    closings ⟨server, r.log ++ [request]⟩ = r.closings := by
  rw [closings, List.count_append, List.count_singleton, beq_false_of_ne hrequest]
  rfl

/-- Closing is asked for once more. -/
theorem Relayed.closings_close [RemoteRows ρ ω σ] (rows : Relayed ρ) (r : Recorder ω) :
    (close (rows, r)).2.closings = r.closings + 1 := by
  rw [close, Recorder.closings, List.count_append, ← Recorder.closings]
  rfl

/-- The state of something behind a relay that noted so many requests to close. -/
structure Relayed.Passes (closings : Nat) (x : Relayed α × Recorder ω) (y : α × ω) : Prop where
  state : (x.1.original, x.2.server) = y
  closings : x.2.closings = closings

theorem Relayed.concur_through {notes : List RowsRequest} (hnotes : .close ∉ notes)
    (op : EStateM Error (α × ω) β) {n : Nat} {x : Relayed α × Recorder ω} {y : α × ω}
    (h : Passes n x y) : Concur (Passes n) (through notes op x) (op y) := by
  obtain ⟨a, r⟩ := x
  obtain ⟨rfl, hclosings⟩ := h
  have hlog (server : ω) : Recorder.closings ⟨server, r.log ++ notes⟩ = n := by
    rw [← hclosings, Recorder.closings, Recorder.closings, List.count_append,
      List.count_eq_zero.mpr hnotes, Nat.add_zero]
  rw [through]
  cases hop : op (a.original, r.server) with
  | ok b state => exact .ok b ⟨rfl, hlog _⟩
  | error e state => exact .error e ⟨rfl, hlog _⟩

theorem World.unrelayed_enter (w : World (Recorder ω) (Relayed σ)) (lob : σ) (kind : LobKind) :
    w.unrelayed.enter lob kind = ((w.enter ⟨lob⟩ kind).1, (w.enter ⟨lob⟩ kind).2.unrelayed) := by
  simp [enter, unrelayed, LobHandle.unrelayed, LobHandle.new]

end Relay

/-! ## Dropping values -/

section Drop

variable {ω σ : Type} [RemoteLob σ ω]

/-- The last alias closes the object behind the relay, and the result set is not concerned. -/
theorem LobHandle.unrelayed_drop (h : LobHandle (Relayed σ)) (r : Recorder ω) :
    drop (h.unrelayed, r.server) = ((drop (h, r)).1.unrelayed, (drop (h, r)).2.server) ∧
      (drop (h, r)).2.log = r.log := by
  have hclose : RemoteLob.close (h.lob, r) = Relayed.through [] RemoteLob.close (h.lob, r) := rfl
  by_cases hlast : h.aliases - 1 = 0 ∧ h.isOpen = true
  · have hlast' : h.unrelayed.aliases - 1 = 0 ∧ h.unrelayed.isOpen = true := hlast
    have horiginal : h.unrelayed.lob = h.lob.original := rfl
    simp only [drop, if_pos hlast, if_pos hlast', hclose, horiginal, Relayed.through]
    cases RemoteLob.close (h.lob.original, r.server) <;> exact ⟨rfl, List.append_nil _⟩
  · have hlast' : ¬ (h.unrelayed.aliases - 1 = 0 ∧ h.unrelayed.isOpen = true) := hlast
    simp only [drop, if_neg hlast, if_neg hlast']
    exact ⟨rfl, trivial⟩

namespace World

theorem unrelayed_dropAlias (w : World (Recorder ω) (Relayed σ)) (ref : LobRef) :
    w.unrelayed.dropAlias ref = (w.dropAlias ref).unrelayed ∧
      (w.dropAlias ref).server.log = w.server.log := by
  have hfound : w.unrelayed.handle? ref = (w.handle? ref).map LobHandle.unrelayed :=
    List.getElem?_map
  cases hhandle : w.handle? ref with
  | none =>
    simp only [dropAlias, hfound, hhandle, Option.map_none]
    exact ⟨trivial, trivial⟩
  | some h =>
    obtain ⟨hdrop, hlog⟩ := LobHandle.unrelayed_drop h w.server
    have hserver : w.unrelayed.server = w.server.server := rfl
    simp only [dropAlias, hfound, hhandle, Option.map_some, hserver, hdrop]
    refine ⟨?_, hlog⟩
    simp only [unrelayed, List.map_set]

theorem unrelayed_release (w : World (Recorder ω) (Relayed σ)) (v : Value) :
    w.unrelayed.release v = (w.release v).unrelayed ∧ (w.release v).server.log = w.server.log := by
  cases v with
  | lob ref => exact w.unrelayed_dropAlias ref
  | _ => exact ⟨rfl, rfl⟩

theorem unrelayed_releaseAll (w : World (Recorder ω) (Relayed σ)) (vs : List Value) :
    w.unrelayed.releaseAll vs = (w.releaseAll vs).unrelayed ∧
      (w.releaseAll vs).server.log = w.server.log := by
  induction vs generalizing w with
  | nil => exact ⟨rfl, rfl⟩
  | cons v rest ih =>
    obtain ⟨hstate, hlog⟩ := w.unrelayed_release v
    obtain ⟨hrest, hrestLog⟩ := ih (w.release v)
    refine ⟨?_, hrestLog.trans hlog⟩
    rw [releaseAll, List.foldl_cons, hstate]
    exact hrest

end World
end Drop

namespace Cursor

variable {ρ ω σ : Type}

/-! ## Opening a cursor -/

section Opening

variable [RemoteRows ρ ω σ]

/-- The columns that are described are looked at by the client alone. -/
theorem concur_describe {n : Nat} {x : Relayed ρ × Recorder ω} {y : ρ × ω}
    (h : Relayed.Passes n x y) : Concur (Relayed.Passes n) (describe x) (describe y) := by
  have hserver : Concur (Relayed.Passes n) (RemoteRows.describe x) (RemoteRows.describe y) :=
    Relayed.concur_through (by simp) _ h
  refine hserver.bind fun descriptions _ _ hstate => ?_
  rcases Column.ofDescriptions descriptions with e | (_ | ⟨column, columns⟩)
  · exact .error e hstate
  · exact .error Error.noColumns hstate
  · exact .ok (column :: columns) hstate

/-- The same cursor opens, or the result set is closed and the same error comes. -/
theorem openOn_relayed (rows : ρ) (w : World ω σ) :
    (∃ c r, openOn (Relayed.mk rows) w.relayed = .ok c r ∧
      openOn rows w = .ok c.unrelayed r.unrelayed ∧ c.isClosed = false ∧ r.server.closings = 0) ∨
    ∃ e r, openOn (Relayed.mk rows) w.relayed = .error e r ∧ openOn rows w = .error e r.unrelayed ∧
      r.server.closings = 1 := by
  have hfresh : Relayed.Passes 0 (Relayed.mk rows, w.relayed.server) (rows, w.server) := ⟨rfl, rfl⟩
  have hhandles : w.relayed.handles.map LobHandle.unrelayed = w.handles :=
    congrArg World.handles w.unrelayed_relayed
  obtain ⟨columns, ⟨rows', r⟩, _, hx, hy, rfl, hclosings⟩ |
    ⟨e, ⟨rows', r⟩, _, hx, hy, rfl, hclosings⟩ := (concur_describe hfresh).cases
  · refine .inl ⟨⟨rows', columns, .new (widest columns), .unpositioned, false⟩,
      { w.relayed with server := r }, ?_, ?_, rfl, hclosings⟩
    · simp only [openOn, hx]
    · simp only [openOn, hy, Cursor.unrelayed, World.unrelayed, hhandles]
  · refine .inr ⟨e, { w.relayed with server := (Relayed.close (rows', r)).2 }, ?_, ?_, ?_⟩
    · simp only [openOn, hx]
      rfl
    · simp only [openOn, hy, World.unrelayed, hhandles]
      rfl
    · rw [Relayed.closings_close, hclosings]

end Opening

/-! ## Operations of a cursor -/

/-- **A cursor over a result set behind a relay**, and the cursor over the result set itself.  The
relay noted one request to close if the cursor is closed, and none before. -/
structure Relays (closed : Bool) (x : Cursor (Relayed ρ) × World (Recorder ω) (Relayed σ))
    (y : Cursor ρ × World ω σ) : Prop where
  state : (x.1.unrelayed, x.2.unrelayed) = y
  isClosed : x.1.isClosed = closed
  closings : x.2.server.closings = closed.toNat

variable {closed : Bool} {x : Cursor (Relayed ρ) × World (Recorder ω) (Relayed σ)}
  {y : Cursor ρ × World ω σ}

theorem Relays.exists_eq (h : Relays closed x y) :
    ∃ c w, x = (c, w) ∧ y = (c.unrelayed, w.unrelayed) ∧ c.isClosed = closed ∧
      w.server.closings = closed.toNat :=
  ⟨x.1, x.2, rfl, h.state.symm, h.isClosed, h.closings⟩

/-- An operation that the relay passes on, and that is no closing. -/
theorem Relays.onServer {α : Type} {notes : List RowsRequest} (hnotes : .close ∉ notes)
    (op : EStateM Error (ρ × ω) α) (h : Relays closed x y) :
    Concur (Relays closed) (Cursor.onServer (Relayed.through notes op) x)
      (Cursor.onServer op y) := by
  obtain ⟨c, w, rfl, rfl, hclosed, hclosings⟩ := h.exists_eq
  have hpasses : Relayed.Passes closed.toNat (c.rows, w.server)
      (c.unrelayed.rows, w.unrelayed.server) := ⟨rfl, hclosings⟩
  obtain ⟨a, ⟨rows, r⟩, _, hx, hy, rfl, hlog⟩ | ⟨e, ⟨rows, r⟩, _, hx, hy, rfl, hlog⟩ :=
    (Relayed.concur_through hnotes op hpasses).cases
  · simp only [Cursor.onServer, hx, hy]
    exact .ok a ⟨rfl, hclosed, hlog⟩
  · simp only [Cursor.onServer, hx, hy]
    exact .error e ⟨rfl, hclosed, hlog⟩

/-- What is made of an answer can be made of it later. -/
theorem onServer_map {α β : Type} (op : EStateM Error (ρ × ω) α) (f : α → β) :
    Cursor.onServer (do return f (← op)) =
      (do return f (← Cursor.onServer op) : EStateM Error (Cursor ρ × World ω σ) β) := by
  funext ⟨c, w⟩
  cases hop : op (c.rows, w.server) with
  | ok a state => simp only [Cursor.onServer, bind, EStateM.bind, hop, pure, EStateM.pure]
  | error e state => simp only [Cursor.onServer, bind, EStateM.bind, hop]

variable [RemoteRows ρ ω σ]

/-- A move that fails changes the result set and its server, and nothing else. -/
theorem seek_error {move : Seek} {state after : Cursor ρ × World ω σ} {e : Error}
    (h : Cursor.seek move state = .error e after) :
    after = ({ state.1 with rows := after.1.rows }, { state.2 with server := after.2.server }) := by
  obtain ⟨c, w⟩ := state
  cases hserver : RemoteRows.seek move (c.rows, w.server) with
  | error e' state =>
    have hmoved : Cursor.onServer (RemoteRows.seek move) (c, w) =
        .error e' ({ c with rows := state.1 }, { w with server := state.2 }) := by
      simp only [Cursor.onServer, hserver]
    rw [Cursor.seek, run_bind_error hmoved] at h
    injection h with he hafter
    subst hafter
    rfl
  | ok status state =>
    have hmoved : Cursor.onServer (RemoteRows.seek move) (c, w) =
        .ok status ({ c with rows := state.1 }, { w with server := state.2 }) := by
      simp only [Cursor.onServer, hserver]
    rw [Cursor.seek, run_bind_ok hmoved] at h
    cases status <;> cases h

theorem Relays.seek (h : Relays closed x y) (move : Seek) :
    Concur (Relays closed) (Cursor.seek move x) (Cursor.seek move y) := by
  have hserver : Concur (Relays closed) (Cursor.onServer (RemoteRows.seek move) x)
      (Cursor.onServer (RemoteRows.seek move) y) := h.onServer (by simp) (RemoteRows.seek move)
  refine hserver.bind fun status s t hstate => ?_
  obtain ⟨c, w, rfl, rfl, hclosed, hclosings⟩ := hstate.exists_eq
  cases status with
  | row => exact .ok _ ⟨rfl, hclosed, hclosings⟩
  | noData => exact .ok _ ⟨rfl, hclosed, hclosings⟩

theorem Relays.setFetchSize (h : Relays closed x y) (rows : Nat) :
    Concur (Relays closed) (Cursor.setFetchSize rows x) (Cursor.setFetchSize rows y) :=
  h.onServer (by simp) (RemoteRows.setFetchSize rows)

theorem Relays.decodeInBuffer (h : Relays closed x y) (number : Nat) (column : Column) :
    Concur (Relays closed) (Cursor.decodeInBuffer number column x)
      (Cursor.decodeInBuffer number column y) := by
  obtain ⟨c, w, rfl, rfl, hclosed, hclosings⟩ := h.exists_eq
  have hread (buffer : Buffer) : RemoteRows.readColumn number column.hostType
      (buffer, c.rows, w.server) =
      Relayed.readColumn number column.hostType (buffer, c.rows, w.server) := rfl
  have hbehind : RemoteRows.readColumn number column.hostType
      (c.unrelayed.buffer.reset column.bufferSize, c.unrelayed.rows, w.unrelayed.server) =
      RemoteRows.readColumn number column.hostType
        (c.buffer.reset column.bufferSize, c.rows.original, w.server.server) := rfl
  have hrequest : RowsRequest.readColumn number column.hostType ≠ .close := nofun
  have hlog (server : ω) := (w.server.closings_noted hrequest server).trans hclosings
  simp only [Cursor.decodeInBuffer, hread, Relayed.readColumn, hbehind]
  cases RemoteRows.readColumn number column.hostType
    (c.buffer.reset column.bufferSize, c.rows.original, w.server.server) with
  | error e state => exact .error e ⟨rfl, hclosed, hlog _⟩
  | ok a state =>
    obtain ⟨buffer, rows, server⟩ := state
    simp only
    cases buffer.decode column.hostType with
    | error e => exact .error e ⟨rfl, hclosed, hlog _⟩
    | ok v => exact .ok v ⟨rfl, hclosed, hlog _⟩

theorem Relays.decodeLob (h : Relays closed x y) (number : Nat) (column : Column)
    (kind : LobKind) :
    Concur (Relays closed) (Cursor.decodeLob number column kind x)
      (Cursor.decodeLob number column kind y) := by
  have hopen : Concur (Relays closed)
      (Cursor.onServer (Relayed.through [.openLob number column.hostType]
        (RemoteRows.openLob number column.hostType)) x)
      (Cursor.onServer (RemoteRows.openLob number column.hostType) y) := h.onServer (by simp) _
  have hrelayed : (RemoteRows.openLob number column.hostType :
      EStateM Error (Relayed ρ × Recorder ω) _) = Relayed.openLob number column.hostType := rfl
  rw [Cursor.decodeLob, Cursor.decodeLob, hrelayed, Relayed.openLob, onServer_map, bind_assoc]
  refine hopen.bind fun lob s t hstate => ?_
  obtain ⟨c, w, rfl, rfl, hclosed, hclosings⟩ := hstate.exists_eq
  rw [pure_bind]
  cases lob with
  | none => exact .ok _ ⟨rfl, hclosed, hclosings⟩
  | some lob =>
    show Concur (Relays closed)
      (.ok (Value.lob (w.enter ⟨lob⟩ kind).1) (c, (w.enter ⟨lob⟩ kind).2))
      (.ok (Value.lob (w.unrelayed.enter lob kind).1) (c.unrelayed, (w.unrelayed.enter lob kind).2))
    rw [w.unrelayed_enter]
    exact .ok _ ⟨rfl, hclosed, hclosings⟩

theorem Relays.decodeColumn (h : Relays closed x y) (number : Nat) (column : Column) :
    Concur (Relays closed) (Cursor.decodeColumn number column x)
      (Cursor.decodeColumn number column y) := by
  unfold Cursor.decodeColumn
  cases column.hostType.lobKind? with
  | some kind => exact h.decodeLob number column kind
  | none => exact h.decodeInBuffer number column

/-- **Closing**: an open cursor asks the result set to close, a closed one does not ask again. -/
theorem Relays.close (h : Relays closed x y) : Relays true (Cursor.close x) (Cursor.close y) := by
  obtain ⟨c, w, rfl, rfl, hclosed, hclosings⟩ := h.exists_eq
  have hrelayed : RemoteRows.close (c.rows, w.server) = Relayed.close (c.rows, w.server) := rfl
  have hbehind : c.unrelayed.isClosed = closed := hclosed
  -- the flag of the cursor is what decides whether there is a request
  cases closed with
  | true =>
    simp only [Cursor.close, hclosed, hbehind, if_true]
    exact ⟨rfl, hclosed, hclosings⟩
  | false =>
    simp only [Cursor.close, hclosed, hbehind, hrelayed, Bool.false_eq_true, if_false]
    refine ⟨rfl, rfl, ?_⟩
    rw [Relayed.closings_close, hclosings]
    rfl

variable [RemoteLob σ ω]

/-- Values that are dropped because a later column failed close large objects, no result set. -/
theorem Relays.decodeFrom (h : Relays closed x y) (number : Nat) (decoded : List Value)
    (columns : List Column) :
    Concur (Relays closed) (Cursor.decodeFrom number decoded columns x)
      (Cursor.decodeFrom number decoded columns y) := by
  induction columns generalizing number decoded x y with
  | nil => exact .ok _ h
  | cons column rest ih =>
    obtain ⟨v, s, t, hx, hy, hstate⟩ | ⟨e, s, t, hx, hy, hstate⟩ :=
      (h.decodeColumn number column).cases
    · simp only [Cursor.decodeFrom, hx, hy]
      exact ih hstate (number + 1) (v :: decoded)
    · obtain ⟨c, w, rfl, rfl, hclosed, hclosings⟩ := hstate.exists_eq
      obtain ⟨hreleased, hlog⟩ := w.unrelayed_releaseAll decoded.reverse
      simp only [Cursor.decodeFrom, hx, hy, hreleased]
      exact .error e ⟨rfl, hclosed, by rwa [Recorder.closings, hlog]⟩

theorem Relays.decodeRow (h : Relays closed x y) :
    Concur (Relays closed) (Cursor.decodeRow x) (Cursor.decodeRow y) := by
  have hcolumns : y.1.columns = x.1.columns := congrArg (fun y => y.1.columns) h.state.symm
  rw [Cursor.decodeRow, Cursor.decodeRow, run_bind_get, run_bind_get, hcolumns]
  exact (h.decodeFrom 1 [] x.1.columns).map fun values => (⟨values, x.1.columns⟩ : Row)

theorem Relays.current (h : Relays closed x y) :
    Concur (Relays closed) (Cursor.current x) (Cursor.current y) := by
  have hstanding : y.1.standing = x.1.standing := congrArg (fun y => y.1.standing) h.state.symm
  rw [Cursor.current, Cursor.current, run_bind_get, run_bind_get, hstanding]
  cases x.1.standing with
  | onRow => exact h.decodeRow.map some
  | unpositioned | beforeFirst | afterLast => exact .ok none h

theorem Relays.fetch (h : Relays closed x y) (move : Seek) :
    Concur (Relays closed) (Cursor.fetch move x) (Cursor.fetch move y) := by
  refine (h.seek move).bind fun outcome s t hstate => ?_
  cases outcome with
  | onRow => exact hstate.current
  | pastEdge => exact .ok none hstate

theorem Relays.count (h : Relays closed x y) :
    Concur (Relays closed) (Cursor.perform .count x) (Cursor.perform .count y) := by
  obtain ⟨c, w, rfl, rfl, hclosed, hclosings⟩ := h.exists_eq
  exact .ok _ ⟨rfl, hclosed, hclosings⟩

/-- **Any operation of a cursor.**  Only closing it closes the result set. -/
theorem Relays.perform (h : Relays closed x y) (call : Call) :
    Concur (Relays (closed || .close == call)) (Cursor.perform call x)
      (Cursor.perform call y) := by
  by_cases hcall : call = .close
  · subst hcall
    rw [beq_self_eq_true, Bool.or_true]
    exact .ok _ h.close
  · rw [beq_false_of_ne (Ne.symm hcall), Bool.or_false]
    cases call with
    | seek move => exact (h.seek move).map _
    | fetch move => exact (h.fetch move).map _
    | current => exact h.current.map _
    | count => exact h.count
    | setFetchSize rows => exact (h.setFetchSize rows).map _
    | close => exact absurd rfl hcall

/-! ## A cursor's life -/

/-- What all calls say, and what they leave. -/
theorem Relays.run (h : Relays closed x y) (calls : List Call) :
    (Cursor.run Cursor.perform calls x).1 = (Cursor.run Cursor.perform calls y).1 ∧
      Relays (closed || calls.contains .close) (Cursor.run Cursor.perform calls x).2
        (Cursor.run Cursor.perform calls y).2 := by
  induction calls generalizing closed x y with
  | nil =>
    rw [List.contains_nil, Bool.or_false]
    exact ⟨rfl, h⟩
  | cons call rest ih =>
    rw [List.contains_cons, ← Bool.or_assoc, Cursor.run, Cursor.run]
    obtain ⟨a, s, t, hx, hy, hstate⟩ | ⟨e, s, t, hx, hy, hstate⟩ := (h.perform call).cases
    · rw [hx, hy]
      exact ⟨congrArg (.ok a :: ·) (ih hstate).1, (ih hstate).2⟩
    · rw [hx, hy]
      exact ⟨congrArg (.error e :: ·) (ih hstate).1, (ih hstate).2⟩

/-- **The life of a cursor** `y`, seen by a relay, behind which it is `x`. -/
structure ClosesOnce (x : Cursor (Relayed ρ) × World (Recorder ω) (Relayed σ))
    (y : Cursor ρ × World ω σ) : Prop where
  /-- The cursor behind the relay says the same. -/
  said : ∀ calls, (run perform calls x).1 = (run perform calls y).1
  /-- The server behind the relay comes to the same, and so does all else. -/
  left : ∀ calls, ((run perform calls x).2.1.unrelayed, (run perform calls x).2.2.unrelayed) =
    (run perform calls y).2
  /-- Its result set is not closed before the cursor is, and once however often the cursor is. -/
  closings : ∀ calls, (run perform calls x).2.2.server.closings = if .close ∈ calls then 1 else 0
  /-- Dropping the cursor closes it, so that after that the result set was closed once. -/
  dropped : ∀ calls, (close (run perform calls x).2).2.server.closings = 1
  /-- A move that fails, in a fetch or not, leaves the cursor standing where it stood, and all else
  that is not the server's. -/
  seek_failed : ∀ calls move e after, seek move (run perform calls y).2 = .error e after →
    fetch move (run perform calls y).2 = .error e after ∧
      after = ({ (run perform calls y).2.1 with rows := after.1.rows },
        { (run perform calls y).2.2 with server := after.2.server })

/-- **A cursor closes its result set once**, whatever the server does.  If none can be opened, the
result set was closed once. -/
theorem closesOnce (rows : ρ) (w : World ω σ) :
    match openOn rows w with
    | .error e w' => ∃ r, openOn (Relayed.mk rows) w.relayed = .error e r ∧ r.unrelayed = w' ∧
        r.server.closings = 1
    | .ok c w' => ∃ x, openOn (Relayed.mk rows) w.relayed = .ok x.1 x.2 ∧ ClosesOnce x (c, w') := by
  obtain ⟨c, r, hx, hy, hclosed, hclosings⟩ | ⟨e, r, hx, hy, hclosings⟩ := openOn_relayed rows w
  · have hrelays : Relays false (c, r) (c.unrelayed, r.unrelayed) := ⟨rfl, hclosed, hclosings⟩
    rw [hy]
    refine ⟨(c, r), hx, ?_⟩
    exact
      { said := fun calls => (hrelays.run calls).1
        left := fun calls => (hrelays.run calls).2.state
        closings := fun calls => by
          rw [(hrelays.run calls).2.closings, Bool.false_or]
          by_cases hclose : .close ∈ calls <;> simp [hclose]
        dropped := fun calls => (hrelays.run calls).2.close.closings
        seek_failed := fun calls move e after hseek =>
          ⟨run_bind_error hseek, seek_error hseek⟩ }
  · rw [hy]
    exact ⟨r, hx, rfl, hclosings⟩

/-- A result set of no columns, for which no cursor opens. -/
example (w : ClientWorld) :
    (leaves (openOn (Relayed.mk (Scripted.ResultSet.new ⟨[], []⟩)) w.relayed)).server.log =
      [.describe, .close] := rfl

/-- A cursor that is closed twice. -/
example :
    let result : Scripted.Result := ⟨[.ofLength "N" SqlType.integer.code 10], [[.int 5]]⟩
    let w : ClientWorld := .new .empty
    let calls : List Call := [.seek .next, .close, .seek .next, .close]
    (match openOn (Relayed.mk (Scripted.ResultSet.new result)) w.relayed with
      | .ok c w => (run perform calls (c, w)).2.2.server.log
      | .error _ w => w.server.log) = [.describe, .seek .next, .close, .seek .next] := by
  decide +kernel

end Cursor
end SqlClient
