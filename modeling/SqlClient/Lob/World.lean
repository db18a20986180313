import SqlClient.Lob.Handle

/-!
# The world of a client

Values refer to LOB handles by number.  The handles themselves live in the world, next to the
server, so that all aliases of a handle see one state.  A handle is entered when a row is decoded
and keeps its number for good; with its last alias it is merely dead.
-/

namespace SqlClient

/-- The server and the LOB handles opened on it. -/
structure World (ω σ : Type) where
  server : ω
  /-- The handles by number. -/
  handles : List (LobHandle σ)
  deriving DecidableEq, Repr

/-- What can be seen of a value.  Of a large object that is its kind, whether it is open, and
how many aliases its handle has. -/
inductive ValueView where
  | plain (v : Value)
  | lob (kind : LobKind) (isOpen : Bool) (aliases : Nat)
  deriving DecidableEq, Repr

namespace World

variable {ω σ : Type}

/-- A world without LOB handles. -/
def new (server : ω) : World ω σ := ⟨server, []⟩

/-- The handle a reference refers to. -/
def handle? (w : World ω σ) (ref : LobRef) : Option (LobHandle σ) := w.handles[ref.id]?

/-- Enter a new handle on an open object. -/
def enter (w : World ω σ) (lob : σ) (kind : LobKind) : LobRef × World ω σ :=
  (⟨w.handles.length, kind⟩, { w with handles := w.handles ++ [.new lob kind] })

/-- One more alias of a handle. -/
def addAlias (w : World ω σ) (ref : LobRef) : World ω σ :=
  { w with handles := w.handles.modify ref.id LobHandle.addAlias }

/-- One more alias of the handle that a value refers to, if it does. -/
def share (w : World ω σ) (v : Value) : World ω σ :=
  match v with
  | .lob ref => w.addAlias ref
  | _ => w

/-- A value as it can be seen. -/
def view (w : World ω σ) (v : Value) : ValueView :=
  match v with
  | .lob ref =>
    match w.handle? ref with
    | some h => .lob h.kind h.isOpen h.aliases
    | none => .lob ref.kind false 0
  | v => .plain v

variable [RemoteLob σ ω]

/-- Run an operation on the handle a reference refers to. -/
def onHandle {α : Type} (ref : LobRef) (op : EStateM Error (LobHandle σ × ω) α) :
    EStateM Error (World ω σ) α := fun w =>
  match w.handle? ref with
  | none => .error .lobClosed w
  | some h =>
    match op (h, w.server) with
    | .ok a (h, server) => .ok a { server, handles := w.handles.set ref.id h }
    | .error e (h, server) => .error e { server, handles := w.handles.set ref.id h }

/-- Any operation on a handle. -/
def call (ref : LobRef) (c : LobCall) : EStateM Error (World ω σ) LobAnswer :=
  onHandle ref (LobHandle.perform c)

/-- Drop one alias of a handle. -/
def dropAlias (w : World ω σ) (ref : LobRef) : World ω σ :=
  match w.handle? ref with
  | none => w
  | some h =>
    let (h, server) := LobHandle.drop (h, w.server)
    { server, handles := w.handles.set ref.id h }

/-- Drop a value, and with it the alias it holds. -/
def release (w : World ω σ) (v : Value) : World ω σ :=
  match v with
  | .lob ref => w.dropAlias ref
  | _ => w

/-- Drop values in order. -/
def releaseAll (w : World ω σ) (vs : List Value) : World ω σ := vs.foldl release w

end World
end SqlClient
