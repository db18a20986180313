import SqlClient.Proofs.HandleAgreement
import SqlClient.Proofs.ScriptAgreement

/-! # One buffer for all columns

A cursor transfers all columns of all rows in one buffer, which keeps what the last transfer put
there, also when that failed.  `decodeApart` decodes a row without it: every column has a buffer of
its own, made for it, and a state that holds no other.

Whatever calls are made on a cursor, and whatever its buffer held before, they say and leave the
same as with buffers apart (`sharesUnseen`).  Of buffers this takes that one that is reset is as
good as new, of the server nothing.
-/
namespace SqlClient

/-- Of what a buffer held, nothing is left when it is reset. -/
theorem Buffer.reset_eq_new (b : Buffer) (capacity : Nat) : b.reset capacity = .new capacity := rfl

namespace Cursor

variable {ρ ω σ : Type}

/-! ## All but the buffer -/

/-- The same cursor in the same world, whatever the buffers hold. -/
def ButBuffer (x y : Cursor ρ × World ω σ) : Prop :=
  ∃ buffer, x = ({ y.1 with buffer }, y.2)

section ButBuffer
variable {x y z : Cursor ρ × World ω σ}

theorem ButBuffer.refl (x : Cursor ρ × World ω σ) : ButBuffer x x := ⟨x.1.buffer, rfl⟩

theorem ButBuffer.trans_symm (h : ButBuffer x z) (h' : ButBuffer y z) : ButBuffer x y := by
  obtain ⟨buffer, hx⟩ := h
  obtain ⟨buffer', hy⟩ := h'
  exact ⟨buffer, by rw [hx, hy]⟩

/-- The server does not see the buffer. -/
theorem butBuffer_onServer {α : Type} (op : EStateM Error (ρ × ω) α) (h : ButBuffer x y) :
    Concur ButBuffer (onServer op x) (onServer op y) := by
  obtain ⟨buffer, rfl⟩ := h
  obtain ⟨c, w⟩ := y
  simp only [onServer]
  cases op (c.rows, w.server) with
  | ok a state => exact .ok a ⟨buffer, rfl⟩
  | error e state => exact .error e ⟨buffer, rfl⟩

variable [RemoteRows ρ ω σ]

theorem butBuffer_seek (move : Seek) (h : ButBuffer x y) :
    Concur ButBuffer (seek move x) (seek move y) := by
  rw [seek]
  refine (butBuffer_onServer (RemoteRows.seek move) h).bind fun status x' y' h' => ?_
  obtain ⟨buffer, rfl⟩ := h'
  cases status with
  | row => exact .ok SeekOutcome.onRow ⟨buffer, rfl⟩
  | noData => exact .ok SeekOutcome.pastEdge ⟨buffer, rfl⟩

theorem butBuffer_close (h : ButBuffer x y) : ButBuffer (close x) (close y) := by
  obtain ⟨buffer, rfl⟩ := h
  obtain ⟨c, w⟩ := y
  refine ⟨buffer, ?_⟩
  simp only [close]
  split <;> rfl

end ButBuffer

variable [RemoteRows ρ ω σ]

/-! ## Columns apart -/

/-- The value of a column, transferred in a buffer made for it. -/
def columnApart (number : Nat) (column : Column) : EStateM Error (ρ × World ω σ) Value :=
  fun (rows, w) =>
    match column.hostType.lobKind? with
    | some kind =>
      match RemoteRows.openLob number column.hostType (rows, w.server) with
      | .error e (rows, server) => .error e (rows, { w with server })
      | .ok none (rows, server) => .ok .null (rows, { w with server })
      | .ok (some lob) (rows, server) =>
        let (ref, w) := World.enter { w with server } lob kind
        .ok (.lob ref) (rows, w)
    | none =>
      match RemoteRows.readColumn number column.hostType
        (.new column.bufferSize, rows, w.server) with
      | .error e (_, rows, server) => .error e (rows, { w with server })
      | .ok () (buffer, rows, server) =>
        match buffer.decode column.hostType with
        | .error e => .error e (rows, { w with server })
        | .ok v => .ok v (rows, { w with server })

/-- A cursor in a world seen without its buffer: the result set, and all else the same. -/
def Over (c : Cursor ρ) (x : Cursor ρ × World ω σ) (y : ρ × World ω σ) : Prop :=
  ∃ buffer, x = ({ c with rows := y.1, buffer }, y.2)

/-- **A column does not see the shared buffer.** -/
theorem concur_columnApart (number : Nat) (column : Column) {c : Cursor ρ}
    {x : Cursor ρ × World ω σ} {y : ρ × World ω σ} (h : c.Over x y) :
    Concur c.Over (decodeColumn number column x) (columnApart number column y) := by
  obtain ⟨buffer, rfl⟩ := h
  obtain ⟨rows, w⟩ := y
  cases hkind : column.hostType.lobKind? with
  | some kind =>
    simp only [decodeColumn, decodeLob, columnApart, hkind]
    cases hopen : RemoteRows.openLob number column.hostType (rows, w.server) with
    | error e state =>
      have hserver : onServer (RemoteRows.openLob number column.hostType)
          ({ c with rows, buffer }, w) =
          .error e ({ c with rows := state.1, buffer }, { w with server := state.2 }) := by
        simp only [onServer, hopen]
      rw [run_bind_error hserver]
      exact .error e ⟨buffer, rfl⟩
    | ok lob state =>
      have hserver : onServer (RemoteRows.openLob number column.hostType)
          ({ c with rows, buffer }, w) =
          .ok lob ({ c with rows := state.1, buffer }, { w with server := state.2 }) := by
        simp only [onServer, hopen]
      rw [run_bind_ok hserver]
      cases lob with
      | none => exact .ok Value.null ⟨buffer, rfl⟩
      | some lob => exact .ok _ ⟨buffer, rfl⟩
  | none =>
    simp only [decodeColumn, decodeInBuffer, columnApart, hkind, Buffer.reset_eq_new]
    cases RemoteRows.readColumn number column.hostType
        (.new column.bufferSize, rows, w.server) with
    | error e state => exact .error e ⟨state.1, rfl⟩
    | ok _ state =>
      simp only
      cases state.1.decode column.hostType with
      | error e => exact .error e ⟨state.1, rfl⟩
      | ok v => exact .ok v ⟨state.1, rfl⟩

variable [RemoteLob σ ω]

/-- The values of columns from a number on, each transferred apart; `decoded` holds those before,
last first, which are dropped if a column fails. -/
def columnsApart (number : Nat) (decoded : List Value) :
    List Column → EStateM Error (ρ × World ω σ) (List Value)
  | [] => pure decoded.reverse
  | column :: rest => fun state =>
    match columnApart number column state with
    | .ok v state => columnsApart (number + 1) (v :: decoded) rest state
    | .error e (rows, w) => .error e (rows, w.releaseAll decoded.reverse)

theorem concur_columnsApart (number : Nat) (decoded : List Value) (columns : List Column)
    {c : Cursor ρ} {x : Cursor ρ × World ω σ} {y : ρ × World ω σ} (h : c.Over x y) :
    Concur c.Over (decodeFrom number decoded columns x)
      (columnsApart number decoded columns y) := by
  induction columns generalizing number decoded x y with
  | nil => exact .ok decoded.reverse h
  | cons column rest ih =>
    obtain ⟨v, x', y', hx, hy, hover⟩ | ⟨e, x', y', hx, hy, hover⟩ :=
      (concur_columnApart number column h).cases
    · simp only [decodeFrom, columnsApart, hx, hy]
      exact ih (number + 1) (v :: decoded) hover
    · simp only [decodeFrom, columnsApart, hx, hy]
      obtain ⟨buffer, rfl⟩ := hover
      exact .error e ⟨buffer, rfl⟩

/-! ## Rows apart -/

/-- The row a cursor stands on, decoded with buffers apart.  The cursor's buffer is not used. -/
def decodeApart : EStateM Error (Cursor ρ × World ω σ) Row := fun (c, w) =>
  match columnsApart 1 [] c.columns (c.rows, w) with
  | .ok values (rows, w) => .ok { values, columns := c.columns } ({ c with rows }, w)
  | .error e (rows, w) => .error e ({ c with rows }, w)

/-- The row the cursor stands on, if it stands on one, decoded with buffers apart. -/
def currentApart : EStateM Error (Cursor ρ × World ω σ) (Option Row) := do
  match (← get).1.standing with
  | .onRow => return some (← decodeApart)
  | _ => return none

/-- A move to a row that is decoded with buffers apart. -/
def fetchApart (move : Seek) : EStateM Error (Cursor ρ × World ω σ) (Option Row) := do
  match ← seek move with
  | .onRow => currentApart
  | .pastEdge => return none

/-- **Any operation on a cursor, with buffers apart.**  Only those that decode are different. -/
def performApart : Call → EStateM Error (Cursor ρ × World ω σ) Answer
  | .fetch move => return .row (← fetchApart move)
  | .current => return .row (← currentApart)
  | call => perform call

/-! ## One call -/

variable {x y : Cursor ρ × World ω σ}

/-- **A row does not see the shared buffer.** -/
theorem concur_decodeApart (h : ButBuffer x y) :
    Concur ButBuffer (decodeRow x) (decodeApart y) := by
  obtain ⟨c, w⟩ := y
  have hcolumns : x.1.columns = c.columns := by
    obtain ⟨buffer, rfl⟩ := h
    rfl
  have hover : c.Over x (c.rows, w) := h
  rw [decodeRow, run_bind_get, hcolumns]
  simp only [decodeApart]
  obtain ⟨values, x', y', hx, hy, hover'⟩ | ⟨e, x', y', hx, hy, hover'⟩ :=
    (concur_columnsApart 1 [] c.columns hover).cases
  · rw [run_bind_ok hx, hy]
    exact .ok _ hover'
  · rw [run_bind_error hx, hy]
    exact .error e hover'

theorem concur_currentApart (h : ButBuffer x y) :
    Concur ButBuffer (current x) (currentApart y) := by
  have hstanding : x.1.standing = y.1.standing := by
    obtain ⟨buffer, rfl⟩ := h
    rfl
  rw [current, currentApart, run_bind_get, run_bind_get, hstanding]
  cases y.1.standing with
  | onRow => exact (concur_decodeApart h).map some
  | unpositioned | beforeFirst | afterLast => exact .ok none h

/-- **No call sees the shared buffer.** -/
theorem concur_performApart (call : Call) (h : ButBuffer x y) :
    Concur ButBuffer (perform call x) (performApart call y) := by
  cases call with
  | seek move => exact (butBuffer_seek move h).map Answer.moved
  | fetch move =>
    refine Concur.map ((butBuffer_seek move h).bind fun outcome x' y' h' => ?_) Answer.row
    cases outcome with
    | onRow => exact concur_currentApart h'
    | pastEdge => exact .ok none h'
  | current => exact (concur_currentApart h).map Answer.row
  | count =>
    obtain ⟨buffer, rfl⟩ := h
    exact .ok (Answer.count y.1.rowCount) ⟨buffer, rfl⟩
  | setFetchSize rows =>
    exact (butBuffer_onServer (RemoteRows.setFetchSize rows) h).bind fun _ _ _ h' =>
      .ok Answer.done h'
  | close => exact .ok Answer.done (butBuffer_close h)

/-- What a cursor decodes does not depend on its buffer. -/
theorem butBuffer_current (h : ButBuffer x y) : Concur ButBuffer (current x) (current y) :=
  Concur.trans_symm (fun _ _ _ hx hy => hx.trans_symm hy) (concur_currentApart h)
    (concur_currentApart (.refl y))

/-! ## One call after the other -/

/-- What calls say, one after the other, and the state they leave. -/
def run (step : Call → EStateM Error (Cursor ρ × World ω σ) Answer) :
    List Call → Cursor ρ × World ω σ → List (Except Error Answer) × (Cursor ρ × World ω σ)
  | [], state => ([], state)
  | call :: calls, state =>
    let (said, after) := run step calls (leaves (step call state))
    (answered (step call state) :: said, after)

theorem run_performApart (calls : List Call) (h : ButBuffer x y) :
    (run perform calls x).1 = (run performApart calls y).1 ∧
      ButBuffer (run perform calls x).2 (run performApart calls y).2 := by
  induction calls generalizing x y with
  | nil => exact ⟨rfl, h⟩
  | cons call calls ih =>
    simp only [run]
    obtain ⟨a, x', y', hx, hy, h'⟩ | ⟨e, x', y', hx, hy, h'⟩ := (concur_performApart call h).cases
    · rw [hx, hy]
      exact ⟨congrArg (answered (.ok a y') :: ·) (ih h').1, (ih h').2⟩
    · rw [hx, hy]
      exact ⟨congrArg (answered (.error e y') :: ·) (ih h').1, (ih h').2⟩

/-- **Nobody sees that the buffer is shared**, in calls on a cursor from any moment on. -/
structure SharesUnseen (calls : List Call) (c : Cursor ρ) (w : World ω σ) : Prop where
  /-- A row that is decoded, or fails, is what it is with buffers apart. -/
  row : Concur ButBuffer (decodeRow (c, w)) (decodeApart (c, w))
  /-- So is what all calls say, also those after a row that failed. -/
  said : (run perform calls (c, w)).1 = (run performApart calls (c, w)).1
  left : ButBuffer (run perform calls (c, w)).2 (run performApart calls (c, w)).2
  /-- Whatever the buffer held before, the calls say and leave the same. -/
  said_leftover : ∀ buffer,
    (run perform calls ({ c with buffer }, w)).1 = (run perform calls (c, w)).1
  left_leftover : ∀ buffer,
    ButBuffer (run perform calls ({ c with buffer }, w)).2 (run perform calls (c, w)).2

/-- **Sharing one buffer is not seen**, on any server. -/
theorem sharesUnseen (calls : List Call) (c : Cursor ρ) (w : World ω σ) :
    SharesUnseen calls c w := by
  obtain ⟨hsaid, hleft⟩ := run_performApart calls (.refl (c, w))
  have hleftover (buffer : Buffer) : ButBuffer ({ c with buffer }, w) (c, w) := ⟨buffer, rfl⟩
  exact
    { row := concur_decodeApart (.refl (c, w))
      said := hsaid
      left := hleft
      said_leftover := fun buffer => (run_performApart calls (hleftover buffer)).1.trans hsaid.symm
      left_leftover := fun buffer =>
        (run_performApart calls (hleftover buffer)).2.trans_symm hleft }

/-- The shared buffer does keep something: here the text that was transferred last. -/
example :
    let descriptions : List ColumnDescription :=
      [.ofLength "N" SqlType.integer.code 10, .ofLength "T" SqlType.varcharUnicode.code 1]
    let c : Cursor Scripted.ResultSet :=
      { rows := .new ⟨descriptions, [[.int 5, .text "ab"]]⟩
        columns := descriptions.filterMap fun d => (Column.ofDescription d).toOption
        buffer := .new 8, standing := .unpositioned, isClosed := false }
    let w : ClientWorld := .new .empty
    (run perform [.fetch .next] (c, w)).2.1.buffer = ⟨Utf8.encode "ab", 4, 2⟩ ∧
      (run performApart [.fetch .next] (c, w)).2.1.buffer = .new 8 := by
  decide +kernel

end Cursor
end SqlClient
