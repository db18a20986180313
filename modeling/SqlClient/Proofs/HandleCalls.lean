import SqlClient.Lob.Handle
import SqlClient.Proofs.Outcome

/-! # What a call on a handle asks of the server

A closed handle refuses every call (`perform_of_closed`).  On an open one each operation comes down
to one operation of the object on the server, and to what the handle makes of its result
(`read_of_open`, `write_of_open`, `close_of_open`, `onServer_of_open`).  A read that wants more room
than a buffer can have does not come to the server (`read_of_tooLarge`).

`LobRequest` puts the operations of an object into one type, so that it can be said of all calls at
once which of them a call uses: one at most (`perform_eq`).
-/
namespace SqlClient

namespace LobHandle

variable {σ ω : Type} {h : LobHandle σ}

/-! ## Single operations -/

theorem onServer_of_open {α : Type} (hopen : h.isOpen = true) (op : EStateM Error (σ × ω) α)
    (w : ω) :
    onServer op (h, w) =
      match op (h.lob, w) with
      | .ok a (lob, w) => .ok a ({ h with lob }, w)
      | .error e (lob, w) => .error e ({ h with lob }, w) :=
  if_pos hopen

theorem onServer_of_closed {α : Type} (hclosed : h.isOpen = false) (op : EStateM Error (σ × ω) α)
    (w : ω) : onServer op (h, w) = .error .lobClosed (h, w) := by
  simp [onServer, hclosed]

variable [RemoteLob σ ω]

/-- **A read for which no buffer is large enough** changes nothing. -/
theorem read_of_tooLarge (hopen : h.isOpen = true) (start : Option Int64) {size : Nat}
    (hsize : roomLimit ≤ size) (w : ω) :
    read start size (h, w) = .error (.roomTooLarge size) (h, w) := by
  have hserver := onServer_of_open hopen (readInto size start) w
  rw [readInto, if_neg (Nat.not_lt.mpr hsize)] at hserver
  rw [read, readInto, if_neg (Nat.not_lt.mpr hsize)]
  exact run_bind_error hserver

theorem read_of_open (hopen : h.isOpen = true) (start : Option Int64) {size : Nat}
    (hsize : size < roomLimit) (w : ω) :
    read start size (h, w) =
      match RemoteLob.read size start (h.lob, w) with
      | .error e (lob, w) => .error e ({ h with lob }, w)
      | .ok chunk (lob, w) =>
        match valueOf h.kind chunk size with
        | .ok v => .ok v ({ h with lob }, w)
        | .error e => .error e ({ h with lob }, w) := by
  have hserver := onServer_of_open hopen (RemoteLob.read size start) w
  rw [read, readInto, if_pos hsize]
  cases hread : RemoteLob.read size start (h.lob, w) with
  | error e state =>
    rw [hread] at hserver
    rw [run_bind_error hserver]
  | ok chunk state =>
    rw [hread] at hserver
    rw [run_bind_ok hserver, run_bind_get]
    simp only
    cases valueOf h.kind chunk size <;> rfl

theorem write_of_open (hopen : h.isOpen = true) (v : Value) (w : ω) :
    write v (h, w) =
      match bytesOf h.kind v with
      | .error e => .error e (h, w)
      | .ok data =>
        match RemoteLob.write data (h.lob, w) with
        | .ok a (lob, w) => .ok a ({ h with lob }, w)
        | .error e (lob, w) => .error e ({ h with lob }, w) := by
  have hwrite : write v (h, w) =
      match bytesOf h.kind v with
      | .error e => .error e (h, w)
      | .ok data => onServer (RemoteLob.write data) (h, w) := if_pos hopen
  rw [hwrite]
  cases bytesOf h.kind v with
  | error e => rfl
  | ok data =>
    simp only [onServer_of_open hopen]
    cases RemoteLob.write data (h.lob, w) <;> rfl

theorem close_of_open (hopen : h.isOpen = true) (w : ω) :
    close (h, w) =
      match RemoteLob.close (h.lob, w) with
      | .ok () (lob, w) => .ok () ({ h with lob, isOpen := false }, w)
      | .error e (lob, w) => .error e ({ h with lob }, w) := by
  have hserver := onServer_of_open hopen RemoteLob.close w
  rw [close]
  cases hclose : RemoteLob.close (h.lob, w) with
  | error e state =>
    rw [hclose] at hserver
    rw [run_bind_error hserver]
  | ok _ state =>
    rw [hclose] at hserver
    rw [run_bind_ok hserver]
    rfl

/-- **A closed handle refuses every call**, and nothing happens to it or to the server. -/
theorem perform_of_closed (hclosed : h.isOpen = false) (c : LobCall) (w : ω) :
    perform c (h, w) = .error .lobClosed (h, w) := by
  cases c with
  | read start size =>
    have hread : read start size (h, w) = .error .lobClosed (h, w) := by
      rw [read, run_bind_error (onServer_of_closed hclosed _ w)]
    rw [perform, run_bind_error hread]
  | write v =>
    have hwrite : write v (h, w) = .error .lobClosed (h, w) := by simp [write, hclosed]
    rw [perform, run_bind_error hwrite]
  | close =>
    have hclose : close (h, w) = .error .lobClosed (h, w) := by
      rw [close, run_bind_error (onServer_of_closed hclosed _ w)]
    rw [perform, run_bind_error hclose]
  | length => exact run_bind_error (onServer_of_closed hclosed RemoteLob.length w)
  | position => exact run_bind_error (onServer_of_closed hclosed RemoteLob.position w)
  | preferredSize => exact run_bind_error (onServer_of_closed hclosed RemoteLob.preferredSize w)

end LobHandle

section Requests

variable {σ ω : Type} [RemoteLob σ ω]

/-! ## Requests -/

/-- What a handle can ask of the object on the server. -/
inductive LobRequest where
  | read (start : Option Int64) (size : Nat)
  | write (data : Bytes)
  | close
  | length
  | position
  | preferredSize
  deriving DecidableEq, Repr

/-- What the server gives when it does what it is asked. -/
inductive LobReply where
  | done
  | chunk (chunk : LobChunk)
  | number (n : Nat)
  deriving DecidableEq, Repr

namespace LobRequest

/-- The server does what it is asked, or fails. -/
def serve : LobRequest → EStateM Error (σ × ω) LobReply
  | .read start size => return .chunk (← RemoteLob.read size start)
  | .write data => do RemoteLob.write data; return .done
  | .close => do RemoteLob.close; return .done
  | .length => return .number (← RemoteLob.length)
  | .position => return .number (← RemoteLob.position)
  | .preferredSize => return .number (← RemoteLob.preferredSize)

/-- The server does what it is asked. -/
def fulfilled (r : LobRequest) (state : σ × ω) : Bool := (result? (r.serve state)).isSome

end LobRequest

namespace LobHandle

/-- The request that a call makes of the server, or the error that keeps it from making one. -/
def request? {σ : Type} (h : LobHandle σ) (c : LobCall) : Except Error LobRequest :=
  if h.isOpen then
    match c with
    | .read start size =>
      if size < roomLimit then .ok (.read start size) else .error (.roomTooLarge size)
    | .write v => (bytesOf h.kind v).map .write
    | .close => .ok .close
    | .length => .ok .length
    | .position => .ok .position
    | .preferredSize => .ok .preferredSize
  else .error .lobClosed

/-- What a handle of some kind makes of the reply to a call. -/
def conclude (kind : LobKind) : LobCall → LobReply → Except Error LobAnswer
  | .read _ size, .chunk chunk => (valueOf kind chunk size).map .value
  | _, .number n => .ok (.number n)
  | _, _ => .ok .done

/-- The handle after a request.  It is open as long as no request to close was fulfilled. -/
def after {σ : Type} (h : LobHandle σ) (r : LobRequest) (fulfilled : Bool) (lob : σ) :
    LobHandle σ :=
  { h with lob, isOpen := h.isOpen && !(fulfilled && r = .close) }

/-- What a call makes of the outcome of its request. -/
def settled (h : LobHandle σ) (c : LobCall) (r : LobRequest) :
    EStateM.Result Error (σ × ω) LobReply → EStateM.Result Error (LobHandle σ × ω) LobAnswer
  | .error e (lob, w) => .error e (h.after r false lob, w)
  | .ok reply (lob, w) =>
    match conclude h.kind c reply with
    | .error e => .error e (h.after r true lob, w)
    | .ok answer => .ok answer (h.after r true lob, w)

variable {h : LobHandle σ}

/-- A question is a request whose reply is a number. -/
theorem perform_question (hopen : h.isOpen = true) {question : EStateM Error (σ × ω) Nat}
    {r : LobRequest} (hr : r ≠ .close) (hserve : r.serve = do return .number (← question))
    (c : LobCall) (w : ω) :
    (do return .number (← onServer question) : EStateM Error (LobHandle σ × ω) LobAnswer) (h, w) =
      h.settled c r (r.serve (h.lob, w)) := by
  have hserver := onServer_of_open hopen question w
  rw [hserve]
  cases hquestion : question (h.lob, w) with
  | error e state =>
    rw [hquestion] at hserver
    rw [run_bind_error hserver, run_bind_error hquestion]
    simp [settled, after, hopen]
  | ok n state =>
    rw [hquestion] at hserver
    rw [run_bind_ok hserver, run_bind_ok hquestion]
    cases c <;> simp [settled, after, hopen, hr, conclude]

/-- A chunk that was read may still not be a value. -/
theorem perform_read (hopen : h.isOpen = true) (start : Option Int64) {size : Nat}
    (hsize : size < roomLimit) (w : ω) :
    perform (.read start size) (h, w) =
      h.settled (.read start size) (.read start size)
        (LobRequest.serve (.read start size) (h.lob, w)) := by
  have hread := read_of_open hopen start hsize w
  rw [LobRequest.serve]
  cases hserver : RemoteLob.read size start (h.lob, w) with
  | error e state =>
    rw [hserver] at hread
    rw [perform, run_bind_error hread, run_bind_error hserver]
    simp [settled, after, hopen]
  | ok chunk state =>
    rw [hserver] at hread
    rw [run_bind_ok hserver, perform]
    simp only [run_pure, settled, conclude]
    cases hvalue : valueOf h.kind chunk size with
    | error e =>
      simp only [hvalue] at hread
      rw [run_bind_error hread]
      simp [after, hopen, Except.map]
    | ok v =>
      simp only [hvalue] at hread
      rw [run_bind_ok hread]
      simp [after, hopen, Except.map]

/-- Only a value that has bytes is sent. -/
theorem perform_write (hopen : h.isOpen = true) (v : Value) (w : ω) :
    perform (.write v) (h, w) =
      match bytesOf h.kind v with
      | .error e => .error e (h, w)
      | .ok data => h.settled (.write v) (.write data) (LobRequest.serve (.write data) (h.lob, w)) := by
  have hwrite := write_of_open hopen v w
  cases hbytes : bytesOf h.kind v with
  | error e =>
    simp only [hbytes] at hwrite
    rw [perform, run_bind_error hwrite]
  | ok data =>
    simp only [hbytes] at hwrite
    simp only [LobRequest.serve]
    cases hserver : RemoteLob.write data (h.lob, w) with
    | error e state =>
      rw [hserver] at hwrite
      rw [perform, run_bind_error hwrite, run_bind_error hserver]
      simp [settled, after, hopen]
    | ok _ state =>
      rw [hserver] at hwrite
      rw [perform, run_bind_ok hwrite, run_bind_ok hserver]
      simp [settled, after, hopen, conclude]

theorem perform_close (hopen : h.isOpen = true) (w : ω) :
    perform .close (h, w) = h.settled .close .close (LobRequest.serve .close (h.lob, w)) := by
  have hclose := close_of_open hopen w
  rw [LobRequest.serve]
  cases hserver : RemoteLob.close (h.lob, w) with
  | error e state =>
    rw [hserver] at hclose
    rw [perform, run_bind_error hclose, run_bind_error hserver]
    simp [settled, after, hopen]
  | ok _ state =>
    rw [hserver] at hclose
    rw [perform, run_bind_ok hclose, run_bind_ok hserver]
    simp [settled, after, hopen, conclude]

/-- **A call makes at most one request of the server**, and nothing else that the server does has
a part in its outcome. -/
theorem perform_eq (c : LobCall) (h : LobHandle σ) (w : ω) :
    perform c (h, w) =
      match h.request? c with
      | .error e => .error e (h, w)
      | .ok r => h.settled c r (r.serve (h.lob, w)) := by
  cases hopen : h.isOpen with
  | false =>
    rw [perform_of_closed hopen]
    simp [request?, hopen]
  | true =>
    simp only [request?, hopen, if_true]
    cases c with
    | read start size =>
      by_cases hsize : size < roomLimit
      · simp only [if_pos hsize]
        exact perform_read hopen start hsize w
      · simp only [if_neg hsize]
        exact run_bind_error (read_of_tooLarge hopen start (Nat.le_of_not_lt hsize) w)
    | write v =>
      rw [perform_write hopen]
      simp only
      cases bytesOf h.kind v <;> rfl
    | close => exact perform_close hopen w
    | length => exact perform_question hopen (by simp) rfl .length w
    | position => exact perform_question hopen (by simp) rfl .position w
    | preferredSize => exact perform_question hopen (by simp) rfl .preferredSize w

/-- What a call leaves of a handle and the world of its object. -/
theorem leaves_perform (c : LobCall) (h : LobHandle σ) (w : ω) :
    leaves (perform c (h, w)) =
      match h.request? c with
      | .error _ => (h, w)
      | .ok r =>
        (h.after r (r.fulfilled (h.lob, w)) (leaves (r.serve (h.lob, w))).1,
          (leaves (r.serve (h.lob, w))).2) := by
  rw [perform_eq]
  cases h.request? c with
  | error e => rfl
  | ok r =>
    simp only [LobRequest.fulfilled]
    cases r.serve (h.lob, w) with
    | error e state => rfl
    | ok reply state =>
      simp only [settled]
      cases conclude h.kind c reply <;> rfl

/-- A request that is made was made of an open handle. -/
theorem isOpen_of_request? {σ : Type} {h : LobHandle σ} {c : LobCall} {r : LobRequest}
    (hrequest : h.request? c = .ok r) : h.isOpen = true := by
  by_contra hclosed
  simp [request?, hclosed] at hrequest

/-- Only a write sends bytes, and they are those of its value. -/
theorem exists_of_request?_write {σ : Type} {h : LobHandle σ} {c : LobCall} {data : Bytes}
    (hrequest : h.request? c = .ok (.write data)) :
    ∃ v, c = .write v ∧ bytesOf h.kind v = .ok data := by
  have hopen := isOpen_of_request? hrequest
  simp only [request?, hopen, if_true] at hrequest
  cases c with
  | write v =>
    obtain ⟨bytes, hbytes, heq⟩ := map_eq_ok hrequest
    cases heq
    exact ⟨v, rfl, hbytes⟩
  | read start size =>
    simp only at hrequest
    split at hrequest <;> cases hrequest
  | close | length | position | preferredSize => cases hrequest

/-- **Dropping an alias makes a request only with the last one**, to close what is still open. -/
theorem drop_eq (hlive : h.aliases ≠ 0) (w : ω) :
    drop (h, w) =
      if h.aliases = 1 ∧ h.isOpen = true then
        ({ h with lob := (leaves (LobRequest.serve .close (h.lob, w))).1, isOpen := false,
                  aliases := 0 },
          (leaves (LobRequest.serve .close (h.lob, w))).2)
      else ({ h with aliases := h.aliases - 1 }, w) := by
  have hlast : h.aliases - 1 = 0 ↔ h.aliases = 1 := by omega
  have hserve : leaves (LobRequest.serve .close (h.lob, w)) = leaves (RemoteLob.close (h.lob, w)) :=
    leaves_bind_pure RemoteLob.close (fun _ => LobReply.done) (h.lob, w)
  simp only [drop, hlast, hserve]
  split
  · rename_i hclose
    rw [hclose.1]
    cases RemoteLob.close (h.lob, w) <;> rfl
  · rfl

end LobHandle
end Requests
end SqlClient
