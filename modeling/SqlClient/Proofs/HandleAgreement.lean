import SqlClient.Proofs.LobOwnership

/-! # Handles that agree

What a call on a handle comes to depends on the handle and on the bytes of its content, and on
nothing else that the server keeps: neither on the number of the content nor on other contents.  So
a handle may be moved to another content that has the same bytes (`LobHandle.moved`), on this server
or on another one, and answers there as it answers here (`LobHandle.agrees_perform`).
-/
namespace SqlClient

open Scripted

/-- What an operation says, whatever state it leaves. -/
def answered {ε σ α : Type} : EStateM.Result ε σ α → Except ε α
  | .ok a _ => .ok a
  | .error e _ => .error e

namespace Scripted.Lob

/-- The object with its place, on another content. -/
def moved (lob : Lob) (n : Nat) : Lob := { lob with content := n }

/-- **Requests that agree**: they say the same, and leave an object and the same one on content
`n`. -/
inductive Agrees {α : Type} (n : Nat) :
    EStateM.Result Error (Lob × Server) α → EStateM.Result Error (Lob × Server) α → Prop
  | ok (a : α) (lob : Lob) (s s' : Server) : Agrees n (.ok a (lob, s)) (.ok a (lob.moved n, s'))
  | error (e : Error) (lob : Lob) (s s' : Server) :
    Agrees n (.error e (lob, s)) (.error e (lob.moved n, s'))

variable {lob : Lob} {n : Nat} {s s' : Server}

/-- What is made of a result is made of what agrees with it. -/
theorem Agrees.bind_pure {α β : Type} {x y : EStateM Error (Lob × Server) α}
    {before before' : Lob × Server} (h : Agrees n (x before) (y before')) (f : α → β) :
    Agrees n ((x >>= fun a => pure (f a)) before) ((y >>= fun a => pure (f a)) before') := by
  cases hx : x before with
  | ok a z =>
    cases hy : y before' with
    | ok b z' =>
      rw [hx, hy] at h
      rw [run_bind_ok hx, run_bind_ok hy]
      cases h
      exact .ok ..
    | error e z' =>
      rw [hx, hy] at h
      cases h
  | error e z =>
    cases hy : y before' with
    | ok b z' =>
      rw [hx, hy] at h
      cases h
    | error e' z' =>
      rw [hx, hy] at h
      rw [run_bind_error hx, run_bind_error hy]
      cases h
      exact .error ..

/-- A content that was emptied is empty, also if the server keeps none of this number. -/
theorem content_setContent_nil (s : Server) (n : Nat) : (s.setContent n []).content n = [] := by
  rw [Server.setContent, Server.content]
  cases h : (s.contents.set n [])[n]? with
  | none => rfl
  | some content =>
    rcases getElem?_set_cases h with ⟨-, rfl⟩ | ⟨hne, -⟩
    · rfl
    · exact absurd rfl hne

theorem agrees_read (hcontent : s'.content n = s.content lob.content) (room : Nat)
    (start : Option Int64) :
    Agrees n (Lob.read room start (lob, s)) (Lob.read room start (lob.moved n, s')) := by
  have hskip : (lob.moved n).skipTo start = lob.skipTo start := rfl
  have hslice (skip : Nat) : slice (lob.moved n).kind (s'.content (lob.moved n).content) skip room =
      slice lob.kind (s.content lob.content) skip room := by
    rw [← hcontent]
    rfl
  rw [read_eq, read_eq, hskip, show (lob.moved n).isNull = lob.isNull from rfl]
  by_cases hnull : lob.isNull = true
  · rw [if_pos hnull, if_pos hnull]
    exact .ok ..
  · rw [if_neg hnull, if_neg hnull]
    cases lob.skipTo start with
    | error e => exact .error ..
    | ok skip =>
      simp only [hslice]
      rcases slice lob.kind (s.content lob.content) skip room with e | _ | ⟨bytes, units⟩
      · exact .error ..
      · exact .ok ..
      · exact .ok _ { lob with offset := skip + units } ..

theorem agrees_write (hcontent : s'.content n = s.content lob.content) (data : Bytes) :
    Agrees n (Lob.write data (lob, s)) (Lob.write data (lob.moved n, s')) := by
  obtain ⟨content, kind, offset, isNull⟩ := lob
  have hlive {t t' : Server} (hbytes : t'.content n = t.content content) :
      Agrees n (Lob.write data (⟨content, kind, offset, false⟩, t))
        (Lob.write data (⟨n, kind, offset, false⟩, t')) := by
    simp only [Lob.write, Bool.false_eq_true, if_false, hbytes]
    rcases splice kind (t.content content) offset data with e | ⟨bytes, units⟩
    · exact .error e ⟨content, kind, offset, false⟩ ..
    · exact .ok () ⟨content, kind, offset + units, false⟩ ..
  cases isNull with
  | true =>
    -- a NULL object is emptied first, and then both contents are empty
    exact hlive ((content_setContent_nil s' n).trans (content_setContent_nil s content).symm)
  | false => exact hlive hcontent

/-- A question to which both have the same answer. -/
theorem agrees_answer {question : Lob → Server → Except Error Nat}
    (hsame : question (lob.moved n) s' = question lob s) :
    Agrees n (answer question (lob, s)) (answer question (lob.moved n, s')) := by
  simp only [answer, hsame]
  cases question lob s with
  | ok a => exact .ok ..
  | error e => exact .error ..

/-- **Every request.** -/
theorem agrees_serve (hcontent : s'.content n = s.content lob.content) (r : LobRequest) :
    Agrees n (r.serve (lob, s)) (r.serve (lob.moved n, s')) := by
  cases r with
  | read start size => exact (agrees_read hcontent size start).bind_pure LobReply.chunk
  | write data => exact (agrees_write hcontent data).bind_pure fun _ => LobReply.done
  | length =>
    have hlength : Lob.length (lob.moved n) s' = Lob.length lob s := by
      simp only [Lob.length, moved, hcontent]
    exact (agrees_answer hlength).bind_pure LobReply.number
  | close | position | preferredSize => exact .ok ..

end Scripted.Lob

namespace LobHandle

open Scripted.Lob (Agrees)

/-- The handle with its place, on another content. -/
def moved (h : LobHandle Lob) (n : Nat) : LobHandle Lob := { h with lob := h.lob.moved n }

/-- **Calls that agree**: they say the same, and leave a handle and the same one on content `n`. -/
structure Agrees {α : Type} (n : Nat) (x y : EStateM.Result Error (LobHandle Lob × Server) α) :
    Prop where
  answer : answered y = answered x
  handle : (leaves y).1 = (leaves x).1.moved n

variable {h : LobHandle Lob} {n : Nat} {s s' : Server}

/-- A handle that is moved to where it is. -/
theorem moved_eq_self (hn : h.lob.content = n) : h.moved n = h := by
  subst hn
  rfl

/-- **A handle answers alike on any content with the same bytes**, and is left at the same
place. -/
theorem agrees_perform (hcontent : s'.content n = s.content h.lob.content) (c : LobCall) :
    Agrees n (perform c (h, s)) (perform c (h.moved n, s')) := by
  have hrequest : (h.moved n).request? c = h.request? c := rfl
  rw [perform_eq, perform_eq, hrequest]
  cases h.request? c with
  | error e => exact ⟨rfl, rfl⟩
  | ok r =>
    have hserve := Lob.agrees_serve hcontent r
    rw [show (h.moved n).lob = h.lob.moved n from rfl]
    simp only
    cases hx : r.serve (h.lob, s) <;> cases hy : r.serve (h.lob.moved n, s') <;>
      rw [hx, hy] at hserve <;> cases hserve
    · simp only [settled]
      rw [show (h.moved n).kind = h.kind from rfl]
      cases conclude h.kind c _ <;> exact ⟨rfl, rfl⟩
    · exact ⟨rfl, rfl⟩

end LobHandle
end SqlClient
