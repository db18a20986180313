import SqlClient.Proofs.HandleCalls
import SqlClient.Scripted.Lob

/-! # Requests to the scripted server

Reading from an object of the scripted server changes nothing but the position of the object;
writing changes one content besides; closing is counted; questions change nothing.  No request does
anything else to the server (`leaves_serve`), and no request to close is refused.
-/
namespace SqlClient

namespace Scripted.Lob

variable (lob : Lob) (s : Server)

/-! ## Reads -/

/-- What a read is, case by case. -/
theorem read_eq (room : Nat) (start : Option Int64) :
    Lob.read room start (lob, s) =
      if lob.isNull then .ok .null (lob, s)
      else
        match lob.skipTo start with
        | .error e => .error e (lob, s)
        | .ok skip =>
          match slice lob.kind (s.content lob.content) skip room with
          | .error e => .error e (lob, s)
          | .ok none => .ok .noData (lob, s)
          | .ok (some (bytes, units)) =>
            .ok (.data bytes bytes.length) ({ lob with offset := skip + units }, s) := rfl

/-- **A read moves the position at most.** -/
theorem leaves_read (room : Nat) (start : Option Int64) :
    ∃ offset, leaves (Lob.read room start (lob, s)) = ({ lob with offset }, s) := by
  rw [read_eq]
  by_cases hnull : lob.isNull = true
  · rw [if_pos hnull]
    exact ⟨lob.offset, rfl⟩
  · rw [if_neg hnull]
    cases lob.skipTo start with
    | error e => exact ⟨lob.offset, rfl⟩
    | ok skip =>
      simp only
      split
      · exact ⟨lob.offset, rfl⟩
      · exact ⟨lob.offset, rfl⟩
      · exact ⟨_, rfl⟩

/-! ## Other requests -/

/-- **A write changes one content**, and of the object its position.  It is not NULL any more. -/
theorem leaves_write (data : Bytes) :
    ∃ offset contents, leaves (Lob.write data (lob, s)) =
        ({ lob with offset, isNull := false }, { s with contents }) ∧
      contents.length = s.contents.length ∧
      ∀ n, n ≠ lob.content → contents[n]? = s.contents[n]? := by
  by_cases hnull : lob.isNull = true
  · simp only [Lob.write, if_pos hnull]
    split
    · exact ⟨lob.offset, s.contents.set lob.content [], rfl, by simp,
        fun n hn => List.getElem?_set_ne hn.symm⟩
    · rename_i content units _
      exact ⟨_, (s.contents.set lob.content []).set lob.content content, rfl, by simp,
        fun n hn => by rw [List.getElem?_set_ne hn.symm, List.getElem?_set_ne hn.symm]⟩
  · simp only [Lob.write, if_neg hnull]
    split
    · exact ⟨lob.offset, s.contents, rfl, rfl, fun n _ => rfl⟩
    · rename_i content units _
      exact ⟨_, s.contents.set lob.content content, rfl, by simp,
        fun n hn => List.getElem?_set_ne hn.symm⟩

/-! ## Questions -/

/-- **A question changes nothing.** -/
theorem leaves_answer (question : Lob → Server → Except Error Nat) :
    leaves (answer question (lob, s)) = (lob, s) := by
  rw [answer]
  cases question lob s <;> rfl

/-! ## Requests -/

/-- The scripted server never refuses to close. -/
theorem fulfilled_close (state : Lob × Server) : LobRequest.close.fulfilled state = true := rfl

theorem leaves_serve_read (room : Nat) (start : Option Int64) :
    leaves (LobRequest.serve (.read start room) (lob, s)) = leaves (Lob.read room start (lob, s)) :=
  leaves_bind_pure _ LobReply.chunk _

theorem leaves_serve_write (data : Bytes) :
    leaves (LobRequest.serve (.write data) (lob, s)) = leaves (Lob.write data (lob, s)) :=
  leaves_bind_pure _ (fun _ => LobReply.done) _

theorem leaves_serve_length : leaves (LobRequest.serve .length (lob, s)) = (lob, s) :=
  (leaves_bind_pure _ LobReply.number _).trans (leaves_answer lob s Lob.length)

/-- **What a request can do**: move an object, write to contents, of which there stay as many, and
count the objects that the server is asked to close. -/
theorem leaves_serve (r : LobRequest) :
    ∃ offset isNull contents, leaves (r.serve (lob, s)) =
        ({ lob with offset, isNull },
          { s with contents, closedLobs := s.closedLobs + if r = .close then 1 else 0 }) ∧
      contents.length = s.contents.length := by
  cases r with
  | read start size =>
    obtain ⟨offset, hread⟩ := leaves_read lob s size start
    exact ⟨offset, lob.isNull, s.contents, by rw [leaves_serve_read, hread]; rfl, rfl⟩
  | write data =>
    obtain ⟨offset, contents, hwrite, hlength, -⟩ := leaves_write lob s data
    exact ⟨offset, false, contents, by rw [leaves_serve_write, hwrite]; rfl, hlength⟩
  | length => exact ⟨lob.offset, lob.isNull, s.contents, by rw [leaves_serve_length]; rfl, rfl⟩
  | close | position | preferredSize => exact ⟨lob.offset, lob.isNull, s.contents, rfl, rfl⟩

end Scripted.Lob

/-! ## Handles -/

namespace LobHandle

open Scripted (Lob Server)

variable {h : LobHandle Lob}

/-- A question about the object of an open handle. -/
theorem onServer_answer (hopen : h.isOpen = true) (question : Lob → Server → Except Error Nat)
    (s : Server) :
    onServer (Lob.answer question) (h, s) =
      match question h.lob s with
      | .ok n => .ok n (h, s)
      | .error e => .error e (h, s) := by
  rw [onServer_of_open hopen, Lob.answer]
  cases question h.lob s <;> rfl

theorem position_of_open (hopen : h.isOpen = true) (s : Server) :
    position (h, s) = .ok (h.lob.offset + 1) (h, s) :=
  onServer_answer hopen Lob.position s

theorem length_of_open (hopen : h.isOpen = true) (s : Server) :
    length (h, s) =
      match Lob.length h.lob s with
      | .ok n => .ok n (h, s)
      | .error e => .error e (h, s) :=
  onServer_answer hopen Lob.length s

end LobHandle
end SqlClient
