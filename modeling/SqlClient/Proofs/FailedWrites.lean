import SqlClient.Proofs.HandleAgreement
import SqlClient.Proofs.LobUnits

/-! # Writes that fail

A write to a NULL object first makes it an empty one, and only then are the bytes looked at.  If
they are no text, the write fails and the object stays empty (`LobHandle.emptied`).  That is the
only change that a failed write leaves: it is refused before it reaches the object, or the object is
not NULL, and then everything is as it was (`LobHandle.write_error_cases`).

An empty object answers like a NULL object to all but one call: only the empty one looks at the
position of a read.  So the change shows in a read at a position below one for which there is room,
before the object is written or closed (`LobHandle.Reveals`), and in nothing else
(`LobHandle.hides_iff`).

A handle of the kind of its object sends bytes that the object takes, and then a failed write has no
effect at all.
-/
namespace SqlClient

open Scripted (Lob Server)

/-! ## Objects -/

namespace Scripted.Lob

variable {lob : Lob} {s : Server} {data : Bytes} {e : Error}

/-- **A write that fails** has already made an empty object of a NULL one. -/
theorem write_error {state : Lob × Server} (h : Lob.write data (lob, s) = .error e state) :
    splice lob.kind
        ((if lob.isNull then s.setContent lob.content [] else s).content lob.content)
        lob.offset data = .error e ∧
      state = ({ lob with isNull := false },
        if lob.isNull then s.setContent lob.content [] else s) := by
  rw [Lob.write] at h
  simp only at h
  split at h
  · rename_i hsplice
    cases h
    exact ⟨hsplice, rfl⟩
  · cases h

/-- Only a NULL object is changed. -/
theorem write_error_eq_iff {state : Lob × Server} (h : Lob.write data (lob, s) = .error e state) :
    state = (lob, s) ↔ lob.isNull = false := by
  obtain ⟨-, rfl⟩ := write_error h
  constructor
  · intro heq
    exact (congrArg (fun state : Lob × Server => state.1.isNull) heq).symm
  · intro hnull
    have hsame : { lob with isNull := false } = lob := by rw [← hnull]
    rw [hsame, hnull, if_neg Bool.false_ne_true]

/-- A text is always taken where there is nothing, and bytes are always taken. -/
theorem splice_nil_of_bytesOf {kind : LobKind} {v : Value} (hbytes : LobHandle.bytesOf kind v = .ok data)
    (offset : Nat) : ∃ spliced, splice kind [] offset data = .ok spliced := by
  cases kind with
  | binary => exact ⟨_, rfl⟩
  | character =>
    obtain ⟨text, -, rfl⟩ := map_eq_ok hbytes
    refine ⟨(bytesOf (([] : List Char).take offset ++ text.toList ++
      ([] : List Char).drop (offset + text.toList.length)), text.toList.length), ?_⟩
    have hempty : characters [] = .ok [] := rfl
    have hwritten : characters (Utf8.encode text) = .ok text.toList := by
      rw [characters, Utf8.decode_encode]
      rfl
    rw [splice, hempty, hwritten]
    rfl

end Scripted.Lob

/-! ## Handles -/

namespace LobHandle

variable {h : LobHandle Lob} {s : Server} {v : Value} {e : Error}

/-- The state in which a NULL object is an empty one. -/
def emptied (state : LobHandle Lob × Server) : LobHandle Lob × Server :=
  ({ state.1 with lob := { state.1.lob with isNull := false } },
    state.2.setContent state.1.lob.content [])

/-- A write of this value reaches a NULL object. -/
def ReachesNull (h : LobHandle Lob) (v : Value) : Prop :=
  h.isOpen = true ∧ h.lob.isNull = true ∧ ∃ data, bytesOf h.kind v = .ok data

/-- A value is not sent to a closed object, and not without its bytes. -/
theorem write_eq_error {state : LobHandle Lob × Server} (hfail : write v (h, s) = .error e state) :
    (state = (h, s) ∧ ¬ (h.isOpen = true ∧ ∃ data, bytesOf h.kind v = .ok data)) ∨
      ∃ data lob s', (h.isOpen = true ∧ bytesOf h.kind v = .ok data) ∧
        Lob.write data (h.lob, s) = .error e (lob, s') ∧ state = ({ h with lob }, s') := by
  by_cases hopen : h.isOpen = true
  · rw [write_of_open hopen] at hfail
    cases hbytes : bytesOf h.kind v with
    | error fault =>
      simp only [hbytes] at hfail
      cases hfail
      exact .inl ⟨rfl, fun ⟨_, _, hdata⟩ => nomatch hdata⟩
    | ok data =>
      simp only [hbytes] at hfail
      cases hserver : RemoteLob.write data (h.lob, s) with
      | ok _ after =>
        simp only [hserver] at hfail
        cases hfail
      | error e' after =>
        simp only [hserver] at hfail
        cases hfail
        exact .inr ⟨data, after.1, after.2, ⟨hopen, rfl⟩, hserver, rfl⟩
  · have hclosed : write v (h, s) = .error .lobClosed (h, s) := by simp [write, hopen]
    cases hclosed.symm.trans hfail
    exact .inl ⟨rfl, fun hsent => hopen hsent.1⟩

/-- **What a failed write leaves**: all that there was, or an empty object in place of a NULL one. -/
theorem write_error_cases {state : LobHandle Lob × Server}
    (hfail : write v (h, s) = .error e state) :
    (¬ h.ReachesNull v ∧ state = (h, s)) ∨
      h.ReachesNull v ∧ h.kind ≠ h.lob.kind ∧ state = emptied (h, s) := by
  rcases write_eq_error hfail with ⟨rfl, hrefused⟩ | ⟨data, lob, s', hsent, hserver, rfl⟩
  · exact .inl ⟨fun ⟨hopen, _, hbytes⟩ => hrefused ⟨hopen, hbytes⟩, rfl⟩
  · cases hnull : h.lob.isNull with
    | false =>
      have hstate := (Scripted.Lob.write_error_eq_iff hserver).mpr hnull
      obtain ⟨rfl, rfl⟩ := Prod.mk.inj hstate
      exact .inl ⟨fun ⟨_, hisNull, _⟩ => Bool.false_ne_true (hnull.symm.trans hisNull), rfl⟩
    | true =>
      obtain ⟨hsplice, hstate⟩ := Scripted.Lob.write_error hserver
      obtain ⟨rfl, rfl⟩ := Prod.mk.inj hstate
      refine .inr ⟨⟨hsent.1, hnull, data, hsent.2⟩, fun hkind => ?_, by rw [if_pos hnull]; rfl⟩
      rw [hnull, if_pos rfl, Scripted.Lob.content_setContent_nil, ← hkind] at hsplice
      obtain ⟨spliced, hok⟩ := Scripted.Lob.splice_nil_of_bytesOf hsent.2 h.lob.offset
      cases hok.symm.trans hsplice

/-! ## Calls after a failed write -/

/-- What calls say, one after the other. -/
def answers : List LobCall → LobHandle Lob × Server → List (Except Error LobAnswer)
  | [], _ => []
  | c :: calls, state => answered (perform c state) :: answers calls (leaves (perform c state))

/-- **The calls tell an empty object from a NULL one**: one of them reads at a position below one,
with a size for which a buffer can have room, before anything is written and before the object is
closed. -/
def Reveals (kind : LobKind) : List LobCall → Prop
  | [] => False
  | .read (some p) size :: calls => (p.toInt < 1 ∧ size < roomLimit) ∨ Reveals kind calls
  | .write v :: calls => (∃ e, bytesOf kind v = .error e) ∧ Reveals kind calls
  | .close :: _ => False
  | .read none _ :: calls => Reveals kind calls
  | .length :: calls => Reveals kind calls
  | .position :: calls => Reveals kind calls
  | .preferredSize :: calls => Reveals kind calls

/-- The call says this, and changes nothing. -/
structure Says (state : LobHandle Lob × Server) (c : LobCall) (answer : Except Error LobAnswer) :
    Prop where
  answer : answered (perform c state) = answer
  state : leaves (perform c state) = state

theorem Says.of_eq_ok {state : LobHandle Lob × Server} {c : LobCall} {answer : LobAnswer}
    (h : perform c state = .ok answer state) : Says state c (.ok answer) :=
  ⟨congrArg answered h, congrArg leaves h⟩

theorem Says.of_eq_error {state : LobHandle Lob × Server} {c : LobCall}
    (h : perform c state = .error e state) : Says state c (.error e) :=
  ⟨congrArg answered h, congrArg leaves h⟩

theorem Says.answers_cons {state : LobHandle Lob × Server} {c : LobCall}
    {answer : Except Error LobAnswer} (h : Says state c answer) (calls : List LobCall) :
    answers (c :: calls) state = answer :: answers calls state := by
  rw [answers, h.answer, h.state]

/-- A closed handle has only one thing to say. -/
theorem answers_of_closed (hclosed : h.isOpen = false) (calls : List LobCall) :
    answers calls (h, s) = calls.map fun _ => .error .lobClosed := by
  induction calls with
  | nil => rfl
  | cons c calls ih =>
    rw [(Says.of_eq_error (perform_of_closed hclosed c s)).answers_cons, ih, List.map_cons]

/-- A question that has an answer. -/
theorem says_number (hopen : h.isOpen = true) {question : Lob → Server → Except Error Nat} {n : Nat}
    (hquestion : question h.lob s = .ok n) {c : LobCall}
    (hc : perform c = do return .number (← onServer (Lob.answer question))) :
    Says (h, s) c (.ok (.number n)) := by
  have hanswer := onServer_answer hopen question s
  rw [hquestion] at hanswer
  exact .of_eq_ok (by rw [hc, run_bind_ok hanswer]; rfl)

/-- A question to which a NULL object and an empty one have the same answer. -/
theorem says_number_emptied (hopen : h.isOpen = true) (question : Lob → Server → Except Error Nat)
    {n : Nat} (hnull : question h.lob s = .ok n)
    (hempty : question (emptied (h, s)).1.lob (emptied (h, s)).2 = .ok n) {c : LobCall}
    (hc : perform c = do return .number (← onServer (Lob.answer question))) :
    Says (emptied (h, s)) c (.ok (.number n)) ∧ Says (h, s) c (.ok (.number n)) :=
  ⟨says_number (h := (emptied (h, s)).1) hopen hempty hc, says_number hopen hnull hc⟩

/-- Without room for it nothing is read, whatever there is. -/
theorem says_read_tooLarge (hopen : h.isOpen = true) (start : Option Int64) {size : Nat}
    (hsize : roomLimit ≤ size) : Says (h, s) (.read start size) (.error (.roomTooLarge size)) :=
  .of_eq_error (by rw [perform, run_bind_error (read_of_tooLarge hopen start hsize s)])

/-- A NULL object reads as nothing. -/
theorem says_read_null (hopen : h.isOpen = true) (hnull : h.lob.isNull = true)
    (start : Option Int64) {size : Nat} (hsize : size < roomLimit) :
    Says (h, s) (.read start size) (.ok (.value (.nothing h.kind))) := by
  have hserver : RemoteLob.read size start (h.lob, s) = .ok LobChunk.null (h.lob, s) :=
    (Scripted.Lob.read_eq h.lob s size start).trans (if_pos hnull)
  have hread := read_of_open hopen start hsize s
  simp only [hserver, valueOf_null] at hread
  exact .of_eq_ok (by rw [perform, run_bind_ok hread]; rfl)

/-- So does an empty object, at a position. -/
theorem says_read_empty (hopen : h.isOpen = true) (hnull : h.lob.isNull = false)
    (hempty : s.content h.lob.content = []) (start : Option Int64) {size : Nat}
    (hsize : size < roomLimit) :
    Says (h, s) (.read start size)
      ((h.lob.skipTo start).map fun _ => .value (.nothing h.kind)) := by
  have hread := read_of_open hopen start hsize s
  have hserver : RemoteLob.read size start (h.lob, s) = _ := Scripted.Lob.read_eq h.lob s size start
  rw [hnull, if_neg Bool.false_ne_true] at hserver
  cases hskip : h.lob.skipTo start with
  | error refusal =>
    simp only [hskip] at hserver
    simp only [hserver] at hread
    exact .of_eq_error (by rw [perform, run_bind_error hread])
  | ok skip =>
    have hslice : Scripted.Lob.slice h.lob.kind (s.content h.lob.content) skip size = .ok none := by
      have hnone : Scripted.Lob.fragments h.lob.kind [] = .ok [] := by cases h.lob.kind <;> rfl
      rw [hempty]
      exact Scripted.Lob.slice_of_le hnone (Nat.zero_le skip)
    simp only [hskip, hslice] at hserver
    simp only [hserver, valueOf_noData] at hread
    exact .of_eq_ok (by rw [perform, run_bind_ok hread]; rfl)

/-- A value without bytes is not sent. -/
theorem says_write_unsent (hopen : h.isOpen = true) (hbytes : bytesOf h.kind v = .error e) :
    Says (h, s) (.write v) (.error e) := by
  have hwrite := write_of_open hopen v s
  simp only [hbytes] at hwrite
  exact .of_eq_error (by rw [perform, run_bind_error hwrite])

/-- Closing a scripted object never fails. -/
theorem perform_close_of_open (hopen : h.isOpen = true) (s : Server) :
    ∃ s', perform .close (h, s) = .ok .done ({ h with isOpen := false }, s') := by
  have hclose := close_of_open hopen s
  have hserver : RemoteLob.close (h.lob, s) =
      .ok () (h.lob, { s with closedLobs := s.closedLobs + 1 }) := rfl
  rw [hserver] at hclose
  exact ⟨_, by rw [perform, run_bind_ok hclose]; rfl⟩

/-- An empty object has no units. -/
theorem length_empty {lob : Lob} (hempty : s.content lob.content = []) :
    Scripted.Lob.length { lob with isNull := false } s = .ok 0 := by
  unfold Scripted.Lob.length
  rw [if_neg Bool.false_ne_true]
  simp only [hempty]
  cases lob.kind <;> rfl

/-- Once something is written, nothing is left of the difference. -/
theorem write_emptied (hopen : h.isOpen = true) (hnull : h.lob.isNull = true) {data : Bytes}
    (hbytes : bytesOf h.kind v = .ok data) : write v (emptied (h, s)) = write v (h, s) := by
  obtain ⟨⟨content, of, offset, isNull⟩, kind, isOpen, aliases⟩ := h
  cases hopen
  cases hnull
  simp only [write, emptied, hbytes]
  rfl

/-- The calls say the same of a NULL object and of an empty one. -/
def Hides (state : LobHandle Lob × Server) (calls : List LobCall) : Prop :=
  answers calls (emptied state) = answers calls state

/-- A call that says the same of both, and changes neither. -/
theorem hides_cons {c : LobCall} {answer : Except Error LobAnswer} {calls : List LobCall}
    (hboth : Says (emptied (h, s)) c answer ∧ Says (h, s) c answer) :
    Hides (h, s) (c :: calls) ↔ Hides (h, s) calls := by
  rw [Hides, hboth.1.answers_cons, hboth.2.answers_cons, List.cons_inj_right, Hides]

/-- A read says the same of both if it is at a position, or has no room. -/
theorem hides_read (hopen : h.isOpen = true) (hnull : h.lob.isNull = true) (start : Option Int64)
    (size : Nat) (calls : List LobCall) : Hides (h, s) (.read start size :: calls) ↔
      (∀ p, start = some p → ¬ (p.toInt < 1 ∧ size < roomLimit)) ∧ Hides (h, s) calls := by
  by_cases hsize : size < roomLimit
  case neg =>
    have hboth := Nat.le_of_not_lt hsize
    exact (hides_cons ⟨says_read_tooLarge (h := (emptied (h, s)).1) hopen start hboth,
      says_read_tooLarge hopen start hboth⟩).trans (and_iff_right fun p _ hp => hsize hp.2).symm
  have hread := says_read_null (s := s) hopen hnull start hsize
  have hread' := says_read_empty (h := (emptied (h, s)).1) (s := (emptied (h, s)).2) hopen rfl
    (Scripted.Lob.content_setContent_nil s h.lob.content) start hsize
  cases hskip : (emptied (h, s)).1.lob.skipTo start with
  | ok skip =>
    rw [hskip] at hread'
    refine (hides_cons ⟨hread', hread⟩).trans (and_iff_right fun p hstart hp => ?_).symm
    subst hstart
    cases hskip.symm.trans (if_pos hp.1)
  | error refusal =>
    obtain ⟨p, hstart, hp, -⟩ := Scripted.Lob.skipTo_eq_error hskip
    rw [hskip] at hread'
    refine iff_of_false (fun heq => ?_) fun hpositions => hpositions.1 p hstart ⟨hp, hsize⟩
    rw [Hides, hread'.answers_cons, hread.answers_cons] at heq
    cases (List.cons.inj heq).1

/-- Once something is sent, nothing is left of the difference. -/
theorem hides_write (hopen : h.isOpen = true) (hnull : h.lob.isNull = true) {data : Bytes}
    (hbytes : bytesOf h.kind v = .ok data) (calls : List LobCall) :
    Hides (h, s) (.write v :: calls) := by
  have hwrite : perform (.write v) (emptied (h, s)) = perform (.write v) (h, s) := by
    simp only [perform, bind, EStateM.bind, write_emptied hopen hnull hbytes]
  rw [Hides, answers, answers, hwrite]

/-- Nor is anything once the object is closed. -/
theorem hides_close (hopen : h.isOpen = true) (calls : List LobCall) :
    Hides (h, s) (.close :: calls) := by
  obtain ⟨s₁, hclose⟩ := perform_close_of_open hopen s
  obtain ⟨s₂, hclose'⟩ := perform_close_of_open (h := (emptied (h, s)).1) hopen (emptied (h, s)).2
  change answers _ ((emptied (h, s)).1, (emptied (h, s)).2) = _
  rw [answers, answers, hclose, hclose', leaves_ok, leaves_ok, answers_of_closed rfl,
    answers_of_closed rfl]
  rfl

/-- **What calls on an empty object say** is what they say of a NULL one, unless they read at a
position below one before anything else happens to it. -/
theorem hides_iff (hopen : h.isOpen = true) (hnull : h.lob.isNull = true) (calls : List LobCall) :
    Hides (h, s) calls ↔ ¬ Reveals h.kind calls := by
  -- A call that neither sends nor closes leaves both objects as they are, so the rest is about them.
  induction calls with
  | nil => exact iff_of_true rfl id
  | cons c calls ih =>
    cases c with
    | read start size =>
      rw [hides_read hopen hnull, ih]
      cases start with
      | none => exact and_iff_right fun p hstart => by cases hstart
      | some p =>
        rw [Reveals, not_or]
        exact and_congr_left' ⟨fun hpositions => hpositions p rfl, fun hp q hstart => by
          cases hstart
          exact hp⟩
    | write v =>
      cases hbytes : bytesOf h.kind v with
      | error e =>
        have hunsent := says_write_unsent (s := s) hopen hbytes
        have hunsent' := says_write_unsent (h := (emptied (h, s)).1) (s := (emptied (h, s)).2)
          hopen hbytes
        rw [hides_cons ⟨hunsent', hunsent⟩, ih, Reveals, and_iff_right ⟨e, hbytes⟩]
      | ok data =>
        refine iff_of_true (hides_write hopen hnull hbytes calls) ?_
        rintro ⟨⟨e, he⟩, -⟩
        cases hbytes.symm.trans he
    | close => exact iff_of_true (hides_close hopen calls) id
    | length =>
      have hempty := length_empty (Scripted.Lob.content_setContent_nil s h.lob.content)
      exact (hides_cons (says_number_emptied hopen Lob.length (if_pos hnull) hempty rfl)).trans
        ih
    | position =>
      exact (hides_cons (says_number_emptied hopen Lob.position rfl rfl rfl)).trans ih
    | preferredSize =>
      exact (hides_cons (says_number_emptied hopen (fun _ _ => .ok Lob.preferredSize) rfl rfl
        rfl)).trans ih

/-- **A failed write keeps everything** exactly when it did not reach a NULL object, and never
fails to for a handle of the kind of its object.  What a NULL object has become then shows in the
calls that tell an empty object from a NULL one, and in no others. -/
theorem write_error_keeps_iff (h : LobHandle Lob) (s : Server) :
    (∀ data e state, Lob.write data (h.lob, s) = .error e state →
      (state = (h.lob, s) ↔ h.lob.isNull = false)) ∧
    ∀ v e state, write v (h, s) = .error e state →
      (state = (h, s) ∨ state = emptied (h, s)) ∧
      (state = (h, s) ↔ ¬ h.ReachesNull v) ∧
      (h.kind = h.lob.kind → state = (h, s)) ∧
      ∀ calls, answers calls state = answers calls (h, s) ↔
        ¬ (h.ReachesNull v ∧ Reveals h.kind calls) := by
  refine ⟨fun data e state => Scripted.Lob.write_error_eq_iff, fun v e state hfail => ?_⟩
  rcases write_error_cases hfail with ⟨hmissed, rfl⟩ | ⟨hreached, hkind, rfl⟩
  · exact ⟨.inl rfl, iff_of_true rfl hmissed, fun _ => rfl, fun calls =>
      iff_of_true rfl fun hreveals => hmissed hreveals.1⟩
  · have hchanged : emptied (h, s) ≠ (h, s) := fun heq =>
      Bool.false_ne_true ((congrArg (·.1.lob.isNull) heq).trans hreached.2.1)
    refine ⟨.inr rfl, iff_of_false hchanged (not_not_intro hreached),
      fun heq => absurd heq hkind, fun calls => ?_⟩
    refine (hides_iff hreached.1 hreached.2.1 calls).trans ?_
    exact not_congr ⟨fun hreveals => ⟨hreached, hreveals⟩, fun hreveals => hreveals.2⟩

/-- Bytes that are no text, written to a NULL object of characters through a handle on bytes.  What
is read and written after that shows nothing of it. -/
theorem write_error_keeps_answers :
    let s : Server := { Server.empty with contents := [[]] }
    let h := new { Lob.new 0 .character with isNull := true } .binary
    let calls : List LobCall :=
      [.length, .read none 4, .read (some 1) 4, .write (.text "a"), .read (some 0) 4]
    ∃ e state, write (.bytes [0xff]) (h, s) = .error e state ∧
      answers calls state = answers calls (h, s) := by
  intro s h calls
  have hfail : ∃ e, write (.bytes [0xff]) (h, s) = .error e (emptied (h, s)) := ⟨_, by cbv⟩
  obtain ⟨e, hfail⟩ := hfail
  obtain ⟨-, -, -, hanswers⟩ := (write_error_keeps_iff h s).2 _ e _ hfail
  refine ⟨e, _, hfail, (hanswers calls).mpr ?_⟩
  rintro ⟨-, hp | ⟨⟨refusal, hrefusal⟩, -⟩⟩
  · exact absurd hp (by decide)
  · cases hrefusal

/-- A read at position zero does show it: it gives nothing from a NULL object, and is refused after
the failed write. -/
theorem write_error_reveals :
    let s : Server := { Server.empty with contents := [[]] }
    let h := new { Lob.new 0 .character with isNull := true } .binary
    ∃ e state, write (.bytes [0xff]) (h, s) = .error e state ∧
      answers [.read (some 0) 1] (h, s) = [.ok (.value (.bytes []))] ∧
      answers [.read (some 0) 1] state = [.error (.refused (.lobPosition 0))] := by
  intro s h
  exact ⟨_, _, by cbv, by cbv, by cbv⟩

end LobHandle
end SqlClient
