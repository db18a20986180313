import SqlClient.Proofs.LobUnits

/-! # Reads that fail

A read can fail in five ways (`ReadFault`).  In three of them the server was not asked, or gave
nothing, and the handle is as before.  In the other two it gave something that is no value, and its
position has already gone there.  So a read that was too small leaves the handle where it stood only
if it began there (`LobHandle.read_error_keeps_iff`).
-/
namespace SqlClient.LobHandle

open Scripted (Lob Server)

variable {h : LobHandle Lob} {s : Server}

/-- **How a read of an open handle can fail**, and what it does to the handle. -/
inductive ReadFault (h : LobHandle Lob) (content : Bytes) (start : Option Int64) (size : Nat) :
    Error → LobHandle Lob → Prop where
  /-- No buffer has so much room. -/
  | room (hsize : roomLimit ≤ size) : ReadFault h content start size (.roomTooLarge size) h
  /-- The position is not one. -/
  | position (p : Int64) (hstart : start = some p) (hp : p.toInt < 1) :
    ReadFault h content start size (.refused (.lobPosition p.toInt)) h
  /-- The content is no text. -/
  | content (fault : Utf8.Fault) :
    ReadFault h content start size (.conversion (.notUtf8 .lobContent fault)) h
  /-- The next character does not fit.  The handle has gone to where the read started. -/
  | tooSmall (skip : Nat) (hskip : h.lob.skipTo start = .ok skip) :
    ReadFault h content start size (.conversion (.readTooSmall size))
      { h with lob := { h.lob with offset := skip } }
  /-- A handle on characters got bytes that are no text.  The handle has gone behind them. -/
  | data (skip : Nat) (fault : Utf8.Fault) (hskip : h.lob.skipTo start = .ok skip)
      (hkind : h.lob.kind ≠ h.kind) :
    ReadFault h content start size (.conversion (.notUtf8 .lobData fault))
      { h with lob := { h.lob with offset := skip + min size (content.length - skip) } }

/-- **A read that has room and fails** either failed at the server, or got a chunk that is no
value. -/
theorem read_eq_error (hopen : h.isOpen = true) {start : Option Int64} {size : Nat}
    (hsize : size < roomLimit) {e : Error} {state : LobHandle Lob × Server}
    (hfail : read start size (h, s) = .error e state) :
    ∃ lob s', state = ({ h with lob }, s') ∧
      (Lob.read size start (h.lob, s) = .error e (lob, s') ∨
        ∃ chunk, Lob.read size start (h.lob, s) = .ok chunk (lob, s') ∧
          valueOf h.kind chunk size = .error e) := by
  have hread := read_of_open hopen start hsize s
  rw [hfail] at hread
  cases hserver : RemoteLob.read size start (h.lob, s) with
  | error e' after =>
    rw [hserver] at hread
    cases hread
    exact ⟨after.1, after.2, rfl, .inl hserver⟩
  | ok chunk after =>
    rw [hserver] at hread
    simp only at hread
    cases hvalue : valueOf h.kind chunk size with
    | ok v =>
      rw [hvalue] at hread
      cases hread
    | error e' =>
      rw [hvalue] at hread
      cases hread
      exact ⟨after.1, after.2, rfl, .inr ⟨chunk, hserver, hvalue⟩⟩

/-- A read that fails does so in one of five ways, and nothing happens to the server. -/
theorem read_fault (hopen : h.isOpen = true) {start : Option Int64} {size : Nat} {e : Error}
    {state : LobHandle Lob × Server} (hfail : read start size (h, s) = .error e state) :
    state.2 = s ∧ ReadFault h (s.content h.lob.content) start size e state.1 := by
  by_cases hsize : roomLimit ≤ size
  · rw [read_of_tooLarge hopen start hsize] at hfail
    cases hfail
    exact ⟨rfl, .room hsize⟩
  obtain ⟨lob, s', rfl, hserver⟩ := read_eq_error hopen (Nat.lt_of_not_le hsize) hfail
  rw [Lob.read_eq] at hserver
  by_cases hnull : h.lob.isNull = true
  · rw [if_pos hnull] at hserver
    rcases hserver with hserver | ⟨chunk, hserver, hvalue⟩
    · cases hserver
    · cases hserver
      rw [valueOf_null] at hvalue
      cases hvalue
  rw [if_neg hnull] at hserver
  cases hskip : h.lob.skipTo start with
  | error e' =>
    rw [hskip] at hserver
    rcases hserver with hserver | ⟨chunk, hserver, -⟩
    · cases hserver
      obtain ⟨p, rfl, hp, rfl⟩ := Lob.skipTo_eq_error hskip
      exact ⟨rfl, .position p rfl hp⟩
    · cases hserver
  | ok skip =>
    simp only [hskip] at hserver
    cases hslice : Lob.slice h.lob.kind (s.content h.lob.content) skip size with
    | error e' =>
      rw [hslice] at hserver
      rcases hserver with hserver | ⟨chunk, hserver, -⟩
      · cases hserver
        obtain ⟨fault, rfl⟩ := Lob.slice_eq_error hslice
        exact ⟨rfl, .content fault⟩
      · cases hserver
    | ok found =>
      rcases hserver with hserver | ⟨chunk, hserver, hvalue⟩
      · cases found <;> (rw [hslice] at hserver; cases hserver)
      rcases found with _ | ⟨bytes, units⟩
      · rw [hslice] at hserver
        cases hserver
        rw [valueOf_noData] at hvalue
        cases hvalue
      · rw [hslice] at hserver
        cases hserver
        rcases valueOf_eq_error hslice hvalue with ⟨rfl, rfl⟩ | ⟨fault, rfl, hkind, rfl⟩
        · exact ⟨rfl, .tooSmall skip hskip⟩
        · exact ⟨rfl, .data skip fault hskip hkind⟩

/-- Nothing but the position of the object can change. -/
theorem ReadFault.exists_offset {content : Bytes} {start : Option Int64} {size : Nat} {e : Error}
    {h' : LobHandle Lob} (hfault : ReadFault h content start size e h') :
    ∃ offset, h' = { h with lob := { h.lob with offset } } := by
  cases hfault with
  | room => exact ⟨h.lob.offset, rfl⟩
  | position => exact ⟨h.lob.offset, rfl⟩
  | content => exact ⟨h.lob.offset, rfl⟩
  | tooSmall skip => exact ⟨skip, rfl⟩
  | data skip => exact ⟨_, rfl⟩

theorem lob_offset_eq_iff (h : LobHandle Lob) (offset : Nat) :
    { h with lob := { h.lob with offset } } = h ↔ offset = h.lob.offset := by
  constructor
  · intro heq
    exact congrArg (fun h : LobHandle Lob => h.lob.offset) heq
  · rintro rfl
    rfl

/-- **Which failed reads move the handle**: those that failed after the server had given what it
found, unless they end where the handle stood. -/
theorem ReadFault.eq_iff {content : Bytes} {start : Option Int64} {size : Nat} {e : Error}
    {h' : LobHandle Lob} (hfault : ReadFault h content start size e h') :
    h' = h ↔ ∀ skip, h.lob.skipTo start = .ok skip →
      (e = .conversion (.readTooSmall size) → skip = h.lob.offset) ∧
      ∀ fault, e = .conversion (.notUtf8 .lobData fault) →
        skip + min size (content.length - skip) = h.lob.offset := by
  cases hfault with
  | room hsize => exact iff_of_true rfl fun _ _ => ⟨nofun, nofun⟩
  | position p hstart hp => exact iff_of_true rfl fun _ _ => ⟨nofun, nofun⟩
  | content fault => exact iff_of_true rfl fun _ _ => ⟨nofun, nofun⟩
  | tooSmall skip hskip =>
    rw [lob_offset_eq_iff]
    constructor
    · rintro rfl skip' hskip'
      cases hskip.symm.trans hskip'
      exact ⟨fun _ => rfl, nofun⟩
    · intro hkeeps
      exact (hkeeps skip hskip).1 rfl
  | data skip fault hskip hkind =>
    rw [lob_offset_eq_iff]
    constructor
    · intro heq skip' hskip'
      cases hskip.symm.trans hskip'
      exact ⟨nofun, fun _ _ => heq⟩
    · intro hkeeps
      exact (hkeeps skip hskip).2 fault rfl

/-- A position is where the object stands when it skips what is in front of the object. -/
theorem skipTo_eq_offset_iff {lob : Lob} {start : Option Int64} {skip : Nat}
    (hskip : lob.skipTo start = .ok skip) :
    skip = lob.offset ↔ ∀ p, start = some p → p.toInt = lob.offset + 1 := by
  cases start with
  | none =>
    cases hskip
    exact iff_of_true rfl nofun
  | some p =>
    by_cases hp : p.toInt < 1
    · rw [Lob.skipTo, if_pos hp] at hskip
      cases hskip
    · rw [Lob.skipTo, if_neg hp] at hskip
      cases hskip
      constructor
      · rintro heq _ ⟨⟩
        omega
      · intro hpos
        have := hpos p rfl
        omega

/-- **A failed read keeps everything but the position**, and the position exactly when it did not
fail behind what the server gave, or where the handle stood anyway.  For an object of the kind of
its handle that means: unless an explicit position was given, not the current one, and the next
character there did not fit. -/
theorem read_error_keeps_iff (hopen : h.isOpen = true) {start : Option Int64} {size : Nat}
    {e : Error} {state : LobHandle Lob × Server}
    (hfail : read start size (h, s) = .error e state) :
    (∃ offset, state = ({ h with lob := { h.lob with offset } }, s)) ∧
    (state = (h, s) ↔ ∀ skip, h.lob.skipTo start = .ok skip →
      (e = .conversion (.readTooSmall size) → skip = h.lob.offset) ∧
      ∀ fault, e = .conversion (.notUtf8 .lobData fault) →
        skip + min size ((s.content h.lob.content).length - skip) = h.lob.offset) ∧
    (h.lob.kind = h.kind → (state = (h, s) ↔
      (e = .conversion (.readTooSmall size) →
        ∀ p, start = some p → p.toInt = h.lob.offset + 1))) := by
  obtain ⟨h', after⟩ := state
  obtain ⟨hserver, hfault⟩ := read_fault hopen hfail
  obtain rfl : s = after := hserver.symm
  have hstate : (h', s) = (h, s) ↔ h' = h := by simp
  refine ⟨?_, hstate.trans hfault.eq_iff, fun hkind => hstate.trans ?_⟩
  · obtain ⟨offset, heq⟩ := hfault.exists_offset
    exact ⟨offset, congrArg (·, s) heq⟩
  · cases hfault with
    | room hsize => exact iff_of_true rfl nofun
    | position p hstart hp => exact iff_of_true rfl nofun
    | content fault => exact iff_of_true rfl nofun
    | tooSmall skip hskip =>
      rw [lob_offset_eq_iff, skipTo_eq_offset_iff hskip]
      exact ⟨fun hp _ => hp, fun hp => hp rfl⟩
    | data skip fault hskip hne => exact absurd hkind hne

/-- A read from where the handle stands that is too small leaves the handle there. -/
theorem read_error_keeps_standing :
    let s : Server := { Server.empty with contents := [Utf8.encode "éa"] }
    let h := new (Lob.new 0 .character) .character
    ∃ state, read none 1 (h, s) = .error (.conversion (.readTooSmall 1)) state ∧
      state = (h, s) := by
  intro s h
  have hfail : read none 1 (h, s) = .error (.conversion (.readTooSmall 1)) (h, s) := rfl
  exact ⟨(h, s), hfail, ((read_error_keeps_iff rfl hfail).2.2 rfl).mpr fun _ p hp => by cases hp⟩

/-- A read from another position that is too small moves the handle to that position. -/
theorem read_error_moves :
    let s : Server := { Server.empty with contents := [Utf8.encode "aé"] }
    let h := new (Lob.new 0 .character) .character
    ∃ h', read (some 2) 1 (h, s) = .error (.conversion (.readTooSmall 1)) (h', s) ∧
      position (h, s) = .ok 1 (h, s) ∧ position (h', s) = .ok 2 (h', s) := by
  intro s h
  exact ⟨_, by cbv, by cbv, by cbv⟩

end SqlClient.LobHandle
