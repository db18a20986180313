import SqlClient.Proofs.LobUnits

/-! # Reading an object piece by piece

A handle stands in front of one of the units of its object, or behind the last (`Standing`).  What
one read does from there is `Standing.read_step`, what a row of them does is `Standing.read_run`.

Reading on and on therefore gives the content and ends, for every choice of sizes that have room
for a unit and for which a buffer can have room.  A read for which none can ends it before
(`LobHandle.reads_stream_iff`).
-/
namespace SqlClient

namespace LobHandle

open Scripted (Lob Server)

/-! ## One read after the other -/

variable {h : LobHandle Lob} {s : Server} {us : List Bytes}

/-- The handle after some more units were read. -/
def advance (h : LobHandle Lob) (units : Nat) : LobHandle Lob :=
  { h with lob := { h.lob with offset := h.lob.offset + units } }

theorem advance_advance (m n : Nat) : (h.advance m).advance n = h.advance (m + n) := by
  simp only [advance, Nat.add_assoc]

/-- A handle that can be read: it is open, on an object of its kind that is not NULL and has these
units, and stands no further than behind the last. -/
structure Standing (h : LobHandle Lob) (s : Server) (us : List Bytes) : Prop where
  isOpen : h.isOpen = true
  kind : h.lob.kind = h.kind
  notNull : h.lob.isNull = false
  fragments : Lob.fragments h.kind (s.content h.lob.content) = .ok us
  offset_le : h.lob.offset ≤ us.length

theorem Standing.advance (hat : Standing h s us) {units : Nat}
    (hle : h.lob.offset + units ≤ us.length) : Standing (h.advance units) s us :=
  ⟨hat.isOpen, hat.kind, hat.notNull, hat.fragments, hle⟩

theorem Standing.read_eq (hat : Standing h s us) (size : Nat) :
    Lob.read size none (h.lob, s) =
      if h.lob.offset < us.length then
        .ok (.data (Lob.fit size (us.drop h.lob.offset)).flatten
            (Lob.fit size (us.drop h.lob.offset)).flatten.length)
          ({ h.lob with offset := h.lob.offset + (Lob.fit size (us.drop h.lob.offset)).length }, s)
      else .ok .noData (h.lob, s) := by
  have hfragments := hat.fragments
  rw [← hat.kind] at hfragments
  rw [Lob.read_eq, if_neg (by simp [hat.notNull])]
  simp only [Lob.skipTo]
  by_cases hlt : h.lob.offset < us.length
  · rw [if_pos hlt, Lob.slice_of_lt hfragments hlt]
  · rw [if_neg hlt, Lob.slice_of_le hfragments (Nat.le_of_not_lt hlt)]

/-- Behind the last unit every read gives the empty value. -/
theorem Standing.read_end (hat : Standing h s us) (hend : h.lob.offset = us.length) {size : Nat}
    (hroom : size < roomLimit) :
    read none size (h, s) = .ok (.nothing h.kind) (h, s) := by
  have hserver : RemoteLob.read size none (h.lob, s) = .ok .noData (h.lob, s) :=
    (hat.read_eq size).trans (if_neg (by omega))
  rw [read_of_open hat.isOpen none hroom, hserver]
  simp only [valueOf_noData]

/-- **What one read does.**  It gives the next units, as many as its value says, and it gives some
as long as some are left. -/
theorem Standing.read_step (hat : Standing h s us) {size : Nat}
    (hsize : Lob.leastRead h.kind ≤ size) (hroom : size < roomLimit) :
    ∃ v, read none size (h, s) = .ok v (h.advance v.units, s) ∧ v.IsRead h.kind ∧
      v.raw.length ≤ size ∧ v.raw = ((us.drop h.lob.offset).take v.units).flatten ∧
      h.lob.offset + v.units ≤ us.length ∧ (h.lob.offset < us.length → 0 < v.units) := by
  by_cases hlt : h.lob.offset < us.length
  · have hserver : RemoteLob.read size none (h.lob, s) = _ :=
      (hat.read_eq size).trans (if_pos hlt)
    have hrest : us.drop h.lob.offset ≠ [] := by
      rw [Ne, List.drop_eq_nil_iff]
      omega
    have hsome := Lob.length_fit_pos hrest fun u hu =>
      (Lob.length_of_mem_fragments hat.fragments (List.mem_of_mem_drop hu)).2.trans hsize
    obtain ⟨v, hv, hread, hraw, hunits⟩ := valueOf_fit hat.fragments hsome
    refine ⟨v, ?_, hread, ?_, ?_, ?_, fun _ => hunits ▸ hsome⟩
    · rw [read_of_open hat.isOpen none hroom, hserver]
      simp only [hv, hunits]
      rfl
    · rw [hraw]
      exact Lob.length_flatten_fit_le size _
    · rw [hraw, hunits, ← List.prefix_iff_eq_take.mp (Lob.fit_isPrefix size _)]
    · have hle := (Lob.fit_isPrefix size (us.drop h.lob.offset)).length_le
      rw [List.length_drop] at hle
      omega
  · have hend : h.lob.offset = us.length := Nat.le_antisymm hat.offset_le (Nat.le_of_not_lt hlt)
    have hunits : (Value.nothing h.kind).units = 0 := by cases h.kind <;> rfl
    have hraw : (Value.nothing h.kind).raw = [] := by cases h.kind <;> rfl
    refine ⟨.nothing h.kind, ?_, ?_, ?_, ?_, ?_, fun h' => absurd h' hlt⟩
    · rw [hat.read_end hend hroom, hunits]
      rfl
    · cases h.kind <;> trivial
    · rw [hraw]
      exact Nat.zero_le size
    · rw [hraw, hunits]
      rfl
    · rw [hunits, hend, Nat.add_zero]

/-- The units of values together. -/
def totalUnits (vs : List Value) : Nat := (vs.map Value.units).sum

/-- **What a row of reads does**: it gives the units that follow, and at least one for each read
until there are none. -/
theorem Standing.read_run (hat : Standing h s us) {sizes : List Nat}
    (hsizes : ∀ size ∈ sizes, Lob.leastRead h.kind ≤ size)
    (hrooms : ∀ size ∈ sizes, size < roomLimit) :
    ∃ vs, sizes.mapM (read none) (h, s) = .ok vs (h.advance (totalUnits vs), s) ∧
      List.Forall₂ (fun size v => v.IsRead h.kind ∧ v.raw.length ≤ size) sizes vs ∧
      vs.flatMap Value.raw = ((us.drop h.lob.offset).take (totalUnits vs)).flatten ∧
      h.lob.offset + totalUnits vs ≤ us.length ∧
      min sizes.length (us.length - h.lob.offset) ≤ totalUnits vs := by
  induction sizes generalizing h with
  | nil =>
    exact ⟨[], rfl, .nil, rfl, hat.offset_le, by simp⟩
  | cons size rest ih =>
    obtain ⟨v, hread, hkind, hlength, hraw, hle, hpos⟩ :=
      hat.read_step (hsizes size (List.mem_cons_self ..)) (hrooms size (List.mem_cons_self ..))
    obtain ⟨vs, hrun, hpieces, hraws, hles, hmin⟩ := ih (hat.advance hle)
      (fun size' hsize' => hsizes size' (List.mem_cons_of_mem _ hsize'))
      fun size' hsize' => hrooms size' (List.mem_cons_of_mem _ hsize')
    have htotal : totalUnits (v :: vs) = v.units + totalUnits vs := by
      simp [totalUnits]
    have hoffset : (h.advance v.units).lob.offset = h.lob.offset + v.units := rfl
    refine ⟨v :: vs, ?_, .cons ⟨hkind, hlength⟩ hpieces, ?_, ?_, ?_⟩
    · rw [List.mapM_cons, run_bind_ok hread, run_bind_ok hrun, htotal]
      rw [run_pure, advance_advance]
    · rw [List.flatMap_cons, hraw, hraws, htotal, hoffset, List.take_add, List.flatten_append,
        List.drop_drop]
    · rw [hoffset] at hles
      omega
    · rw [hoffset] at hmin
      rw [List.length_cons, htotal]
      omega

/-! ## The whole content -/

/-- **A handle is being read to its end**: what was read so far with reads of these sizes, and what
the next read will do. -/
structure Streams (content : Bytes) (sizes : List Nat) (vs : List Value) (h : LobHandle Lob)
    (s : Server) : Prop where
  pieces : List.Forall₂ (fun size v => v.IsRead h.kind ∧ v.raw.length ≤ size) sizes vs
  front : vs.flatMap Value.raw <+: content
  position : position (h, s) = .ok (totalUnits vs + 1) (h, s)
  /-- Before the end the next read gives something. -/
  next : vs.flatMap Value.raw ≠ content → ∀ size, Lob.leastRead h.kind ≤ size →
    size < roomLimit → ∃ v h', read none size (h, s) = .ok v (h', s) ∧ v.IsRead h.kind ∧
      v.raw ≠ [] ∧ v.raw.length ≤ size
  /-- At the end the next read gives nothing and moves nothing. -/
  atEnd : vs.flatMap Value.raw = content → ∀ size, size < roomLimit →
    read none size (h, s) = .ok (.nothing h.kind) (h, s)
  /-- Before the end and at it, a read for which no buffer has room fails and moves nothing. -/
  tooLarge : ∀ size, roomLimit ≤ size →
    read none size (h, s) = .error (.roomTooLarge size) (h, s)
  /-- The end comes after as many reads as there are units. -/
  length : ∃ n, length (h, s) = .ok n (h, s) ∧
    (n ≤ sizes.length → vs.flatMap Value.raw = content)

/-- Of the units in front, all make up the content and fewer do not. -/
theorem Standing.flatten_take_eq_iff (hat : Standing h s us) {m : Nat} (hm : m ≤ us.length) :
    (us.take m).flatten = s.content h.lob.content ↔ m = us.length := by
  rw [← Lob.flatten_fragments hat.fragments]
  constructor
  · intro heq
    have hrest : (us.drop m).flatten = [] := by
      have hsplit : (us.take m).flatten ++ (us.drop m).flatten = us.flatten := by
        rw [← List.flatten_append, List.take_append_drop]
      rw [heq] at hsplit
      exact List.append_right_eq_self.mp hsplit
    have hnil := Lob.eq_nil_of_flatten_eq_nil hat.fragments
      (fun u hu => List.mem_of_mem_drop hu) hrest
    rw [List.drop_eq_nil_iff] at hnil
    omega
  · rintro rfl
    rw [List.take_length]

theorem Standing.length_eq (hat : Standing h s us) : length (h, s) = .ok us.length (h, s) := by
  have hlength : Lob.length h.lob s = .ok us.length :=
    Lob.length_eq hat.notNull (hat.kind ▸ hat.fragments)
  rw [length_of_open hat.isOpen, hlength]

/-- A fresh handle on a content of its kind can be read. -/
theorem exists_standing_new {kind : LobKind} {s : Server} {n : Nat}
    (hcontent : kind = .character → ∃ text, Utf8.decode (s.content n) = .ok text) :
    ∃ us, Standing (new (Lob.new n kind) kind) s us := by
  obtain ⟨us, hus⟩ := Lob.exists_fragments hcontent
  exact ⟨us, rfl, rfl, rfl, hus, Nat.zero_le _⟩

/-- What holds when the units in front were read. -/
theorem Standing.streams (hat : Standing h s us) {sizes : List Nat} {vs : List Value}
    (hpieces : List.Forall₂ (fun size v => v.IsRead h.kind ∧ v.raw.length ≤ size) sizes vs)
    (hraw : vs.flatMap Value.raw = (us.take (totalUnits vs)).flatten)
    (hoffset : h.lob.offset = totalUnits vs) (hmin : min sizes.length us.length ≤ totalUnits vs) :
    Streams (s.content h.lob.content) sizes vs h s := by
  have hle : totalUnits vs ≤ us.length := hoffset ▸ hat.offset_le
  have hall : vs.flatMap Value.raw = s.content h.lob.content ↔ totalUnits vs = us.length := by
    rw [hraw]
    exact hat.flatten_take_eq_iff hle
  refine ⟨hpieces, ?_, ?_, ?_, ?_, ?_, us.length, hat.length_eq, ?_⟩
  · rw [hraw, ← Lob.flatten_fragments hat.fragments]
    exact ⟨(us.drop (totalUnits vs)).flatten, by
      rw [← List.flatten_append, List.take_append_drop]⟩
  · rw [position_of_open hat.isOpen, hoffset]
  · intro hbefore size hsize hroom
    obtain ⟨v, hread, hkind, hlength, hnext, -, hpos⟩ := hat.read_step hsize hroom
    have hlt : totalUnits vs < us.length := Nat.lt_of_le_of_ne hle (hall.not.mp hbefore)
    have hsome := hpos (by omega)
    refine ⟨v, _, hread, hkind, fun hnil => ?_, hlength⟩
    have hnone := Lob.eq_nil_of_flatten_eq_nil hat.fragments
      (fun u hu => List.mem_of_mem_drop (List.mem_of_mem_take hu)) (hnext.symm.trans hnil)
    have hzero := congrArg List.length hnone
    rw [List.length_take, List.length_drop, List.length_nil] at hzero
    omega
  · intro hend size hroom
    exact hat.read_end (hoffset.trans (hall.mp hend)) hroom
  · intro size hsize
    exact read_of_tooLarge hat.isOpen none hsize s
  · intro hlong
    exact hall.mpr (by omega)

variable {kind : LobKind} {n : Nat} {sizes : List Nat}

/-- **Reading on and on gives the content and ends**, when there is room for every read.  A fresh
handle on a content of its kind is read with sizes that have room for a unit; nothing else is done
in between. -/
theorem reads_stream (hcontent : kind = .character → ∃ text, Utf8.decode (s.content n) = .ok text)
    (hsizes : ∀ size ∈ sizes, Lob.leastRead kind ≤ size)
    (hrooms : ∀ size ∈ sizes, size < roomLimit) :
    ∃ vs h', sizes.mapM (read none) (new (Lob.new n kind) kind, s) = .ok vs (h', s) ∧
      h'.kind = kind ∧ Streams (s.content n) sizes vs h' s := by
  obtain ⟨us, hat⟩ := exists_standing_new hcontent
  obtain ⟨vs, hrun, hpieces, hraw, hle, hmin⟩ := hat.read_run hsizes hrooms
  have hzero : (new (Lob.new n kind) kind).lob.offset = 0 := rfl
  rw [hzero, List.drop_zero] at hraw
  rw [hzero, Nat.sub_zero] at hmin
  exact ⟨vs, _, hrun, rfl, (hat.advance hle).streams hpieces hraw (Nat.zero_add _) hmin⟩

/-- **The first read that is too large ends the stream** where it stands. -/
theorem reads_stop (hcontent : kind = .character → ∃ text, Utf8.decode (s.content n) = .ok text)
    {before after : List Nat} {size : Nat} (hsizes : ∀ size ∈ before, Lob.leastRead kind ≤ size)
    (hrooms : ∀ size ∈ before, size < roomLimit) (hsize : roomLimit ≤ size) :
    ∃ vs h', before.mapM (read none) (new (Lob.new n kind) kind, s) = .ok vs (h', s) ∧
      h'.kind = kind ∧ Streams (s.content n) before vs h' s ∧
      (before ++ size :: after).mapM (read none) (new (Lob.new n kind) kind, s) =
        .error (.roomTooLarge size) (h', s) := by
  obtain ⟨vs, h', hrun, hkind, hstreams⟩ := reads_stream hcontent hsizes hrooms
  refine ⟨vs, h', hrun, hkind, hstreams, ?_⟩
  have hrest : (size :: after).mapM (read none) (h', s) = .error (.roomTooLarge size) (h', s) := by
    rw [List.mapM_cons, run_bind_error (hstreams.tooLarge size hsize)]
  rw [List.mapM_append, run_bind_ok hrun, run_bind_error hrest]

/-- Of sizes that are not all small enough one is the first. -/
theorem exists_first_tooLarge (hlarge : ¬ ∀ size ∈ sizes, size < roomLimit) :
    ∃ before size after, sizes = before ++ size :: after ∧
      (∀ size ∈ before, size < roomLimit) ∧ roomLimit ≤ size := by
  have hfound : (sizes.find? fun size => roomLimit ≤ size).isSome := by
    simpa [List.find?_isSome] using hlarge
  obtain ⟨size, hsize⟩ := Option.isSome_iff_exists.mp hfound
  obtain ⟨hlimit, before, after, rfl, hbefore⟩ := List.find?_eq_some_iff_append.mp hsize
  exact ⟨before, size, after, rfl, by simpa using hbefore, by simpa using hlimit⟩

/-- **Reading on and on gives the content and ends** exactly when a buffer can have room for every
read.  A fresh handle on a content of its kind is read with sizes that have room for a unit; nothing
else is done in between.  Otherwise the reads in front of the first that is too large do so, and
this one fails and leaves the handle where it stands. -/
theorem reads_stream_iff
    (hcontent : kind = .character → ∃ text, Utf8.decode (s.content n) = .ok text)
    (hsizes : ∀ size ∈ sizes, Lob.leastRead kind ≤ size) :
    ((∃ vs h', sizes.mapM (read none) (new (Lob.new n kind) kind, s) = .ok vs (h', s) ∧
        h'.kind = kind ∧ Streams (s.content n) sizes vs h' s) ↔
      ∀ size ∈ sizes, size < roomLimit) ∧
    ∀ before size after, sizes = before ++ size :: after →
      (∀ size ∈ before, size < roomLimit) → roomLimit ≤ size →
      ∃ vs h', before.mapM (read none) (new (Lob.new n kind) kind, s) = .ok vs (h', s) ∧
        h'.kind = kind ∧ Streams (s.content n) before vs h' s ∧
        sizes.mapM (read none) (new (Lob.new n kind) kind, s) =
          .error (.roomTooLarge size) (h', s) := by
  have hstop : ∀ before size after, sizes = before ++ size :: after →
      (∀ size ∈ before, size < roomLimit) → roomLimit ≤ size →
      ∃ vs h', before.mapM (read none) (new (Lob.new n kind) kind, s) = .ok vs (h', s) ∧
        h'.kind = kind ∧ Streams (s.content n) before vs h' s ∧
        sizes.mapM (read none) (new (Lob.new n kind) kind, s) =
          .error (.roomTooLarge size) (h', s) := by
    rintro before size after rfl hbefore hsize
    exact reads_stop hcontent (fun size' hsize' => hsizes size' (List.mem_append_left _ hsize'))
      hbefore hsize
  refine ⟨⟨fun ⟨vs, h', hrun, _⟩ => ?_, reads_stream hcontent hsizes⟩, hstop⟩
  by_contra hlarge
  obtain ⟨before, size, after, hsplit, hbefore, hsize⟩ := exists_first_tooLarge hlarge
  obtain ⟨_, _, -, -, -, hfail⟩ := hstop before size after hsplit hbefore hsize
  cases hrun.symm.trans hfail

/-- Two reads of four bytes, and the second piece begins where the first one ends. -/
theorem reads_stream_iff_text :
    let s : Server := { Server.empty with contents := [Utf8.encode "aé€z"] }
    ∃ h', [4, 4].mapM (read none) (new (Lob.new 0 .character) .character, s) =
        .ok [.text "aé", .text "€z"] (h', s) ∧
      Streams (Utf8.encode "aé€z") [4, 4] [.text "aé", .text "€z"] h' s := by
  intro s
  obtain ⟨vs, h', hrun, -, hstreams⟩ := (@reads_stream_iff s .character 0 [4, 4]
    (fun _ => ⟨"aé€z", Utf8.decode_encode _⟩) (by decide)).1.mpr (by decide)
  have hvs : result? ([4, 4].mapM (read none) (new (Lob.new 0 .character) .character, s)) =
      some [.text "aé", .text "€z"] := by decide +kernel
  rw [hrun] at hvs
  obtain rfl : vs = [.text "aé", .text "€z"] := Option.some.inj hvs
  exact ⟨h', hrun, hstreams⟩

/-- Three bytes are not read with room for as many bytes as there are addresses, and not with more:
there is not even a first piece. -/
theorem reads_largest_fail :
    let s : Server := { Server.empty with contents := [Utf8.encode "abc"] }
    let h := new (Lob.new 0 .binary) .binary
    (¬ ∃ vs h', [0x7FFFFFFFFFFFFFFF].mapM (read none) (h, s) = .ok vs (h', s)) ∧
      ¬ ∃ vs h', [0xFFFFFFFFFFFFFFFF].mapM (read none) (h, s) = .ok vs (h', s) := by
  intro s h
  have hnone {size : Nat} (hsize : roomLimit ≤ size) :
      ¬ ∃ vs h', [size].mapM (read none) (h, s) = .ok vs (h', s) := by
    rintro ⟨vs, h', hrun⟩
    rw [List.mapM_cons, run_bind_error (read_of_tooLarge rfl none hsize s)] at hrun
    cases hrun
  exact ⟨hnone (by decide), hnone (by decide)⟩

end LobHandle
end SqlClient
