import SqlClient.Proofs.SharedContents

/-! # Worlds inside worlds

A client that shares a server with others has LOB handles among theirs, under other numbers than it
would have them alone.  `World.Embeds` says that one world is inside another, up to these numbers
and those of contents: every handle of the inner world is a handle of the outer one, at the same
place of a content with the same bytes.

What the client does moves both worlds on, and one stays inside the other (`World.Advances`).  In
the outer world this concerns the handles of the inner one and new ones alone (`World.Spares`), so
that every other world that is inside stays inside as well (`World.Embeds.spared`).
-/
namespace SqlClient

open Scripted

/-! ## Numbers -/

/-- A reference under another number: the handle of number `i` has there the number `ids[i]`. -/
structure LobRef.Renumbered (ids : List Nat) (ref ref' : LobRef) : Prop where
  id : ids[ref.id]? = some ref'.id
  kind : ref'.kind = ref.kind

/-- **The same value**, up to the number of a handle. -/
inductive Value.Renumbered (ids : List Nat) : Value → Value → Prop
  | plain (v : Value) (h : v.lob? = none) : Renumbered ids v v
  | lob {ref ref' : LobRef} (h : ref.Renumbered ids ref') : Renumbered ids (.lob ref) (.lob ref')

section Numbers
variable {ids ids' : List Nat}

/-- Numbers that were given stay. -/
theorem LobRef.Renumbered.mono (hgrows : ids <+: ids') {ref ref' : LobRef}
    (h : ref.Renumbered ids ref') : ref.Renumbered ids' ref' where
  id := getElem?_of_prefix hgrows h.id
  kind := h.kind

theorem Value.Renumbered.mono (hgrows : ids <+: ids') {v v' : Value} (h : v.Renumbered ids v') :
    v.Renumbered ids' v' := by
  cases h with
  | plain _ hplain => exact .plain _ hplain
  | lob href => exact .lob (href.mono hgrows)

theorem Value.Renumbered.monoAll (hgrows : ids <+: ids') {vs vs' : List Value}
    (h : List.Forall₂ (Value.Renumbered ids) vs vs') :
    List.Forall₂ (Value.Renumbered ids') vs vs' :=
  h.imp fun _ _ hv => hv.mono hgrows

end Numbers

/-- Content `m` of one server has the bytes of content `n` of another. -/
def Scripted.Server.SameBytes (s : Server) (m : Nat) (s' : Server) (n : Nat) : Prop :=
  ∃ bytes, s.contents[m]? = some bytes ∧ s'.contents[n]? = some bytes

section Bytes
variable {s s' t t' : Server} {m n : Nat}

theorem Scripted.Server.SameBytes.content_eq (h : s.SameBytes m t n) :
    t.content n = s.content m := by
  obtain ⟨bytes, hs, ht⟩ := h
  rw [Server.content, Server.content, hs, ht]

/-- Contents that are kept have the bytes they had. -/
theorem Scripted.Server.SameBytes.kept (h : s.SameBytes m t n) (hs : s.contents <+: s'.contents)
    (ht : t.contents <+: t'.contents) : s'.SameBytes m t' n := by
  obtain ⟨bytes, hm, hn⟩ := h
  exact ⟨bytes, getElem?_of_prefix hs hm, getElem?_of_prefix ht hn⟩

end Bytes

namespace World

/-! ## Inside and outside -/

/-- **A world inside another**: handle `i` of the inner one is handle `ids[i]` of the outer one.
The first `limit` contents, which are those that scripts name, are the same in both. -/
structure Embeds (limit : Nat) (ids : List Nat) (v w : ClientWorld) : Prop where
  scripts : v.server.scripts = w.server.scripts
  length : ids.length = v.handles.length
  nodup : ids.Nodup
  handle : ∀ (i id : Nat) (h : LobHandle Lob), ids[i]? = some id → v.handles[i]? = some h →
    ∃ n, w.handles[id]? = some (h.moved n) ∧ v.server.SameBytes h.lob.content w.server n
  shown : ∀ n < limit, v.server.SameBytes n w.server n

/-- **What others do not notice**: nothing happens to handles but to those of numbers `ids`, and
nothing to contents. -/
structure Spares (ids : List Nat) (w w' : ClientWorld) : Prop where
  scripts : w'.server.scripts = w.server.scripts
  contents : w.server.contents <+: w'.server.contents
  handle : ∀ (id : Nat) (h : LobHandle Lob), id ∉ ids → w.handles[id]? = some h →
    w'.handles[id]? = some h
  length : w.handles.length ≤ w'.handles.length

/-- **Two worlds move on**, one inside the other.  Others do not notice, and the inner world has no
handle of theirs. -/
structure Advances (limit : Nat) (ids : List Nat) (v w : ClientWorld) (ids' : List Nat)
    (v' w' : ClientWorld) : Prop where
  embeds : Embeds limit ids' v' w'
  grows : ids <+: ids'
  fresh : ∀ id ∈ ids', id ∈ ids ∨ w.handles.length ≤ id
  spares : Spares ids w w'

variable {limit : Nat} {ids ids' ids'' : List Nat} {v v' v'' w w' w'' : ClientWorld}
  {ref ref' : LobRef}

/-- The numbers of an inner world are numbers of the outer one. -/
theorem Embeds.lt_length (h : Embeds limit ids v w) {id : Nat} (hid : id ∈ ids) :
    id < w.handles.length := by
  obtain ⟨i, hi⟩ := List.mem_iff_getElem?.mp hid
  have hlt : i < v.handles.length := h.length ▸ (List.getElem?_eq_some_iff.mp hi).1
  obtain ⟨n, hn, -⟩ := h.handle i id _ hi (List.getElem?_eq_getElem hlt)
  exact (List.getElem?_eq_some_iff.mp hn).1

/-- The handle of a reference is there inside and outside. -/
theorem Embeds.exists_handle (h : Embeds limit ids v w) (href : ref.Renumbered ids ref') :
    ∃ x n, v.handles[ref.id]? = some x ∧ w.handles[ref'.id]? = some (x.moved n) ∧
      v.server.SameBytes x.lob.content w.server n := by
  have hlt : ref.id < v.handles.length := h.length ▸ (List.getElem?_eq_some_iff.mp href.id).1
  have hx := List.getElem?_eq_getElem hlt
  obtain ⟨n, hn, hbytes⟩ := h.handle ref.id ref'.id _ href.id hx
  exact ⟨_, n, hx, hn, hbytes⟩

/-- **What others do not notice leaves them where they were.** -/
theorem Embeds.spared (h : Embeds limit ids v w) (hspares : Spares ids' w w')
    (hapart : ∀ id ∈ ids, id ∉ ids') : Embeds limit ids v w' where
  scripts := h.scripts.trans hspares.scripts.symm
  length := h.length
  nodup := h.nodup
  handle := by
    intro i id x hi hx
    obtain ⟨n, hn, hbytes⟩ := h.handle i id x hi hx
    exact ⟨n, hspares.handle id _ (hapart id (List.mem_of_getElem? hi)) hn,
      hbytes.kept List.prefix_rfl hspares.contents⟩
  shown := fun n hn => (h.shown n hn).kept List.prefix_rfl hspares.contents

/-- Nothing happens to large objects, inside and outside. -/
theorem Embeds.advances_of_lobState (h : Embeds limit ids v w) (hv : v'.lobState = v.lobState)
    (hw : w'.lobState = w.lobState) : Advances limit ids v w ids v' w' := by
  simp only [lobState, Server.lobState, Prod.mk.injEq] at hv hw
  obtain ⟨hvhandles, hvcontents, -, hvscripts⟩ := hv
  obtain ⟨hwhandles, hwcontents, -, hwscripts⟩ := hw
  have hcontents : w.server.contents <+: w'.server.contents := hwcontents ▸ List.prefix_rfl
  refine ⟨⟨by rw [hvscripts, hwscripts, h.scripts], by rw [hvhandles, h.length], h.nodup,
      fun i id x hi hx => ?_, fun n hn => (h.shown n hn).kept (hvcontents ▸ List.prefix_rfl) hcontents⟩,
    List.prefix_rfl, fun _ => .inl,
    ⟨hwscripts, hcontents, fun id x _ hx => hwhandles ▸ hx, hwhandles ▸ le_refl _⟩⟩
  rw [hvhandles] at hx
  obtain ⟨n, hn, hbytes⟩ := h.handle i id x hi hx
  exact ⟨n, hwhandles ▸ hn, hbytes.kept (hvcontents ▸ List.prefix_rfl) hcontents⟩

theorem Embeds.refl (h : Embeds limit ids v w) : Advances limit ids v w ids v w :=
  h.advances_of_lobState rfl rfl

theorem Advances.trans (hfirst : Advances limit ids v w ids' v' w')
    (hnext : Advances limit ids' v' w' ids'' v'' w'') : Advances limit ids v w ids'' v'' w'' where
  embeds := hnext.embeds
  grows := hfirst.grows.trans hnext.grows
  fresh := by
    intro id hid
    rcases hnext.fresh id hid with hold | hnew
    · exact hfirst.fresh id hold
    · exact .inr (hfirst.spares.length.trans hnew)
  spares :=
    { scripts := hnext.spares.scripts.trans hfirst.spares.scripts
      contents := hfirst.spares.contents.trans hnext.spares.contents
      length := hfirst.spares.length.trans hnext.spares.length
      handle := by
        intro id x hid hx
        refine hnext.spares.handle id x (fun hid' => ?_) (hfirst.spares.handle id x hid hx)
        -- a number that came up on the way was free before
        rcases hfirst.fresh id hid' with hold | hnew
        · exact hid hold
        · exact absurd (List.getElem?_eq_some_iff.mp hx).1 (Nat.not_lt.mpr hnew) }

/-! ## One handle -/

/-- Contents and scripts are as before; what was given back may be more. -/
def SameStock (s s' : Server) : Prop := s'.scripts = s.scripts ∧ s'.contents = s.contents

/-- **The state of a handle changes**, inside and outside. -/
theorem Embeds.set (h : Embeds limit ids v w) (href : ref.Renumbered ids ref')
    (x' : LobHandle Lob) {x : LobHandle Lob} {n : Nat}
    (hw : w.handles[ref'.id]? = some (x.moved n))
    (hbytes : v.server.SameBytes x.lob.content w.server n)
    (hcontent : x'.lob.content = x.lob.content) {s s' : Server} (hs : SameStock v.server s)
    (hs' : SameStock w.server s') :
    Advances limit ids v w ids ⟨s, v.handles.set ref.id x'⟩
      ⟨s', w.handles.set ref'.id (x'.moved n)⟩ := by
  have hkept {m k : Nat} (hbytes : v.server.SameBytes m w.server k) : s.SameBytes m s' k :=
    hbytes.kept (hs.2 ▸ List.prefix_rfl) (hs'.2 ▸ List.prefix_rfl)
  refine ⟨⟨by rw [hs.1, hs'.1, h.scripts], by rw [h.length, List.length_set], h.nodup,
      fun i id y hi hy => ?_, fun k hk => hkept (h.shown k hk)⟩, List.prefix_rfl, fun _ => .inl,
    ⟨hs'.1, hs'.2 ▸ List.prefix_rfl, fun id y hid hy => ?_, List.length_set.ge⟩⟩
  · rcases getElem?_set_cases hy with ⟨rfl, rfl⟩ | ⟨hne, hy⟩
    · cases href.id.symm.trans hi
      refine ⟨n, List.getElem?_set_self (List.getElem?_eq_some_iff.mp hw).1, ?_⟩
      rw [hcontent]
      exact hkept hbytes
    · obtain ⟨k, hk, hbytes⟩ := h.handle i id y hi hy
      have hother : ref'.id ≠ id := by
        rintro rfl
        have hlt := (List.getElem?_eq_some_iff.mp hi).1
        exact hne ((List.getElem?_inj hlt h.nodup).mp (hi.trans href.id.symm))
      exact ⟨k, (List.getElem?_set_ne hother).trans hk, hkept hbytes⟩
  · have hother : ref'.id ≠ id := by
      rintro rfl
      exact hid (List.mem_of_getElem? href.id)
    exact (List.getElem?_set_ne hother).trans hy

theorem Embeds.addAlias (h : Embeds limit ids v w) (href : ref.Renumbered ids ref') :
    Advances limit ids v w ids (v.addAlias ref) (w.addAlias ref') := by
  obtain ⟨x, n, hv, hw, hbytes⟩ := h.exists_handle href
  have hadded := h.set href x.addAlias hw hbytes rfl ⟨rfl, rfl⟩ ⟨rfl, rfl⟩
  rw [World.addAlias, World.addAlias, List.modify_eq_set_getElem?, List.modify_eq_set_getElem?, hv, hw]
  exact hadded

theorem Embeds.dropAlias (h : Embeds limit ids v w) (href : ref.Renumbered ids ref') :
    Advances limit ids v w ids (v.dropAlias ref) (w.dropAlias ref') := by
  obtain ⟨x, n, hv, hw, hbytes⟩ := h.exists_handle href
  rw [dropAlias_of_some hv, dropAlias_of_some hw]
  by_cases hclose : x.aliases ≤ 1 ∧ x.isOpen = true
  · rw [if_pos hclose, if_pos (by exact hclose)]
    exact h.set href { x with aliases := x.aliases - 1, isOpen := false } hw hbytes rfl ⟨rfl, rfl⟩
      ⟨rfl, rfl⟩
  · rw [if_neg hclose, if_neg (by exact hclose)]
    exact h.set href { x with aliases := x.aliases - 1 } hw hbytes rfl ⟨rfl, rfl⟩ ⟨rfl, rfl⟩

/-- A handle looks the same inside and outside. -/
theorem Embeds.view_eq (h : Embeds limit ids v w) {a b : Value} (hvalue : a.Renumbered ids b) :
    w.view b = v.view a := by
  cases hvalue with
  | plain _ hplain =>
    cases a with
    | lob ref => cases hplain
    | null | int32 | int64 | double | text | bytes => rfl
  | lob href =>
    obtain ⟨x, n, hv, hw, -⟩ := h.exists_handle href
    simp only [view, handle?, hv, hw]
    rfl

theorem Embeds.map_view_eq (h : Embeds limit ids v w) {vs vs' : List Value}
    (hvalues : List.Forall₂ (Value.Renumbered ids) vs vs') : vs'.map w.view = vs.map v.view := by
  induction hvalues with
  | nil => rfl
  | cons hvalue _ ih => rw [List.map_cons, List.map_cons, h.view_eq hvalue, ih]

/-! ## Values -/

theorem Embeds.share (h : Embeds limit ids v w) {a b : Value} (hvalue : a.Renumbered ids b) :
    Advances limit ids v w ids (v.share a) (w.share b) := by
  cases hvalue with
  | plain _ hplain =>
    cases a with
    | lob ref => cases hplain
    | null | int32 | int64 | double | text | bytes => exact h.refl
  | lob href => exact h.addAlias href

theorem Embeds.release (h : Embeds limit ids v w) {a b : Value} (hvalue : a.Renumbered ids b) :
    Advances limit ids v w ids (v.release a) (w.release b) := by
  cases hvalue with
  | plain _ hplain =>
    cases a with
    | lob ref => cases hplain
    | null | int32 | int64 | double | text | bytes => exact h.refl
  | lob href => exact h.dropAlias href

theorem Embeds.shareAll (h : Embeds limit ids v w) {vs vs' : List Value}
    (hvalues : List.Forall₂ (Value.Renumbered ids) vs vs') :
    Advances limit ids v w ids (vs.foldl World.share v) (vs'.foldl World.share w) := by
  induction hvalues generalizing v w with
  | nil => exact h.refl
  | cons hvalue _ ih =>
    have hfirst := h.share hvalue
    exact hfirst.trans (ih hfirst.embeds)

theorem Embeds.releaseAll (h : Embeds limit ids v w) {vs vs' : List Value}
    (hvalues : List.Forall₂ (Value.Renumbered ids) vs vs') :
    Advances limit ids v w ids (v.releaseAll vs) (w.releaseAll vs') := by
  induction hvalues generalizing v w with
  | nil => exact h.refl
  | cons hvalue _ ih =>
    have hfirst := h.release hvalue
    exact hfirst.trans (ih hfirst.embeds)

/-! ## Calls on handles -/

theorem scripts_perform (c : LobCall) (x : LobHandle Lob) (s : Server) :
    (leaves (LobHandle.perform c (x, s))).2.scripts = s.scripts := by
  rw [LobHandle.leaves_perform]
  cases x.request? c with
  | error e => rfl
  | ok r =>
    obtain ⟨_, _, contents, hserve, -⟩ := Lob.leaves_serve x.lob s r
    simp only [hserve]

/-- A call that writes nothing leaves all contents as they are. -/
theorem sameStock_perform {c : LobCall} (hc : ∀ a, c ≠ .write a) (x : LobHandle Lob) (s : Server) :
    SameStock s (leaves (LobHandle.perform c (x, s))).2 :=
  ⟨scripts_perform c x s, (LobHandle.called_perform c x s).unwritten hc⟩

/-- **A call that writes nothing** says the same inside and outside. -/
theorem Embeds.call (h : Embeds limit ids v w) (href : ref.Renumbered ids ref') {c : LobCall}
    (hc : ∀ a, c ≠ .write a) :
    answered (w.call ref' c) = answered (v.call ref c) ∧
      Advances limit ids v w ids (leaves (v.call ref c)) (leaves (w.call ref' c)) := by
  obtain ⟨x, n, hv, hw, hbytes⟩ := h.exists_handle href
  have hagrees := LobHandle.agrees_perform hbytes.content_eq c
  refine ⟨?_, ?_⟩
  · rw [answered_call hv, answered_call hw]
    exact hagrees.answer
  · rw [leaves_call_of_some hv, leaves_call_of_some hw, hagrees.handle]
    exact h.set href _ hw hbytes (LobHandle.called_perform c x v.server).content
      (sameStock_perform hc x _) (sameStock_perform hc _ _)

/-! ## New handles -/

/-- **A handle is entered**, inside and outside, on contents with the same bytes. -/
theorem Embeds.enter (h : Embeds limit ids v w) {s s' : Server} {m n : Nat} {kind : LobKind}
    (hs : s.scripts = v.server.scripts) (hs' : s'.scripts = w.server.scripts)
    (hv : v.server.contents <+: s.contents) (hw : w.server.contents <+: s'.contents)
    (hbytes : s.SameBytes m s' n) :
    Advances limit ids v w (ids ++ [w.handles.length])
      (World.enter { v with server := s } (.new m kind) kind).2
      (World.enter { w with server := s' } (.new n kind) kind).2 := by
  have hnew : ∀ id ∈ ids, id ≠ w.handles.length := fun id hid => (h.lt_length hid).ne
  have hlength := h.length
  refine ⟨⟨by simp only [World.enter, hs, hs', h.scripts],
      by simp only [World.enter, List.length_append, hlength, List.length_singleton],
      List.nodup_append.mpr ⟨h.nodup, List.nodup_singleton _, by simpa using hnew⟩,
      fun i id y hi hy => ?_, fun k hk => (h.shown k hk).kept hv hw⟩, List.prefix_append ..,
    fun id hid => ?_, ⟨hs', hw, fun id y _ hy => getElem?_of_prefix (List.prefix_append ..) hy, by
      simp only [World.enter, List.length_append, Nat.le_add_right]⟩⟩
  · simp only [World.enter] at hy ⊢
    by_cases hlt : i < ids.length
    · rw [List.getElem?_append_left hlt] at hi
      rw [List.getElem?_append_left (hlength ▸ hlt)] at hy
      obtain ⟨k, hk, hold⟩ := h.handle i id y hi hy
      exact ⟨k, getElem?_of_prefix (List.prefix_append ..) hk, hold.kept hv hw⟩
    · rw [List.getElem?_append_right (by omega), List.getElem?_singleton] at hi hy
      split at hi
      · rename_i hlast
        rw [if_pos (by omega)] at hy
        cases hi
        cases hy
        exact ⟨n, by simp [LobHandle.moved, Lob.moved, LobHandle.new, Lob.new], hbytes⟩
      · cases hi
  · rcases List.mem_append.mp hid with hold | hlast
    · exact .inl hold
    · exact .inr (List.mem_singleton.mp hlast).ge

/-- The new handle has the same value inside and outside. -/
theorem Embeds.renumbered_enter (h : Embeds limit ids v w) (s s' : Server) (m n : Nat)
    (kind : LobKind) :
    Value.Renumbered (ids ++ [w.handles.length])
      (.lob (World.enter { v with server := s } (.new m kind) kind).1)
      (.lob (World.enter { w with server := s' } (.new n kind) kind).1) := by
  refine .lob ⟨?_, rfl⟩
  simp only [World.enter, ← h.length, List.getElem?_concat_length]

end World
end SqlClient
