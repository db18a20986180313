import SqlClient.Proofs.LobContents
import SqlClient.Proofs.LobOwnership

/-! # Writing over large objects

Several handles can be open on one content, each at a position of its own.  Whatever is called
through them, every handle stays among the units of its object (`Consistent`): a read moves one
handle, and a write moves one handle and may put units behind the last, but never takes one away,
so that the other handles on this content are still somewhere in it (`Grows`).

From there on `Overwrites` says what a write does: the units written take the place of those that
follow the position, and the content gets longer only where it ended.  It holds for every open
handle after any run of calls (`calls_overwrite`).
-/
namespace SqlClient

open Scripted

/-! ## Values that are written -/

namespace LobHandle

/-- The units that a value puts into an object of this kind. -/
def dataOf : (kind : LobKind) → Value → Except Error (List kind.Unit)
  | .binary, v => v.toBytes?
  | .character, v => v.toText?.map String.toList

theorem bytesOf_eq (kind : LobKind) (v : Value) :
    bytesOf kind v = (dataOf kind v).map (Lob.encode kind) := by
  cases kind with
  | binary =>
    rw [bytesOf, dataOf]
    cases v.toBytes? <;> rfl
  | character =>
    rw [bytesOf, dataOf]
    cases v.toText? with
    | error e => rfl
    | ok text => exact congrArg Except.ok (congrArg Utf8.encode String.ofList_toList.symm)

end LobHandle

namespace Scripted.Lob

/-! ## One call -/

/-- **What a call does to an object**, as far as other objects on its content are concerned: no
unit is taken away, and nothing happens to other contents. -/
structure Grows (kind : LobKind) (us : List kind.Unit) (x y : Lob × Server) : Prop where
  placed : ∃ us', Placed kind y.1 y.2 us' ∧ us.length ≤ us'.length
  content : y.1.content = x.1.content
  notNull : x.1.isNull = false → y.1.isNull = false
  elsewhere : ∀ n, n ≠ x.1.content → y.2.contents[n]? = x.2.contents[n]?

variable {kind : LobKind} {us : List kind.Unit} {lob : Lob} {s s' : Server}

/-- Other books of the server do not matter. -/
theorem Placed.of_contents (h : Placed kind lob s us) (hcontents : s'.contents = s.contents) :
    Placed kind lob s' us where
  kind_eq := h.kind_eq
  stored := hcontents ▸ h.stored
  units := by
    rw [← h.units]
    simp only [units?, Server.content, hcontents]
  offset_le := h.offset_le

theorem Placed.grows_of_contents (h : Placed kind lob s us) (hcontents : s'.contents = s.contents) :
    Grows kind us (lob, s) (lob, s') where
  placed := ⟨us, h.of_contents hcontents, Nat.le_refl _⟩
  content := rfl
  notNull := id
  elsewhere := fun n _ => by rw [hcontents]

theorem Placed.grows_read (h : Placed kind lob s us) (room : Nat) (start : Option Int64) :
    Grows kind us (lob, s) (leaves (Lob.read room start (lob, s))) := by
  obtain ⟨offset, hread, hle⟩ := h.read room start
  rw [hread]
  exact ⟨⟨us, ⟨h.kind_eq, h.stored, h.units, hle⟩, Nat.le_refl _⟩, rfl, id, fun _ _ => rfl⟩

theorem Placed.grows_write (h : Placed kind lob s us) (ds : List kind.Unit) :
    Grows kind us (lob, s) (leaves (Lob.write (encode kind ds) (lob, s))) := by
  rw [h.write_eq ds]
  refine ⟨⟨_, h.write ds, ?_⟩, rfl, fun _ => rfl, fun n hn => List.getElem?_set_ne hn.symm⟩
  rw [length_overwritten h.offset_le]
  exact Nat.le_max_left ..

/-- **Every request**, if what is written is units. -/
theorem Placed.grows_serve (h : Placed kind lob s us) {r : LobRequest}
    (hr : ∀ data, r = .write data → ∃ ds, data = encode kind ds) :
    Grows kind us (lob, s) (leaves (r.serve (lob, s))) := by
  cases r with
  | read start size =>
    rw [Lob.leaves_serve_read]
    exact h.grows_read size start
  | write data =>
    obtain ⟨ds, rfl⟩ := hr data rfl
    rw [Lob.leaves_serve_write]
    exact h.grows_write ds
  | length =>
    rw [Lob.leaves_serve_length]
    exact h.grows_of_contents rfl
  | close | position | preferredSize => exact h.grows_of_contents rfl

/-- **Another object** is still placed when one has grown.  On the same content, neither may be
NULL. -/
theorem Grows.placed_other {lob' g : Lob} {kind' : LobKind} {vs : List kind'.Unit}
    (hgrows : Grows kind us (lob, s) (lob', s')) (hat : Placed kind lob s us)
    (hg : Placed kind' g s vs) (hsame : g.content = lob.content →
      kind' = kind ∧ g.isNull = false ∧ lob.isNull = false) :
    ∃ vs', Placed kind' g s' vs' := by
  by_cases hcontent : g.content = lob.content
  · obtain ⟨rfl, hnull, hnull'⟩ := hsame hcontent
    obtain ⟨us', hat', hle⟩ := hgrows.placed
    have hcontent' : g.content = lob'.content := hcontent.trans hgrows.content.symm
    -- both have the units of the content
    have hunits := hg.units
    rw [units?_of_notNull hnull, hcontent, ← units?_of_notNull hnull', hat.units] at hunits
    obtain rfl : us = vs := Except.ok.inj hunits
    refine ⟨us', hg.kind_eq, hcontent' ▸ hat'.stored, ?_, hg.offset_le.trans hle⟩
    rw [units?_of_notNull hnull, hcontent', ← units?_of_notNull (hgrows.notNull hnull'), hat'.units]
  · have hsame := hgrows.elsewhere g.content hcontent
    refine ⟨vs, hg.kind_eq, ?_, ?_, hg.offset_le⟩
    · have hstored := List.getElem?_eq_getElem hg.stored
      rw [← hsame] at hstored
      exact (List.getElem?_eq_some_iff.mp hstored).1
    · rw [← hg.units]
      simp only [units?, Server.content, hsame]

end Scripted.Lob

namespace LobHandle

open Scripted.Lob (Placed Grows)

variable {h : LobHandle Lob} {s : Server} {us : List h.kind.Unit}

/-- A value is written as units. -/
theorem units_of_request? {c : LobCall} {r : LobRequest} (hrequest : h.request? c = .ok r)
    {data : Bytes} (hr : r = .write data) : ∃ ds, data = Lob.encode h.kind ds := by
  subst hr
  obtain ⟨v, rfl, hbytes⟩ := exists_of_request?_write hrequest
  rw [bytesOf_eq] at hbytes
  obtain ⟨ds, -, hds⟩ := map_eq_ok hbytes
  exact ⟨ds, hds.symm⟩

/-- **Every call** through a handle of the kind of its object. -/
theorem grows_perform (hat : Placed h.kind h.lob s us) (c : LobCall) :
    (leaves (perform c (h, s))).1.kind = h.kind ∧
      Grows h.kind us (h.lob, s)
        ((leaves (perform c (h, s))).1.lob, (leaves (perform c (h, s))).2) := by
  rw [leaves_perform]
  cases hrequest : h.request? c with
  | error e => exact ⟨rfl, hat.grows_of_contents rfl⟩
  | ok r =>
    exact ⟨rfl, hat.grows_serve fun data hr => units_of_request? hrequest hr⟩

end LobHandle

namespace World

open Scripted.Lob (Placed Grows)

/-! ## Many handles -/

/-- **What every call keeps**: all handles are of the kind of their object, and stand among its
units.  Handles on one content are of one kind, and the content of a NULL object is its own. -/
structure Consistent (w : ClientWorld) : Prop where
  placed : ∀ (i : Nat) (h : LobHandle Lob), w.handles[i]? = some h →
    ∃ us, Placed h.kind h.lob w.server us
  sameKind : ∀ (i j : Nat) (h g : LobHandle Lob), w.handles[i]? = some h →
    w.handles[j]? = some g → h.lob.content = g.lob.content → h.kind = g.kind
  alone : ∀ (i j : Nat) (h g : LobHandle Lob), w.handles[i]? = some h →
    w.handles[j]? = some g → h.lob.content = g.lob.content → h.lob.isNull = true → i = j

variable {w : ClientWorld}

section OneCall
variable {id : Nat} {h h' : LobHandle Lob} {us : List h.kind.Unit} {s' : Server}

/-- A handle that was called is of the same kind, on the same content, and no NULL object if it was
none before. -/
theorem exists_before (hfound : w.handles[id]? = some h) (hkind : h'.kind = h.kind)
    (hgrows : Grows h.kind us (h.lob, w.server) (h'.lob, s')) {i : Nat} {g : LobHandle Lob}
    (hg : (w.handles.set id h')[i]? = some g) :
    ∃ g', w.handles[i]? = some g' ∧ g'.kind = g.kind ∧ g'.lob.content = g.lob.content ∧
      (g.lob.isNull = true → g'.lob.isNull = true) := by
  rcases getElem?_set_cases hg with ⟨rfl, rfl⟩ | ⟨-, hg⟩
  · refine ⟨h, hfound, hkind.symm, hgrows.content.symm, fun hnull => ?_⟩
    by_contra hnot
    rw [hgrows.notNull (Bool.eq_false_of_not_eq_true hnot)] at hnull
    cases hnull
  · exact ⟨g, hg, rfl, rfl, fun hnull => hnull⟩

/-- **One handle is called.** -/
theorem Consistent.set (hw : Consistent w) (hfound : w.handles[id]? = some h)
    (hat : Placed h.kind h.lob w.server us) (hkind : h'.kind = h.kind)
    (hgrows : Grows h.kind us (h.lob, w.server) (h'.lob, s')) :
    Consistent ⟨s', w.handles.set id h'⟩ := by
  refine ⟨fun i g hg => ?_, fun i j g k hg hk hcontent => ?_,
    fun i j g k hg hk hcontent hnull => ?_⟩
  · rcases getElem?_set_cases hg with ⟨rfl, rfl⟩ | ⟨hi, hg⟩
    · obtain ⟨us', hat', -⟩ := hgrows.placed
      rw [hkind]
      exact ⟨us', hat'⟩
    · -- two objects on one content are not NULL, since each would be alone there
      obtain ⟨vs, hplaced⟩ := hw.placed i g hg
      refine hgrows.placed_other hat hplaced fun hcontent =>
        ⟨hw.sameKind i id g h hg hfound hcontent, ?_, ?_⟩
      · by_contra hnull
        exact hi (hw.alone i id g h hg hfound hcontent (Bool.eq_true_of_not_eq_false hnull))
      · by_contra hnull
        exact hi (hw.alone id i h g hfound hg hcontent.symm
          (Bool.eq_true_of_not_eq_false hnull)).symm
  · obtain ⟨g', hg', hgkind, hgcontent, -⟩ := exists_before hfound hkind hgrows hg
    obtain ⟨k', hk', hkkind, hkcontent, -⟩ := exists_before hfound hkind hgrows hk
    rw [← hgkind, ← hkkind]
    exact hw.sameKind i j g' k' hg' hk' (by rw [hgcontent, hkcontent, hcontent])
  · obtain ⟨g', hg', -, hgcontent, hgnull⟩ := exists_before hfound hkind hgrows hg
    obtain ⟨k', hk', -, hkcontent, -⟩ := exists_before hfound hkind hgrows hk
    exact hw.alone i j g' k' hg' hk' (by rw [hgcontent, hkcontent, hcontent]) (hgnull hnull)

end OneCall

theorem Consistent.call (hw : Consistent w) (ref : LobRef) (c : LobCall) :
    Consistent (leaves (w.call ref c)) := by
  cases hfound : w.handles[ref.id]? with
  | none =>
    rw [leaves_call_of_none hfound]
    exact hw
  | some h =>
    obtain ⟨us, hat⟩ := hw.placed ref.id h hfound
    obtain ⟨hkind, hgrows⟩ := LobHandle.grows_perform hat c
    rw [leaves_call_of_some hfound]
    exact hw.set hfound hat hkind hgrows

/-- The world after calls through handles, whether they succeed or fail. -/
def callAll (w : ClientWorld) (calls : List (LobRef × LobCall)) : ClientWorld :=
  calls.foldl (fun w call => leaves (w.call call.1 call.2)) w

/-- **A whole run of calls.** -/
theorem Consistent.callAll (hw : Consistent w) (calls : List (LobRef × LobCall)) :
    Consistent (w.callAll calls) := by
  induction calls generalizing w with
  | nil => exact hw
  | cons call rest ih => exact ih (hw.call call.1 call.2)

/-- **Handles that were just opened** on objects of their kind.  The content of a character object
is a text, and a NULL object shares its content with nobody. -/
structure Opened (w : ClientWorld) : Prop where
  ownKind : ∀ h ∈ w.handles, h.lob.kind = h.kind
  stored : ∀ h ∈ w.handles, h.lob.content < w.server.contents.length
  start : ∀ h ∈ w.handles, h.lob.offset = 0
  valid : ∀ h ∈ w.handles, h.lob.isNull = false →
    ∃ us, Lob.view h.kind (w.server.content h.lob.content) = .ok us
  sameKind : ∀ h ∈ w.handles, ∀ g ∈ w.handles, h.lob.content = g.lob.content → h.kind = g.kind
  alone : ∀ (i j : Nat) (h g : LobHandle Lob), w.handles[i]? = some h →
    w.handles[j]? = some g → h.lob.content = g.lob.content → h.lob.isNull = true → i = j

theorem Opened.consistent (hw : Opened w) : Consistent w where
  placed := fun i h hi => by
    have hmem := List.mem_of_getElem? hi
    suffices hunits : ∃ us, Lob.units? h.kind h.lob w.server = .ok us by
      obtain ⟨us, hus⟩ := hunits
      refine ⟨us, hw.ownKind h hmem, hw.stored h hmem, hus, ?_⟩
      rw [hw.start h hmem]
      exact Nat.zero_le _
    cases hnull : h.lob.isNull with
    | true => exact ⟨[], Lob.units?_of_null hnull⟩
    | false =>
      obtain ⟨us, hus⟩ := hw.valid h hmem hnull
      exact ⟨us, (Lob.units?_of_notNull hnull).trans hus⟩
  sameKind := fun i j h g hi hj =>
    hw.sameKind h (List.mem_of_getElem? hi) g (List.mem_of_getElem? hj)
  alone := hw.alone

/-! ## Writing through a handle -/

/-- The world after `ds` was written through a handle on the units `us`. -/
def written (w : ClientWorld) (ref : LobRef) (h : LobHandle Lob) (us ds : List h.kind.Unit) :
    ClientWorld where
  server := w.server.setContent h.lob.content
    (Lob.encode h.kind (overwritten us h.lob.offset ds))
  handles := w.handles.set ref.id
    { h with lob := { h.lob with offset := h.lob.offset + ds.length, isNull := false } }

/-- The world in which a NULL object is an empty one. -/
def emptied (w : ClientWorld) (ref : LobRef) (h : LobHandle Lob) : ClientWorld where
  server := w.server.setContent h.lob.content []
  handles := w.handles.set ref.id { h with lob := { h.lob with isNull := false } }

section OneHandle
variable {ref : LobRef} {h : LobHandle Lob} {us ds : List h.kind.Unit}

theorem call_of_some (href : w.handle? ref = some h) (c : LobCall) :
    w.call ref c =
      match LobHandle.perform c (h, w.server) with
      | .ok a (h, server) => .ok a { server, handles := w.handles.set ref.id h }
      | .error e (h, server) => .error e { server, handles := w.handles.set ref.id h } := by
  simp only [World.call, World.onHandle, href]
  cases LobHandle.perform c (h, w.server) <;> rfl

/-- A handle that is put back where it was. -/
theorem set_of_handle? (href : w.handle? ref = some h) :
    ({ server := w.server, handles := w.handles.set ref.id h } : ClientWorld) = w := by
  obtain ⟨hlt, hget⟩ := List.getElem?_eq_some_iff.mp href
  rw [← hget, List.set_getElem_self]

theorem call_position (href : w.handle? ref = some h) (hopen : h.isOpen = true) :
    w.call ref .position = .ok (.number (h.lob.offset + 1)) w := by
  have hposition : LobHandle.position (h, w.server) = .ok (h.lob.offset + 1) (h, w.server) :=
    LobHandle.position_of_open hopen w.server
  rw [call_of_some href, LobHandle.perform, run_bind_ok hposition]
  exact congrArg _ (set_of_handle? href)

theorem call_length (href : w.handle? ref = some h) (hopen : h.isOpen = true)
    (hat : Placed h.kind h.lob w.server us) :
    w.call ref .length = .ok (.number us.length) w := by
  have hlength : LobHandle.length (h, w.server) = .ok us.length (h, w.server) := by
    rw [LobHandle.length_of_open hopen, hat.length_eq]
  rw [call_of_some href, LobHandle.perform, run_bind_ok hlength]
  exact congrArg _ (set_of_handle? href)

/-- A value that gives no units is not written. -/
theorem call_write_error (href : w.handle? ref = some h) (hopen : h.isOpen = true) {v : Value}
    {e : Error} (hdata : LobHandle.dataOf h.kind v = .error e) :
    w.call ref (.write v) = .error e w := by
  have hbytes : LobHandle.bytesOf h.kind v = .error e := by
    rw [LobHandle.bytesOf_eq, hdata]
    rfl
  have hwrite := LobHandle.write_of_open hopen v w.server
  rw [hbytes] at hwrite
  rw [call_of_some href, LobHandle.perform, run_bind_error hwrite]
  exact congrArg _ (set_of_handle? href)

/-- **What a write does**, to the last bit. -/
theorem call_write (href : w.handle? ref = some h) (hopen : h.isOpen = true)
    (hat : Placed h.kind h.lob w.server us) {v : Value}
    (hdata : LobHandle.dataOf h.kind v = .ok ds) :
    w.call ref (.write v) = .ok .done (w.written ref h us ds) := by
  have hbytes : LobHandle.bytesOf h.kind v = .ok (Lob.encode h.kind ds) := by
    rw [LobHandle.bytesOf_eq, hdata]
    rfl
  have hserver : RemoteLob.write (Lob.encode h.kind ds) (h.lob, w.server) = _ := hat.write_eq ds
  have hwrite := LobHandle.write_of_open hopen v w.server
  rw [hbytes] at hwrite
  simp only [hserver] at hwrite
  rw [call_of_some href, LobHandle.perform, run_bind_ok hwrite]
  rfl

theorem handle?_written (href : w.handle? ref = some h) :
    (w.written ref h us ds).handle? ref =
      some { h with lob := { h.lob with offset := h.lob.offset + ds.length, isNull := false } } :=
  List.getElem?_set_self (List.getElem?_eq_some_iff.mp href).1

/-- **Two writes are one.** -/
theorem written_written (hle : h.lob.offset ≤ us.length) (es : List h.kind.Unit) :
    (w.written ref h us ds).written ref
        { h with lob := { h.lob with offset := h.lob.offset + ds.length, isNull := false } }
        (overwritten us h.lob.offset ds) es =
      w.written ref h us (ds ++ es) := by
  simp only [written, Lob.setContent_setContent, overwritten_overwritten hle, List.set_set,
    List.length_append, Nat.add_assoc]

theorem emptied_written :
    (w.emptied ref h).written ref { h with lob := { h.lob with isNull := false } } us ds =
      w.written ref h us ds := by
  simp only [emptied, written, Lob.setContent_setContent, List.set_set]

end OneHandle

/-- **What writing `ds` at position `p` leaves**, where there were the units `us`. -/
structure Written (w : ClientWorld) (ref : LobRef) (h : LobHandle Lob) (us : List h.kind.Unit)
    (p : Nat) (ds : List h.kind.Unit) (w' : ClientWorld) : Prop where
  /-- The content is valid, and outside the written range it has the units it had. -/
  content : ∃ us', Lob.view h.kind (w'.server.content h.lob.content) = .ok us' ∧
    us' = us.take (p - 1) ++ ds ++ us.drop (p - 1 + ds.length) ∧
    ∀ i, i < p - 1 ∨ p - 1 + ds.length ≤ i → us'[i]? = us[i]?
  position : w'.call ref .position = .ok (.number (p + ds.length)) w'
  length : w'.call ref .length = .ok (.number (max us.length (p - 1 + ds.length))) w'
  otherContents : ∀ n, n ≠ h.lob.content → w'.server.contents[n]? = w.server.contents[n]?
  otherHandles : ∀ other : LobRef, other.id ≠ ref.id → w'.handle? other = w.handle? other

/-- **A handle at position `p` of an object with the units `us`**, and what writing through it
does. -/
structure Overwrites (w : ClientWorld) (ref : LobRef) (h : LobHandle Lob) (us : List h.kind.Unit)
    (p : Nat) : Prop where
  units : Lob.units? h.kind h.lob w.server = .ok us
  position : w.call ref .position = .ok (.number p) w
  length : w.call ref .length = .ok (.number us.length) w
  inside : 1 ≤ p ∧ p ≤ us.length + 1
  write : ∀ v ds, LobHandle.dataOf h.kind v = .ok ds →
    ∃ w', w.call ref (.write v) = .ok .done w' ∧ Written w ref h us p ds w'
  /-- Only a value without units is refused, and then nothing happens. -/
  refused : ∀ v e, LobHandle.dataOf h.kind v = .error e → w.call ref (.write v) = .error e w
  /-- Writing in two pieces is writing at once. -/
  pieces : ∀ v₁ v₂ v ds₁ ds₂, LobHandle.dataOf h.kind v₁ = .ok ds₁ →
    LobHandle.dataOf h.kind v₂ = .ok ds₂ → LobHandle.dataOf h.kind v = .ok (ds₁ ++ ds₂) →
    ∃ w', w.call ref (.write v₁) = .ok .done w' ∧
      w'.call ref (.write v₂) = w.call ref (.write v)
  /-- A NULL object is written as an empty one. -/
  null : h.lob.isNull = true → us = [] ∧ ∀ v ds, LobHandle.dataOf h.kind v = .ok ds →
    w.call ref (.write v) = (w.emptied ref h).call ref (.write v)

theorem written_spec {ref : LobRef} {h : LobHandle Lob} {us : List h.kind.Unit}
    (href : w.handle? ref = some h) (hopen : h.isOpen = true)
    (hat : Placed h.kind h.lob w.server us) (ds : List h.kind.Unit) :
    Written w ref h us (h.lob.offset + 1) ds (w.written ref h us ds) where
  content := by
    refine ⟨overwritten us h.lob.offset ds, ?_, rfl, fun i hi => ?_⟩
    · rw [written, Lob.content_setContent hat.stored, Lob.view_encode]
    · exact getElem?_overwritten hat.offset_le hi
  position := by
    rw [call_position (handle?_written href) hopen, Nat.add_right_comm]
  length := by
    rw [call_length (handle?_written href) hopen (hat.write ds), length_overwritten hat.offset_le]
    rfl
  otherContents := fun n hn => List.getElem?_set_ne hn.symm
  otherHandles := fun other hother => List.getElem?_set_ne hother.symm

/-- A NULL object before and after it was made an empty one. -/
theorem placed_emptied {h : LobHandle Lob} {us : List h.kind.Unit}
    (hat : Placed h.kind h.lob w.server us) (hnull : h.lob.isNull = true) (ref : LobRef) :
    us = [] ∧ Placed h.kind { h.lob with isNull := false } (w.emptied ref h).server [] := by
  have hunits := hat.units
  rw [Lob.units?_of_null hnull] at hunits
  have hempty : Lob.view h.kind [] = .ok [] := by
    cases h.kind <;> rfl
  refine ⟨(Except.ok.inj hunits).symm, hat.kind_eq, ?_, ?_, ?_⟩
  · simpa [emptied, Server.setContent] using hat.stored
  · rw [Lob.units?_of_notNull rfl, emptied, Lob.content_setContent hat.stored, hempty]
  · exact (hat.offset_of_null hnull).le

/-- **Every open handle of a consistent world.** -/
theorem Consistent.overwrites (hw : Consistent w) {ref : LobRef} {h : LobHandle Lob}
    (href : w.handle? ref = some h) (hopen : h.isOpen = true) :
    ∃ us p, Overwrites w ref h us p := by
  obtain ⟨us, hat⟩ := hw.placed ref.id h href
  refine ⟨us, h.lob.offset + 1, hat.units, call_position href hopen, call_length href hopen hat,
    ⟨by omega, by have := hat.offset_le; omega⟩, ?_, ?_, ?_, ?_⟩
  · intro v ds hdata
    exact ⟨_, call_write href hopen hat hdata, written_spec href hopen hat ds⟩
  · intro v e hdata
    exact call_write_error href hopen hdata
  · intro v₁ v₂ v ds₁ ds₂ hdata₁ hdata₂ hdata
    refine ⟨_, call_write href hopen hat hdata₁, ?_⟩
    rw [call_write (handle?_written href) hopen (hat.write ds₁) hdata₂,
      call_write href hopen hat hdata, written_written hat.offset_le]
  · intro hnull
    obtain ⟨rfl, hempty⟩ := placed_emptied hat hnull ref
    refine ⟨rfl, fun v ds hdata => ?_⟩
    have href' : (w.emptied ref h).handle? ref =
        some { h with lob := { h.lob with isNull := false } } :=
      List.getElem?_set_self (List.getElem?_eq_some_iff.mp href).1
    rw [call_write href hopen hat hdata, call_write href' hopen hempty hdata, emptied_written]

/-- **Writes are overwrites in place that extend at the end.**  Handles are opened on objects of
their own kind, and calls are made through them, in any order and with any outcome.  Then every
handle that is open is at one of the units of its object, or behind the last, and what is written
through it takes the place of what follows. -/
theorem calls_overwrite {w : ClientWorld} (opened : Opened w) (calls : List (LobRef × LobCall))
    {ref : LobRef} {h : LobHandle Lob} (found : (w.callAll calls).handle? ref = some h)
    (isOpen : h.isOpen = true) : ∃ us p, Overwrites (w.callAll calls) ref h us p :=
  (opened.consistent.callAll calls).overwrites found isOpen

/-- Two handles on one text: the first reads its second character, and the second writes wider ones
over both and one behind.  The first handle is in front of the third character then. -/
theorem calls_overwrite_text :
    let handle : LobHandle Lob := .new (Lob.new 0 .character) .character
    let w : ClientWorld :=
      ⟨{ Server.empty with contents := [Utf8.encode "aé"] }, [handle, handle]⟩
    let calls : List (LobRef × LobCall) :=
      [(⟨0, .character⟩, .read (some 2) 8), (⟨1, .character⟩, .write (.text "€€€"))]
    Opened w ∧ ∃ h us, (w.callAll calls).handle? ⟨0, .character⟩ = some h ∧ h.isOpen = true ∧
      us.length = 3 ∧ Overwrites (w.callAll calls) ⟨0, .character⟩ h us 3 := by
  intro handle w calls
  have hall (P : LobHandle Lob → Prop) (hhandle : P handle) : ∀ h ∈ w.handles, P h := by
    intro h hh
    obtain rfl : h = handle := by simpa [w] using hh
    exact hhandle
  have opened : Opened w := by
    refine ⟨hall _ rfl, hall _ Nat.one_pos, hall _ rfl, hall _ fun _ => ?_,
      hall _ (hall _ fun _ => rfl), fun i j h g hi hj _ hnull => ?_⟩
    · exact ⟨"aé".toList, @Lob.view_encode .character "aé".toList⟩
    · have hlive : h.lob.isNull = false := hall (·.lob.isNull = false) rfl h (List.mem_of_getElem? hi)
      rw [hlive] at hnull
      cases hnull
  have hfound : ∃ h, (w.callAll calls).handle? ⟨0, .character⟩ = some h ∧ h.isOpen = true :=
    ⟨_, by cbv, rfl⟩
  obtain ⟨h, hfound, hopen⟩ := hfound
  obtain ⟨us, p, hoverwrites⟩ := calls_overwrite opened calls hfound hopen
  have hposition : result? ((w.callAll calls).call ⟨0, .character⟩ .position) =
      some (.number 3) := by decide +kernel
  have hlength : result? ((w.callAll calls).call ⟨0, .character⟩ .length) =
      some (.number 3) := by decide +kernel
  rw [hoverwrites.position] at hposition
  rw [hoverwrites.length] at hlength
  obtain rfl : p = 3 := by simpa using hposition
  exact ⟨opened, h, us, hfound, hopen, by simpa using hlength, hoverwrites⟩

end World
end SqlClient
