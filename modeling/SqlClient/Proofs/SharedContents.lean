import SqlClient.Proofs.FetchedHandles
import SqlClient.Proofs.HandleAgreement
import SqlClient.Proofs.LobOverwrites

/-! # Handles on one content

Handles that are opened on one LOB cell, in one row or in several, share the content of the cell and
nothing else.  What is written through any of them is written to the content at the position of the
handle that writes; so at every moment the content is what the writes so far make of it, one after
the other (`applied`, `contentWrites`), and each handle reads and measures that content from its own
position.  The other handles are not touched by what is done through one (`handle?_after`).

A cell that is no LOB cell gives every handle a content of its own: beyond the contents that the
scripts name no two handles have the same one (`Sharing.apart`).  `sharesContent` collects what this
means along any run of executions, fetches and uses of handles.
-/
namespace SqlClient

open Scripted

/-! ## Events -/

/-- A use of a handle. -/
inductive LobUse where
  | call (ref : LobRef) (c : LobCall)
  | drop (ref : LobRef)

/-- The handle that is used. -/
def LobUse.ref : LobUse → LobRef
  | .call ref _ => ref
  | .drop ref => ref

/-- What happens to large objects of a server: a SQL text is executed, directly or prepared and with
arguments, a row is fetched, which may open handles, or a handle is used. -/
inductive LobEvent where
  | executes (s : Statement) (sql : String)
  | executesWith (s : Statement) (args : Arguments)
  | fetches (c : Cursor ResultSet) (move : Seek)
  | uses (u : LobUse)

/-- The event is done through handle `id`: it uses the handle, or has it among its arguments, from
which an output may drop it. -/
def LobEvent.Through (id : Nat) : LobEvent → Prop
  | .uses u => u.ref.id = id
  | .executesWith _ args => ∃ ref, .lob ref ∈ args.values ∧ ref.id = id
  | _ => False

/-- All large objects that are shown are on the first `limit` contents. -/
def LobEvent.Stored (limit : Nat) : LobEvent → Prop
  | .fetches c _ => c.rows.Stored limit
  | _ => True

/-- Content `n` is shown under columns of one kind only. -/
def LobEvent.OfKind (n : Nat) (kind : LobKind) : LobEvent → Prop
  | .fetches c _ => ∀ k, c.Shows n k → k = kind
  | _ => True

/-- The units written at one time, and where: the number of the handle, and the units in front of
its position. -/
structure LobWrite (kind : LobKind) where
  writer : Nat
  offset : Nat
  units : List kind.Unit

/-- **A content after writes**, one after the other.  A content that is no text is not written as
one. -/
def applied (kind : LobKind) (content : Bytes) (writes : List (LobWrite kind)) : Bytes :=
  match Lob.view kind content with
  | .ok us =>
    Lob.encode kind (writes.foldl (fun us write => overwritten us write.offset write.units) us)
  | .error _ => content

namespace World

/-- The world after a use of a handle, whatever comes of it. -/
def use (w : ClientWorld) : LobUse → ClientWorld
  | .call ref c => leaves (w.call ref c)
  | .drop ref => w.dropAlias ref

/-- The world after an event, whatever comes of it. -/
def after (w : ClientWorld) : LobEvent → ClientWorld
  | .executes s sql => (leaves (Statement.execute sql (s, w))).2
  | .executesWith s args => (leaves (Statement.executeWith (args, s, w))).2.2
  | .fetches c move => (leaves (Cursor.fetch move (c, w))).2
  | .uses u => w.use u

/-- The world after events. -/
def afterAll (w : ClientWorld) (events : List LobEvent) : ClientWorld := events.foldl after w

/-- The write to content `n` that an event makes, if it makes one: a call through a handle on this
content that writes units and succeeds. -/
def write? (n : Nat) (kind : LobKind) (w : ClientWorld) : LobEvent → Option (LobWrite kind)
  | .uses (.call ref (.write v)) =>
    match answered (w.call ref (.write v)) with
    | .error _ => none
    | .ok _ => (w.handle? ref).bind fun h =>
      if h.lob.content = n then
        (LobHandle.dataOf kind v).toOption.map fun units => ⟨ref.id, h.lob.offset, units⟩
      else none
  | _ => none

/-- **The writes to content `n`**, in the order in which they happen. -/
def contentWrites (n : Nat) (kind : LobKind) (w : ClientWorld) : List LobEvent → List (LobWrite kind)
  | [] => []
  | e :: events => (write? n kind w e).toList ++ contentWrites n kind (w.after e) events

/-- What is said to a use; nothing is to a drop. -/
def said (w : ClientWorld) : LobUse → Option (Except Error LobAnswer)
  | .call ref c => some (answered (w.call ref c))
  | .drop _ => none

/-- What is said to the uses of one handle, among those of all. -/
def answers (id : Nat) (w : ClientWorld) : List LobUse → List (Except Error LobAnswer)
  | [] => []
  | u :: uses => (if u.ref.id = id then (w.said u).toList else []) ++ answers id (w.use u) uses

/-- The handle by itself, with a content that nobody else knows. -/
def alone (h : LobHandle Lob) (content : Bytes) : ClientWorld :=
  ⟨{ Server.empty with contents := [content] }, [h.moved 0]⟩

end World

/-! ## What is applied to a content -/

section Applied
variable {kind : LobKind} {content : Bytes} {us : List kind.Unit}

theorem Scripted.Lob.encode_of_view (h : Lob.view kind content = .ok us) :
    Lob.encode kind us = content := by
  cases kind with
  | binary => exact (Except.ok.inj h).symm
  | character => exact Lob.bytesOf_of_characters h

theorem applied_of_view (h : Lob.view kind content = .ok us) (writes : List (LobWrite kind)) :
    applied kind content writes =
      Lob.encode kind (writes.foldl (fun us write => overwritten us write.offset write.units) us) := by
  rw [applied, h]

theorem applied_of_error {e : Error} (h : Lob.view kind content = .error e)
    (writes : List (LobWrite kind)) : applied kind content writes = content := by
  rw [applied, h]

@[simp] theorem applied_nil : applied kind content [] = content := by
  cases h : Lob.view kind content with
  | ok us => exact (applied_of_view h []).trans (Lob.encode_of_view h)
  | error e => exact applied_of_error h []

/-- **First some writes, then more.** -/
theorem applied_append (writes more : List (LobWrite kind)) :
    applied kind content (writes ++ more) = applied kind (applied kind content writes) more := by
  cases h : Lob.view kind content with
  | ok us =>
    rw [applied_of_view h, applied_of_view h, applied_of_view (Lob.view_encode _), List.foldl_append]
  | error e => rw [applied_of_error h, applied_of_error h, applied_of_error h]

end Applied

/-! ## What one use does -/

namespace LobHandle

/-- **What a call leaves alone**: of the handle its kind and its content, and of the server all
other contents.  Only a write changes any. -/
structure Called (c : LobCall) (x y : LobHandle Lob × Server) : Prop where
  kind : y.1.kind = x.1.kind
  lobKind : y.1.lob.kind = x.1.lob.kind
  content : y.1.lob.content = x.1.lob.content
  notNull : x.1.lob.isNull = false → y.1.lob.isNull = false
  length : y.2.contents.length = x.2.contents.length
  elsewhere : ∀ n, n ≠ x.1.lob.content → y.2.contents[n]? = x.2.contents[n]?
  unwritten : (∀ v, c ≠ .write v) → y.2.contents = x.2.contents

variable {h : LobHandle Lob} {s : Server} {c : LobCall}

theorem called_perform (c : LobCall) (h : LobHandle Lob) (s : Server) :
    Called c (h, s) (leaves (perform c (h, s))) := by
  have hsame {lob : Lob} {server : Server} (isOpen : Bool) (hkind : lob.kind = h.lob.kind)
      (hcontent : lob.content = h.lob.content) (hnull : lob.isNull = h.lob.isNull)
      (hcontents : server.contents = s.contents) :
      Called c (h, s) ({ h with lob, isOpen }, server) :=
    ⟨rfl, hkind, hcontent, fun h => hnull.trans h, by rw [hcontents],
      fun n _ => by rw [hcontents], fun _ => hcontents⟩
  rw [leaves_perform]
  cases hrequest : h.request? c with
  | error e => exact hsame h.isOpen rfl rfl rfl rfl
  | ok r =>
    cases r with
    | read start size =>
      obtain ⟨offset, hread⟩ := Lob.leaves_read h.lob s size start
      simp only [Lob.leaves_serve_read, hread]
      exact hsame _ rfl rfl rfl rfl
    | write data =>
      obtain ⟨offset, contents, hwrite, hlength, helse⟩ := Lob.leaves_write h.lob s data
      obtain ⟨v, hwrites, -⟩ := exists_of_request?_write hrequest
      simp only [Lob.leaves_serve_write, hwrite]
      exact ⟨rfl, rfl, rfl, fun _ => rfl, hlength, helse, fun hother => absurd hwrites (hother v)⟩
    | length =>
      simp only [Lob.leaves_serve_length]
      exact hsame _ rfl rfl rfl rfl
    | close | position | preferredSize => exact hsame _ rfl rfl rfl rfl

/-- **What is no text is not written as one.** -/
theorem write_of_invalid {e : Error} (hkind : h.lob.kind = h.kind) (hnull : h.lob.isNull = false)
    (hinvalid : Lob.view h.kind (s.content h.lob.content) = .error e) (v : Value) :
    ∃ e', perform (.write v) (h, s) = .error e' (h, s) := by
  cases hopen : h.isOpen with
  | false => exact ⟨_, perform_of_closed hopen _ s⟩
  | true =>
    rw [perform_write hopen]
    cases hbytes : bytesOf h.kind v with
    | error e' => exact ⟨e', rfl⟩
    | ok data =>
      have hsplice : Lob.splice h.lob.kind (s.content h.lob.content) h.lob.offset data =
          .error e := by
        rw [hkind]
        cases hk : h.kind with
        | binary =>
          rw [hk] at hinvalid
          cases hinvalid
        | character =>
          rw [hk] at hinvalid
          rw [Lob.splice, show Lob.characters (s.content h.lob.content) = .error e from hinvalid]
          rfl
      have hwrite : RemoteLob.write data (h.lob, s) = .error e (h.lob, s) := by
        show Lob.write data (h.lob, s) = _
        simp only [Lob.write, hnull, Bool.false_eq_true, if_false, hsplice]
        rw [← hnull]
      refine ⟨e, ?_⟩
      simp only [LobRequest.serve, run_bind_error hwrite, settled]
      have hsame : ({ h with isOpen := true } : LobHandle Lob) = h := by rw [← hopen]
      simp [after, hopen, hsame]

end LobHandle

namespace World

variable {w : ClientWorld} {n : Nat} {kind : LobKind} {ref : LobRef} {h : LobHandle Lob}

theorem answered_call (href : w.handle? ref = some h) (c : LobCall) :
    answered (w.call ref c) = answered (LobHandle.perform c (h, w.server)) := by
  rw [call_of_some href]
  cases LobHandle.perform c (h, w.server) <;> rfl

/-- **A handle on a content**: it is of the kind under which the content is shared, and somewhere in
it if it has units of this kind. -/
structure On (kind : LobKind) (content : Bytes) (h : LobHandle Lob) : Prop where
  kind_eq : h.kind = kind
  lobKind_eq : h.lob.kind = kind
  notNull : h.lob.isNull = false
  offset_le : ∀ us, Lob.view kind content = .ok us → h.lob.offset ≤ us.length

theorem On.placed {content : Bytes} (hon : On kind content h) {s : Server} {us : List h.kind.Unit}
    (hstored : h.lob.content < s.contents.length) (hcontent : s.content h.lob.content = content)
    (hview : Lob.view h.kind content = .ok us) : Lob.Placed h.kind h.lob s us := by
  obtain ⟨rfl, hkind, hnull, hle⟩ := hon
  exact ⟨hkind, hstored, by rw [Lob.units?_of_notNull hnull, hcontent, hview], hle us hview⟩

/-- A write that fails is not noted. -/
theorem write?_of_error {v : Value} {e : Error} (hsaid : answered (w.call ref (.write v)) = .error e) :
    write? n kind w (.uses (.call ref (.write v))) = none := by
  rw [write?, hsaid]

/-- A write is noted with the units that it puts in front of the handle. -/
theorem write?_of_ok {v : Value} {ds : List kind.Unit} {answer : LobAnswer}
    (hsaid : answered (w.call ref (.write v)) = .ok answer) (href : w.handle? ref = some h)
    (hn : h.lob.content = n) (hdata : LobHandle.dataOf kind v = .ok ds) :
    write? n kind w (.uses (.call ref (.write v))) = some ⟨ref.id, h.lob.offset, ds⟩ := by
  rw [write?, hsaid]
  simp only [href, Option.bind_some, if_pos hn, hdata]
  rfl

/-- **Who writes to a content** has a handle on it, and calls it to write. -/
theorem exists_of_write? {e : LobEvent} {write : LobWrite kind}
    (hwrite : write? n kind w e = some write) :
    ∃ ref v h, e = .uses (.call ref (.write v)) ∧ w.handle? ref = some h ∧ h.lob.content = n ∧
      write.writer = ref.id := by
  unfold write? at hwrite
  split at hwrite
  · rename_i ref v
    split at hwrite
    · cases hwrite
    · obtain ⟨h, href, hnoted⟩ := Option.bind_eq_some_iff.mp hwrite
      split at hnoted
      · rename_i hn
        obtain ⟨ds, -, rfl⟩ := Option.map_eq_some_iff.mp hnoted
        exact ⟨ref, v, h, rfl, href, hn, rfl⟩
      · cases hnoted
  · cases hwrite

/-- Nothing is noted of what is no write through a handle on the content. -/
theorem write?_eq_none {e : LobEvent} (hother : ∀ ref v h, e = .uses (.call ref (.write v)) →
    w.handle? ref = some h → h.lob.content ≠ n) : write? n kind w e = none := by
  refine Option.eq_none_iff_forall_ne_some.mpr fun write hwrite => ?_
  obtain ⟨ref, v, h, he, href, hn, -⟩ := exists_of_write? hwrite
  exact hother ref v h he href hn

/-- **Other handles are not touched.** -/
theorem use_other {u : LobUse} {id : Nat} (hid : u.ref.id ≠ id) :
    (w.use u).handles[id]? = w.handles[id]? := by
  cases u with
  | call ref c =>
    rw [use]
    cases hused : w.handles[ref.id]? with
    | none => rw [leaves_call_of_none hused]
    | some x =>
      rw [leaves_call_of_some hused]
      exact List.getElem?_set_ne hid
  | drop ref =>
    rw [use]
    cases hused : w.handles[ref.id]? with
    | none => rw [dropAlias_of_none hused]
    | some x =>
      rw [dropAlias_of_some hused]
      split <;> exact List.getElem?_set_ne hid

/-- Nor does it touch a handle that values are dropped, unless it is among them. -/
theorem releaseAll_other {vs : List Value} {id : Nat}
    (hvs : ∀ ref, .lob ref ∈ vs → ref.id ≠ id) :
    (w.releaseAll vs).handles[id]? = w.handles[id]? := by
  induction vs generalizing w with
  | nil => rfl
  | cons v vs ih =>
    have hrest : ∀ ref, .lob ref ∈ vs → ref.id ≠ id := fun ref href =>
      hvs ref (List.mem_cons_of_mem _ href)
    cases v with
    | lob ref =>
      exact (ih hrest).trans (use_other (u := .drop ref) (hvs ref (List.mem_cons_self ..)))
    | _ => exact ih hrest

section OneCall
variable (hon : On kind (w.server.content n) h) (href : w.handle? ref = some h)
  (hn : h.lob.content = n) (hstored : n < w.server.contents.length)
include hon href hn hstored

/-- **A call writes to its content what is noted of it**, and nothing else. -/
theorem content_call (c : LobCall) :
    (leaves (w.call ref c)).server.content n =
      applied kind (w.server.content n) (write? n kind w (.uses (.call ref c))).toList := by
  -- nothing is noted of a call that leaves the content as it was
  have hsame (hcontents : (leaves (LobHandle.perform c (h, w.server))).2.contents =
      w.server.contents) (hnote : write? n kind w (.uses (.call ref c)) = none) :
      (leaves (w.call ref c)).server.content n =
        applied kind (w.server.content n) (write? n kind w (.uses (.call ref c))).toList := by
    rw [hnote, Option.toList_none, applied_nil, leaves_call_of_some href, Server.content,
      Server.content, hcontents]
  by_cases hc : ∀ v, c ≠ .write v
  · refine hsame ((LobHandle.called_perform c h w.server).unwritten hc) (write?_eq_none ?_)
    rintro ref' v h' ⟨⟩
    exact absurd rfl (hc v)
  · obtain ⟨v, rfl⟩ := not_forall_not.mp hc
    have hfails {e : Error} (hperform : LobHandle.perform (.write v) (h, w.server) =
        .error e (h, w.server)) :
        (leaves (w.call ref (.write v))).server.content n =
          applied kind (w.server.content n) (write? n kind w (.uses (.call ref (.write v)))).toList :=
      hsame (by rw [hperform, leaves_error])
        (write?_of_error (e := e) (by rw [answered_call href, hperform, answered]))
    obtain ⟨rfl, hkind, hnull, -⟩ := id hon
    cases hview : Lob.view h.kind (w.server.content n) with
    | error e =>
      obtain ⟨e', hperform⟩ := LobHandle.write_of_invalid hkind hnull (hn ▸ hview) v
      exact hfails hperform
    | ok us =>
      have hat := hon.placed (hn ▸ hstored) (by rw [hn]) hview
      cases hopen : h.isOpen with
      | false => exact hfails (LobHandle.perform_of_closed hopen _ w.server)
      | true =>
        cases hdata : LobHandle.dataOf h.kind v with
        | error e =>
          have hcall := call_write_error href hopen hdata
          rw [write?_of_error (e := e) (by rw [hcall, answered]), hcall, Option.toList_none,
            applied_nil, leaves_error]
        | ok ds =>
          have hcall := call_write href hopen hat hdata
          rw [write?_of_ok (by rw [hcall, answered]) href hn hdata, hcall, Option.toList_some,
            applied_of_view hview, leaves_ok, written, hn, Lob.content_setContent hstored]
          rfl

/-- **The handle is on the content as it is after the call**, of which no unit was taken away. -/
theorem on_call (c : LobCall) :
    On kind ((leaves (w.call ref c)).server.content n)
        (leaves (LobHandle.perform c (h, w.server))).1 ∧
      ∀ us', Lob.view kind ((leaves (w.call ref c)).server.content n) = .ok us' →
        ∃ us, Lob.view kind (w.server.content n) = .ok us ∧ us.length ≤ us'.length := by
  have hcalled := LobHandle.called_perform c h w.server
  have hcontent := content_call hon href hn hstored c
  have hunits (us' : List kind.Unit)
      (hview' : Lob.view kind ((leaves (w.call ref c)).server.content n) = .ok us') :
      ∃ us, Lob.view kind (w.server.content n) = .ok us ∧ us.length ≤ us'.length ∧
        (leaves (LobHandle.perform c (h, w.server))).1.lob.offset ≤ us'.length := by
    obtain ⟨rfl, -, hnull, -⟩ := id hon
    cases hview : Lob.view h.kind (w.server.content n) with
    | error e =>
      rw [hcontent, applied_of_error hview, hview] at hview'
      cases hview'
    | ok us =>
      have hat := hon.placed (hn ▸ hstored) (by rw [hn]) hview
      obtain ⟨-, hgrows⟩ := LobHandle.grows_perform hat c
      obtain ⟨us'', hat', hle⟩ := hgrows.placed
      have hunits := hat'.units
      rw [Lob.units?_of_notNull (hgrows.notNull hnull)] at hunits
      rw [leaves_call_of_some href, ← hn, ← hgrows.content] at hview'
      cases hunits.symm.trans hview'
      exact ⟨us, rfl, hle, hat'.offset_le⟩
  refine ⟨⟨hcalled.kind.trans hon.kind_eq, hcalled.lobKind.trans hon.lobKind_eq,
    hcalled.notNull hon.notNull, fun us' hview' => ?_⟩, fun us' hview' => ?_⟩
  · obtain ⟨-, -, -, hle⟩ := hunits us' hview'
    exact hle
  · obtain ⟨us, hview, hle, -⟩ := hunits us' hview'
    exact ⟨us, hview, hle⟩

end OneCall
/-! ## What every event keeps -/

/-- **Handles that share.**  Those on content `n` are on it as objects of one kind, and contents
beyond a limit belong to one handle each. -/
structure Sharing (limit n : Nat) (kind : LobKind) (w : ClientWorld) : Prop where
  limit_le : limit ≤ w.server.contents.length
  stored : n < w.server.contents.length
  backed : w.Backed
  on : ∀ (id : Nat) (h : LobHandle Lob), w.handles[id]? = some h → h.lob.content = n →
    On kind (w.server.content n) h
  apart : ∀ (i j : Nat) (g h : LobHandle Lob), w.handles[i]? = some g → w.handles[j]? = some h →
    g.lob.content = h.lob.content → limit ≤ g.lob.content → i = j

/-- An event is proper for content `n` if it shows no contents but those up to a limit, and this one
under columns of one kind only. -/
def Proper (limit n : Nat) (kind : LobKind) (e : LobEvent) : Prop := e.Stored limit ∧ e.OfKind n kind

variable {limit : Nat} {w' : ClientWorld} {e : LobEvent}

theorem stored_of_shows {c : Cursor ResultSet} (hstored : c.rows.Stored limit) {m : Nat}
    {k : LobKind} (hshows : c.Shows m k) : m < limit := by
  obtain ⟨cells, hcells, i, -, hcell, -⟩ := hshows
  exact hstored cells hcells (.lob m) (List.mem_of_getElem? hcell)

/-- **One handle is used.** -/
theorem Sharing.set (hw : Sharing limit n kind w) {id : Nat} {h' : LobHandle Lob} {server : Server}
    (hfound : w.handles[id]? = some h) (hcontent : h'.lob.content = h.lob.content)
    (hlength : server.contents.length = w.server.contents.length)
    (hon : h.lob.content = n → On kind (server.content n) h')
    (hunits : ∀ us', Lob.view kind (server.content n) = .ok us' →
      ∃ us, Lob.view kind (w.server.content n) = .ok us ∧ us.length ≤ us'.length) :
    Sharing limit n kind ⟨server, w.handles.set id h'⟩ := by
  have hbefore {i : Nat} {g : LobHandle Lob} (hg : (w.handles.set id h')[i]? = some g) :
      ∃ g', w.handles[i]? = some g' ∧ g'.lob.content = g.lob.content := by
    rcases getElem?_set_cases hg with ⟨rfl, rfl⟩ | ⟨-, hg⟩
    · exact ⟨h, hfound, hcontent.symm⟩
    · exact ⟨g, hg, rfl⟩
  refine ⟨hlength ▸ hw.limit_le, hlength ▸ hw.stored, fun i g hg => ?_, fun i g hg hn => ?_,
    fun i j g k hg hk hsame hlimit => ?_⟩
  · obtain ⟨g', hg', hsame⟩ := hbefore hg
    rw [← hsame, hlength]
    exact hw.backed i g' hg'
  · rcases getElem?_set_cases hg with ⟨rfl, rfl⟩ | ⟨-, hg⟩
    · exact hon (hcontent.symm.trans hn)
    · -- no unit in front of another handle was taken away
      obtain ⟨hkind, hlobKind, hnull, hle⟩ := hw.on i g hg hn
      refine ⟨hkind, hlobKind, hnull, fun us' hview' => ?_⟩
      obtain ⟨us, hview, hlonger⟩ := hunits us' hview'
      exact (hle us hview).trans hlonger
  · obtain ⟨g', hg', hgsame⟩ := hbefore hg
    obtain ⟨k', hk', hksame⟩ := hbefore hk
    exact hw.apart i j g' k' hg' hk' (by rw [hgsame, hksame, hsame]) (by rwa [hgsame])

theorem Sharing.call (hw : Sharing limit n kind w) (ref : LobRef) (c : LobCall) :
    Sharing limit n kind (leaves (w.call ref c)) := by
  cases hfound : w.handles[ref.id]? with
  | none => rwa [leaves_call_of_none hfound]
  | some h =>
    have hcalled := LobHandle.called_perform c h w.server
    by_cases hn : h.lob.content = n
    · obtain ⟨hon, hunits⟩ := on_call (hw.on ref.id h hfound hn) hfound hn hw.stored c
      rw [leaves_call_of_some hfound] at hon hunits ⊢
      exact hw.set hfound hcalled.content hcalled.length (fun _ => hon) hunits
    · have hsame : (leaves (LobHandle.perform c (h, w.server))).2.content n =
          w.server.content n := by
        rw [Server.content, hcalled.elsewhere n (Ne.symm hn), Server.content]
      rw [leaves_call_of_some hfound]
      refine hw.set hfound hcalled.content hcalled.length (fun hn' => absurd hn' hn) ?_
      rw [hsame]
      exact fun us' hview' => ⟨us', hview', le_refl _⟩

theorem Sharing.dropAlias (hw : Sharing limit n kind w) (ref : LobRef) :
    Sharing limit n kind (w.dropAlias ref) := by
  cases hfound : w.handles[ref.id]? with
  | none => rwa [dropAlias_of_none hfound]
  | some h =>
    have hset (server : Server) (hcontents : server.contents = w.server.contents) (aliases : Nat)
        (isOpen : Bool) :
        Sharing limit n kind ⟨server, w.handles.set ref.id { h with aliases, isOpen }⟩ := by
      have hsame : server.content n = w.server.content n := by
        rw [Server.content, hcontents, Server.content]
      refine hw.set hfound rfl (by rw [hcontents]) (fun hn => ?_) ?_
      · obtain ⟨hkind, hlobKind, hnull, hle⟩ := hw.on ref.id h hfound hn
        exact ⟨hkind, hlobKind, hnull, hsame ▸ hle⟩
      · rw [hsame]
        exact fun us' hview' => ⟨us', hview', le_refl _⟩
    rw [dropAlias_of_some hfound]
    split
    · exact hset { w.server with closedLobs := w.server.closedLobs + 1 } rfl _ false
    · exact hset w.server rfl _ h.isOpen

/-- Handles and contents were added. -/
theorem Sharing.adds {shows : Nat → LobKind → Prop} (hw : Sharing limit n kind w)
    (hadds : Adds shows w w') (hlimit : ∀ m k, shows m k → m < limit)
    (hkind : ∀ k, shows n k → k = kind) : Sharing limit n kind w' := by
  have hle := hadds.contents.length_le
  have hstored := hw.stored
  -- the handles there were are the same
  have hcases {id : Nat} {h : LobHandle Lob} (hh : w'.handles[id]? = some h) :
      w.handles[id]? = some h ∨ w.handles.length ≤ id := by
    by_cases hid : id < w.handles.length
    · have hkept := hadds.kept id _ (List.getElem?_eq_getElem hid)
      rw [List.getElem?_eq_getElem hid]
      exact .inl (hkept.symm.trans hh)
    · exact .inr (Nat.le_of_not_lt hid)
  have hnew {id : Nat} {h : LobHandle Lob} (hh : w'.handles[id]? = some h)
      (hid : w.handles.length ≤ id) (hcontent : limit ≤ h.lob.content) :
      w.server.contents.length ≤ h.lob.content := by
    rcases hadds.content id h hh hid with hshown | ⟨hge, -⟩
    · exact absurd (hlimit _ _ hshown) (Nat.not_lt.mpr hcontent)
    · exact hge
  refine ⟨hw.limit_le.trans hle, hstored.trans_le hle, fun id h hh => ?_, fun id h hh hn => ?_,
    fun i j g h hg hh hsame hcontent => ?_⟩
  · rcases hcases hh with hold | hid
    · exact (hw.backed id h hold).trans_le hle
    · rcases hadds.content id h hh hid with hshown | ⟨-, hlt⟩
      · exact (hlimit _ _ hshown).trans_le (hw.limit_le.trans hle)
      · exact hlt
  · have hsame : w'.server.content n = w.server.content n := by
      rw [Server.content, Server.content, List.prefix_iff_getElem?.mp hadds.contents n hstored,
        List.getElem?_eq_getElem hstored]
    rcases hcases hh with hold | hid
    · rw [hsame]
      exact hw.on id h hold hn
    · have hlob := hadds.fresh id h hh hid
      rcases hadds.content id h hh hid with hshown | ⟨hge, -⟩
      · rw [hn] at hshown
        have hk := hkind _ hshown
        rw [hk] at hlob
        exact ⟨hk, by rw [hlob]; rfl, by rw [hlob]; rfl, fun us _ => by rw [hlob]; exact Nat.zero_le _⟩
      · omega
  · rcases hcases hg with hold | hi <;> rcases hcases hh with hold' | hj
    · exact hw.apart i j g h hold hold' hsame hcontent
    · have hge := hnew hh hj (hsame ▸ hcontent)
      have hlt := hw.backed i g hold
      omega
    · have hge := hnew hg hi hcontent
      have hlt := hw.backed j h hold'
      omega
    · exact hadds.apart i j g h hg hh hi hj hsame (hnew hg hi hcontent)

theorem Sharing.of_lobState_eq (hw : Sharing limit n kind w) (hstate : w'.lobState = w.lobState) :
    Sharing limit n kind w' := by
  have hadds : Adds (fun _ _ => False) w w' := .of_lobState_eq hstate
  exact hw.adds hadds nofun nofun

theorem Sharing.releaseAll (hw : Sharing limit n kind w) (vs : List Value) :
    Sharing limit n kind (w.releaseAll vs) := by
  induction vs generalizing w with
  | nil => exact hw
  | cons v vs ih =>
    cases v with
    | lob ref => exact ih (hw.dropAlias ref)
    | _ => exact ih hw

/-- **Every event.** -/
theorem Sharing.after (hw : Sharing limit n kind w) (he : Proper limit n kind e) :
    Sharing limit n kind (w.after e) := by
  cases e with
  | executes s sql => exact hw.of_lobState_eq (Statement.aside_execute sql (s, w)).lobState
  | executesWith s args =>
    obtain ⟨w₁, dropped, hstate, -, hleft⟩ := Statement.exists_dropped_executeWith args s w
    rw [World.after, hleft]
    exact (hw.of_lobState_eq hstate).releaseAll dropped
  | fetches c move =>
    have hlimit (m : Nat) (k : LobKind) (hshows : c.Shows m k) : m < limit :=
      stored_of_shows he.1 hshows
    exact hw.adds (Cursor.adds_fetch (fun m k h => (hlimit m k h).trans_le hw.limit_le) move)
      hlimit he.2
  | uses u =>
    cases u with
    | call ref c => exact hw.call ref c
    | drop ref => exact hw.dropAlias ref

/-- **A handle that there is stays on its content**, and is the same unless it is used. -/
theorem exists_after (hw : Sharing limit n kind w) (he : Proper limit n kind e) {id : Nat}
    (hfound : w.handles[id]? = some h) :
    ∃ h', (w.after e).handles[id]? = some h' ∧ h'.lob.content = h.lob.content ∧
      (¬ e.Through id → h' = h) := by
  cases e with
  | executes s sql =>
    have hhandles := congrArg Prod.fst (Statement.aside_execute sql (s, w)).lobState
    exact ⟨h, (congrArg (·[id]?) hhandles).trans hfound, rfl, fun _ => rfl⟩
  | executesWith s args =>
    obtain ⟨w₁, dropped, hstate, hdropped, hleft⟩ :=
      Statement.exists_dropped_executeWith args s w
    have hfound₁ : w₁.handles[id]? = some h :=
      (congrArg (·[id]?) (congrArg Prod.fst hstate)).trans hfound
    obtain ⟨h', hh', hlob, -⟩ := (fewer_releaseAll w₁ dropped).handle id h hfound₁
    rw [after, hleft]
    refine ⟨h', hh', congrArg Lob.content hlob, fun hother => ?_⟩
    have hsame : (w₁.releaseAll dropped).handles[id]? = w₁.handles[id]? :=
      releaseAll_other fun ref href hid => hother ⟨ref, hdropped ref href, hid⟩
    exact Option.some.inj (hh'.symm.trans (hsame.trans hfound₁))
  | fetches c move =>
    have hadds := Cursor.adds_fetch (fun m k hshows =>
      (stored_of_shows he.1 hshows).trans_le hw.limit_le) (c := c) (w := w) move
    exact ⟨h, hadds.kept id h hfound, rfl, fun _ => rfl⟩
  | uses u =>
    by_cases hid : u.ref.id = id
    · have hthrough : (LobEvent.uses u).Through id := hid
      have hlt := (List.getElem?_eq_some_iff.mp hfound).1
      cases u with
      | call ref c =>
        obtain rfl : ref.id = id := hid
        refine ⟨(leaves (LobHandle.perform c (h, w.server))).1, ?_,
          (LobHandle.called_perform c h w.server).content, fun hother => absurd hthrough hother⟩
        rw [after, use, leaves_call_of_some hfound]
        exact List.getElem?_set_self hlt
      | drop ref =>
        obtain ⟨h', hh', hlob, -⟩ := (fewer_dropAlias w ref).handle id h hfound
        exact ⟨h', hh', congrArg Lob.content hlob, fun hother => absurd hthrough hother⟩
    · exact ⟨h, (use_other hid).trans hfound, rfl, fun _ => rfl⟩

/-- **The content after an event** has the write that is noted of it. -/
theorem content_after (hw : Sharing limit n kind w) (he : Proper limit n kind e) :
    (w.after e).server.content n =
      applied kind (w.server.content n) (write? n kind w e).toList := by
  have hkept (hcontents : (w.after e).server.contents[n]? = w.server.contents[n]?)
      (hother : ∀ ref v h, e = .uses (.call ref (.write v)) → w.handle? ref = some h →
        h.lob.content ≠ n) : (w.after e).server.content n =
          applied kind (w.server.content n) (write? n kind w e).toList := by
    rw [write?_eq_none hother, Option.toList_none, applied_nil, Server.content, Server.content,
      hcontents]
  have hlonger (hgrows : w.server.contents <+: (w.after e).server.contents) :
      (w.after e).server.contents[n]? = w.server.contents[n]? := by
    rw [List.prefix_iff_getElem?.mp hgrows n hw.stored, List.getElem?_eq_getElem hw.stored]
  cases e with
  | executes s sql =>
    have hcontents := congrArg (·.2.1) (Statement.aside_execute sql (s, w)).lobState
    exact hkept (congrArg (·[n]?) hcontents) (by simp)
  | executesWith s args =>
    obtain ⟨w₁, dropped, hstate, -, hleft⟩ := Statement.exists_dropped_executeWith args s w
    have hcontents : w₁.server.contents = w.server.contents := congrArg (·.2.1) hstate
    refine hkept (hlonger ?_) (by simp)
    rw [after, hleft, ← hcontents]
    exact (fewer_releaseAll w₁ dropped).contents
  | fetches c move =>
    exact hkept (hlonger (Cursor.adds_fetch (fun m k hshows =>
      (stored_of_shows he.1 hshows).trans_le hw.limit_le) move).contents) (by simp)
  | uses u =>
    cases u with
    | call ref c =>
      cases hfound : w.handles[ref.id]? with
      | none =>
        refine hkept ?_ ?_
        · rw [after, use, leaves_call_of_none hfound]
        · rintro ref v h ⟨⟩ href
          cases hfound.symm.trans href
      | some h =>
        by_cases hn : h.lob.content = n
        · exact content_call (hw.on ref.id h hfound hn) hfound hn hw.stored c
        · refine hkept ?_ ?_
          · rw [after, use, leaves_call_of_some hfound]
            exact (LobHandle.called_perform c h w.server).elsewhere n (Ne.symm hn)
          · rintro ref v h' ⟨⟩ href
            cases hfound.symm.trans href
            exact hn
    | drop ref =>
      refine hkept ?_ (by simp)
      rw [after, use]
      cases hfound : w.handles[ref.id]? with
      | none => rw [dropAlias_of_none hfound]
      | some h =>
        rw [dropAlias_of_some hfound]
        split <;> rfl

/-! ## Whole runs -/

variable {events : List LobEvent}

theorem Sharing.afterAll (hw : Sharing limit n kind w)
    (hevents : ∀ e ∈ events, Proper limit n kind e) : Sharing limit n kind (w.afterAll events) := by
  induction events generalizing w with
  | nil => exact hw
  | cons e events ih =>
    exact ih (hw.after (hevents e (List.mem_cons_self ..))) fun e' he' =>
      hevents e' (List.mem_cons_of_mem _ he')

/-- **At every moment the content is what the writes made of it.** -/
theorem content_afterAll (hw : Sharing limit n kind w)
    (hevents : ∀ e ∈ events, Proper limit n kind e) :
    (w.afterAll events).server.content n =
      applied kind (w.server.content n) (contentWrites n kind w events) := by
  induction events generalizing w with
  | nil => rw [contentWrites, applied_nil, World.afterAll, List.foldl_nil]
  | cons e events ih =>
    have he := hevents e (List.mem_cons_self ..)
    rw [contentWrites, applied_append, ← content_after hw he]
    exact ih (hw.after he) fun e' he' => hevents e' (List.mem_cons_of_mem _ he')

theorem exists_afterAll (hw : Sharing limit n kind w)
    (hevents : ∀ e ∈ events, Proper limit n kind e) {id : Nat}
    (hfound : w.handles[id]? = some h) :
    ∃ h', (w.afterAll events).handles[id]? = some h' ∧ h'.lob.content = h.lob.content := by
  induction events generalizing w h with
  | nil => exact ⟨h, hfound, rfl⟩
  | cons e events ih =>
    have he := hevents e (List.mem_cons_self ..)
    obtain ⟨h₁, hh₁, hsame, -⟩ := exists_after hw he hfound
    obtain ⟨h', hh', hsame'⟩ := ih (hw.after he)
      (fun e' he' => hevents e' (List.mem_cons_of_mem _ he')) hh₁
    exact ⟨h', hh', hsame'.trans hsame⟩

/-- All who wrote to a content have handles on it. -/
theorem exists_writer (hw : Sharing limit n kind w)
    (hevents : ∀ e ∈ events, Proper limit n kind e) {write : LobWrite kind}
    (hwrite : write ∈ contentWrites n kind w events) :
    ∃ h, (w.afterAll events).handles[write.writer]? = some h ∧ h.lob.content = n := by
  induction events generalizing w with
  | nil => cases hwrite
  | cons e events ih =>
    have hrest : ∀ e' ∈ events, Proper limit n kind e' := fun e' he' =>
      hevents e' (List.mem_cons_of_mem _ he')
    rw [contentWrites] at hwrite
    rcases List.mem_append.mp hwrite with hnow | hlater
    · obtain ⟨ref, v, h, -, href, hn, hwriter⟩ := exists_of_write? (Option.mem_toList.mp hnow)
      obtain ⟨h', hh', hsame⟩ := exists_afterAll hw hevents href
      rw [hwriter]
      exact ⟨h', hh', hsame.trans hn⟩
    · exact ih (hw.after (hevents e (List.mem_cons_self ..))) hrest hlater

/-! ## Uses without writes -/

theorem contents_use {u : LobUse} (hu : ∀ ref value, u ≠ .call ref (.write value)) :
    (w.use u).server.contents = w.server.contents := by
  cases u with
  | call ref c =>
    rw [use]
    cases hused : w.handles[ref.id]? with
    | none => rw [leaves_call_of_none hused]
    | some x =>
      rw [leaves_call_of_some hused]
      refine (LobHandle.called_perform c x w.server).unwritten ?_
      rintro value rfl
      exact hu ref value rfl
  | drop ref =>
    rw [use]
    cases hused : w.handles[ref.id]? with
    | none => rw [dropAlias_of_none hused]
    | some x =>
      rw [dropAlias_of_some hused]
      split <;> rfl

/-- **A call depends on the handle and the contents alone**; it says the same and leaves the same
handle in two worlds that agree on them. -/
theorem call_same {v : ClientWorld} (hcontents : v.server.contents = w.server.contents)
    (hsame : v.handles[ref.id]? = w.handles[ref.id]?) (c : LobCall) :
    answered (v.call ref c) = answered (w.call ref c) ∧
      (leaves (v.call ref c)).handles[ref.id]? = (leaves (w.call ref c)).handles[ref.id]? := by
  cases hfound : w.handles[ref.id]? with
  | none =>
    have hfound' := hsame.trans hfound
    have hrefused (x : ClientWorld) (hx : x.handles[ref.id]? = none) :
        answered (x.call ref c) = .error .lobClosed := by
      simp only [World.call, World.onHandle, World.handle?, hx, answered]
    rw [hrefused v hfound', hrefused w hfound, leaves_call_of_none hfound',
      leaves_call_of_none hfound]
    exact ⟨rfl, hsame⟩
  | some h =>
    have hfound' := hsame.trans hfound
    have hcontent : v.server.content h.lob.content = w.server.content h.lob.content := by
      rw [Server.content, hcontents, Server.content]
    have hagrees := LobHandle.agrees_perform hcontent c
    have hleft := hagrees.handle
    rw [LobHandle.moved_eq_self (LobHandle.called_perform c h w.server).content] at hleft
    rw [answered_call hfound', answered_call hfound, leaves_call_of_some hfound',
      leaves_call_of_some hfound, List.getElem?_set_self (List.getElem?_eq_some_iff.mp hfound').1,
      List.getElem?_set_self (List.getElem?_eq_some_iff.mp hfound).1]
    exact ⟨hagrees.answer, congrArg some hleft⟩

theorem dropAlias_same {v : ClientWorld} (hsame : v.handles[ref.id]? = w.handles[ref.id]?) :
    (v.dropAlias ref).handles[ref.id]? = (w.dropAlias ref).handles[ref.id]? := by
  cases hfound : w.handles[ref.id]? with
  | none =>
    rw [dropAlias_of_none hfound, dropAlias_of_none (hsame.trans hfound)]
    exact hsame
  | some h =>
    have hfound' := hsame.trans hfound
    have hset {x : ClientWorld} (hx : x.handles[ref.id]? = some h) (h' : LobHandle Lob) :
        (x.handles.set ref.id h')[ref.id]? = some h' :=
      List.getElem?_set_self (List.getElem?_eq_some_iff.mp hx).1
    rw [dropAlias_of_some hfound, dropAlias_of_some hfound']
    split <;> exact (hset hfound' _).trans (hset hfound _).symm

/-- **So does every use.** -/
theorem use_same {v : ClientWorld} (u : LobUse) (hcontents : v.server.contents = w.server.contents)
    (hsame : v.handles[u.ref.id]? = w.handles[u.ref.id]?) :
    v.said u = w.said u ∧ (v.use u).handles[u.ref.id]? = (w.use u).handles[u.ref.id]? := by
  cases u with
  | call ref c =>
    obtain ⟨hsaid, hleft⟩ := call_same hcontents hsame c
    exact ⟨congrArg some hsaid, hleft⟩
  | drop ref => exact ⟨rfl, dropAlias_same hsame⟩

/-- The world after uses. -/
def useAll (w : ClientWorld) (uses : List LobUse) : ClientWorld := uses.foldl use w

/-- **Without writes a handle is told what it is told alone**, and is left as it is left alone. -/
theorem answers_of_unwritten {v : ClientWorld} {uses : List LobUse} {id : Nat}
    (hcontents : v.server.contents = w.server.contents) (hsame : v.handles[id]? = w.handles[id]?)
    (hunwritten : ∀ u ∈ uses, ∀ ref value, u ≠ .call ref (.write value)) :
    answers id v (uses.filter fun u => u.ref.id = id) = answers id w uses ∧
      (v.useAll (uses.filter fun u => u.ref.id = id)).handles[id]? =
        (w.useAll uses).handles[id]? := by
  induction uses generalizing v w with
  | nil => exact ⟨rfl, hsame⟩
  | cons u uses ih =>
    have hrest : ∀ u' ∈ uses, ∀ ref value, u' ≠ .call ref (.write value) := fun u' hu' =>
      hunwritten u' (List.mem_cons_of_mem _ hu')
    have hkept := contents_use (w := w) (hunwritten u (List.mem_cons_self ..))
    by_cases hid : u.ref.id = id
    · obtain rfl := hid
      obtain ⟨hsaid, hsame'⟩ := use_same u hcontents hsame
      have hkept' := contents_use (w := v) (hunwritten u (List.mem_cons_self ..))
      obtain ⟨hanswers, hleft⟩ := ih (hkept'.trans (hcontents.trans hkept.symm)) hsame' hrest
      rw [List.filter_cons_of_pos (by simp), answers, answers, if_pos rfl, if_pos rfl, hsaid, hanswers]
      exact ⟨rfl, hleft⟩
    · have hsame' : v.handles[id]? = (w.use u).handles[id]? := hsame.trans (use_other hid).symm
      obtain ⟨hanswers, hleft⟩ := ih (hcontents.trans hkept.symm) hsame' hrest
      rw [List.filter_cons_of_neg (by simpa using hid), answers, if_neg hid, List.nil_append]
      exact ⟨hanswers, hleft⟩

/-! ## What handles share -/

/-- **A handle sees its content and nothing else**: it says what it would say if it were the only
handle there is, on a content that has the same bytes. -/
theorem call_alone (href : w.handle? ref = some h) (c : LobCall) :
    answered (w.call ref c) =
      answered ((alone h (w.server.content h.lob.content)).call ⟨0, h.kind⟩ c) := by
  have hcontent : ({ Server.empty with contents := [w.server.content h.lob.content] } :
      Server).content 0 = w.server.content h.lob.content := rfl
  have hfound : (alone h (w.server.content h.lob.content)).handle? ⟨0, h.kind⟩ =
      some (h.moved 0) := rfl
  rw [answered_call href, answered_call hfound]
  exact (LobHandle.agrees_perform hcontent c).answer.symm

/-- **What handles on content `n` share**, and what they do not, after events that began in world
`w`. -/
structure SharesContent (n : Nat) (kind : LobKind) (w : ClientWorld) (events : List LobEvent) :
    Prop where
  /-- The content is what the writes made of it, each in its turn and at the position of the handle
  that wrote. -/
  content : (w.afterAll events).server.content n =
    applied kind (w.server.content n) (contentWrites n kind w events)
  /-- This is what every handle on it sees, from its own position. -/
  sees : ∀ ref h, (w.afterAll events).handle? ref = some h → h.lob.content = n →
    ∀ c, answered ((w.afterAll events).call ref c) =
      answered ((alone h (applied kind (w.server.content n) (contentWrites n kind w events))).call
        ⟨0, h.kind⟩ c)
  /-- A handle is the same after all that is not done through it. -/
  untouched : ∀ e ref h, Proper w.server.contents.length n kind e → ¬ e.Through ref.id →
    (w.afterAll events).handle? ref = some h → ((w.afterAll events).after e).handle? ref = some h
  /-- Without writes a handle says what it says without the uses of the others. -/
  unwritten : ∀ (uses : List LobUse) (ref : LobRef),
    (∀ u ∈ uses, ∀ ref value, u ≠ .call ref (.write value)) →
    answers ref.id (w.afterAll events) uses =
        answers ref.id (w.afterAll events) (uses.filter fun u => u.ref.id = ref.id) ∧
      ((w.afterAll events).useAll uses).handle? ref =
        ((w.afterAll events).useAll (uses.filter fun u => u.ref.id = ref.id)).handle? ref
  /-- A LOB cell gives a handle on its own content. -/
  shared : ∀ c move row c' w' (i : Nat) ref, Proper w.server.contents.length n kind (.fetches c move) →
    Cursor.fetch move (c, w.afterAll events) = .ok (some row) (c', w') →
    row.values[i]? = some (.lob ref) → c'.rows.cell (i + 1) = .ok (.lob n) →
    w'.handle? ref = some (.new (.new n kind) kind)
  /-- Any other cell gives a handle on a copy of its bytes, which is written by this handle only,
  and which no other handle comes to. -/
  copied : ∀ c move row c' w' (i : Nat) ref cell, Proper w.server.contents.length n kind (.fetches c move) →
    Cursor.fetch move (c, w.afterAll events) = .ok (some row) (c', w') →
    row.values[i]? = some (.lob ref) → c'.rows.cell (i + 1) = .ok cell → (∀ m, cell ≠ .lob m) →
    ∃ m, w'.handle? ref = some (.new (.new m ref.kind) ref.kind) ∧
      ∀ later : List LobEvent, (∀ e ∈ later, e.Stored w.server.contents.length) →
        (w'.afterAll later).server.content m =
            applied ref.kind (cell.lobBytes (w.afterAll events).server)
              (contentWrites m ref.kind w' later) ∧
          (∀ write ∈ contentWrites m ref.kind w' later, write.writer = ref.id) ∧
          ∀ (other : LobRef) h, (w'.afterAll later).handle? other = some h → h.lob.content = m →
            other.id = ref.id

/-- A handle that a fetched row has. -/
theorem opensHandle_of_fetch {c c' : Cursor ResultSet} {move : Seek} {row : Row} {i : Nat}
    {cell : Cell} (hstored : c.rows.Stored limit) (hlimit : limit ≤ w.server.contents.length)
    (hfetch : Cursor.fetch move (c, w) = .ok (some row) (c', w'))
    (hvalue : row.values[i]? = some (.lob ref)) (hcell : c'.rows.cell (i + 1) = .ok cell) :
    ∃ kind m, OpensHandle w w' cell kind ref m := by
  have hdecoded := Cursor.decoded_of_fetch hstored hlimit hfetch
  have hlt : i < c'.columns.length := hdecoded.length ▸ (List.getElem?_eq_some_iff.mp hvalue).1
  obtain ⟨cell', hcell', hfaithful⟩ :=
    hdecoded.faithful i _ _ (List.getElem?_eq_getElem hlt) hvalue
  have hshown := Cursor.cell_of_shown hcell'
  rw [Nat.add_comm] at hshown
  cases hshown.symm.trans hcell
  obtain ⟨kind, m, -, hopens⟩ := hfaithful.opens ref rfl
  exact ⟨kind, m, hopens⟩

/-- A content beyond the limit is shown by no cell. -/
theorem proper_of_limit_le {m : Nat} {kind' : LobKind} (hm : limit ≤ m) (he : e.Stored limit) :
    Proper limit m kind' e := by
  refine ⟨he, ?_⟩
  cases e with
  | fetches c move =>
    exact fun k hshows => absurd (stored_of_shows he hshows) (Nat.not_lt.mpr hm)
  | executes | executesWith | uses => trivial

/-- **A copy is private.** -/
theorem Sharing.copied (hw : Sharing limit n kind w) {m : Nat} {content : Bytes} {kind' : LobKind}
    (href : w.handle? ref = some (.new (.new m kind') kind')) (hstored : m < w.server.contents.length)
    (hcontent : w.server.content m = content) (hm : limit ≤ m) {later : List LobEvent}
    (hlater : ∀ e ∈ later, e.Stored limit) :
    (w.afterAll later).server.content m =
        applied kind' content (contentWrites m kind' w later) ∧
      (∀ write ∈ contentWrites m kind' w later, write.writer = ref.id) ∧
      ∀ (other : LobRef) h, (w.afterAll later).handle? other = some h → h.lob.content = m →
        other.id = ref.id := by
  have hcopy : Sharing limit m kind' w := by
    refine ⟨hw.limit_le, hstored, hw.backed, fun id h hh hcontent => ?_, hw.apart⟩
    -- the handle that was opened is the only one
    obtain rfl := hw.apart id ref.id h _ hh href hcontent (hcontent.symm ▸ hm)
    cases hh.symm.trans href
    exact ⟨rfl, rfl, rfl, fun _ _ => Nat.zero_le _⟩
  have hproper : ∀ e ∈ later, Proper limit m kind' e := fun e he =>
    proper_of_limit_le hm (hlater e he)
  have hafter := hcopy.afterAll hproper
  obtain ⟨h', hh', hsame⟩ := exists_afterAll hcopy hproper href
  have hown {id : Nat} {h : LobHandle Lob} (hh : (w.afterAll later).handles[id]? = some h)
      (hcontent : h.lob.content = m) : id = ref.id :=
    hafter.apart id ref.id h h' hh hh' (hcontent.trans hsame.symm) (hcontent.symm ▸ hm)
  refine ⟨hcontent ▸ content_afterAll hcopy hproper, fun write hwrite => ?_,
    fun other h hh hcontent => hown hh hcontent⟩
  obtain ⟨h, hh, hcontent⟩ := exists_writer hcopy hproper hwrite
  exact hown hh hcontent

/-- **Handles on one LOB cell share its content and nothing else**, and handles on other cells share
nothing.  Content `n` is one that no handle is on yet, and then SQL texts are executed, with
arguments or without, rows are fetched and handles are used in any order, so that all handles on
this content are of one kind. -/
theorem sharesContent {w : ClientWorld} {n : Nat} {kind : LobKind} {events : List LobEvent}
    (stored : n < w.server.contents.length) (backed : w.Backed)
    (unopened : ∀ ref h, w.handle? ref = some h → h.lob.content ≠ n)
    (proper : ∀ e ∈ events, Proper w.server.contents.length n kind e) :
    SharesContent n kind w events := by
  have hstart : Sharing w.server.contents.length n kind w := by
    refine ⟨le_refl _, stored, backed, fun id h hh hn => ?_, fun i j g h hg _ _ hlimit => ?_⟩
    · exact absurd hn (unopened ⟨id, kind⟩ h hh)
    · exact absurd (backed i g hg) (Nat.not_lt.mpr hlimit)
  have hnow := hstart.afterAll proper
  have hcontent := content_afterAll hstart proper
  have hfetched {c c' : Cursor ResultSet} {move : Seek} {row : Row} {w' : ClientWorld}
      (he : Proper w.server.contents.length n kind (.fetches c move))
      (hfetch : Cursor.fetch move (c, w.afterAll events) = .ok (some row) (c', w')) :
      Sharing w.server.contents.length n kind w' := by
    have hafter := hnow.after he
    rwa [World.after, hfetch, leaves_ok] at hafter
  refine ⟨hcontent, fun ref h href hn c => ?_, fun e ref h he hother href => ?_,
    fun uses ref hunwritten => ?_, fun c move row c' w' i ref he hfetch hvalue hcell => ?_,
    fun c move row c' w' i ref cell he hfetch hvalue hcell hplain => ?_⟩
  · rw [call_alone href, hn, hcontent]
  · obtain ⟨h', hh', -, hsame⟩ := exists_after hnow he href
    rw [← hsame hother]
    exact hh'
  · obtain ⟨hanswers, hleft⟩ := answers_of_unwritten rfl rfl hunwritten
    exact ⟨hanswers.symm, hleft.symm⟩
  · obtain ⟨kind', m, hopens⟩ := opensHandle_of_fetch he.1 hnow.limit_le hfetch hvalue hcell
    obtain rfl := hopens.shared n rfl
    obtain rfl : ref.kind = kind := ((hfetched he hfetch).on ref.id _ hopens.handle rfl).kind_eq
    exact hopens.handle
  · obtain ⟨kind', m, hopens⟩ := opensHandle_of_fetch he.1 hnow.limit_le hfetch hvalue hcell
    exact ⟨m, hopens.handle, fun later hlater => (hfetched he hfetch).copied hopens.handle
      hopens.stored hopens.content (hnow.limit_le.trans (hopens.own hplain)) hlater⟩

/-- Two rows show one text as a large object, and another text as plain text.  The first handle
writes a wider character over both of its characters and one behind, the second reads; one is closed,
and the other is dropped.  A handle on the plain text is written and changes nothing, and an output
is written over another handle on it, which closes that one alone. -/
theorem sharesContent_text :
    let descriptions : List ColumnDescription :=
      [.ofLength "C" SqlType.clobUnicode.code 10, .ofLength "D" SqlType.clobUnicode.code 10]
    let rows (position : Nat) : ResultSet :=
      { columns := descriptions
        rows := [[.lob 0, .text "xy"], [.lob 0, .text "xy"]]
        position, isForwardOnly := false, isClosed := false }
    let c (position : Nat) : Cursor ResultSet :=
      { rows := rows position
        columns := descriptions.filterMap fun d => (Column.ofDescription d).toOption
        buffer := .new 0, standing := .onRow, isClosed := false }
    let w : ClientWorld := ⟨{ Server.empty.register "CALL P(?)"
      ⟨.call fun _ => .ok [.text "out"], [ParameterDescription.ofLength 31 10 .output], none⟩ with
        contents := [Utf8.encode "aé"] }, []⟩
    let p : Parameter := ⟨none, .varcharAscii, 10, 10, 0, 10, ⟨.text, .output, .new 40⟩⟩
    let s : Statement :=
      ⟨some ⟨{ Handle.new with prepared := some "CALL P(?)" }, some ⟨[p], false, []⟩⟩, none, .empty⟩
    let text (id : Nat) : LobRef := ⟨id, .character⟩
    let events : List LobEvent :=
      [.fetches (c 0) .next, .uses (.call (text 0) (.write (.text "€"))), .fetches (c 1) .next,
        .uses (.call (text 2) (.read (some 2) 8)), .uses (.call (text 0) (.write (.text "€€"))),
        .uses (.call (text 1) (.write (.text "z"))), .uses (.call (text 0) .close),
        .uses (.call (text 2) (.write (.text "!"))), .executesWith s (.positional [.lob (text 3)]),
        .uses (.drop (text 2))]
    SharesContent 0 .character w events ∧
      (w.afterAll events).server.contents =
        [Utf8.encode "€€!", Utf8.encode "zy", Utf8.encode "xy"] ∧
      (w.afterAll events).handles.map (·.isOpen) = [false, true, false, false] := by
  intro descriptions rows c w p s text events
  have hnone (id : Nat) (h : LobHandle Lob) : w.handles[id]? ≠ some h := by simp [w]
  have hfetches (position : Nat) (move : Seek) :
      Proper w.server.contents.length 0 .character (.fetches (c position) move) := by
    refine ⟨by simp [LobEvent.Stored, c, rows, w, ResultSet.Stored, Cell.Stored], ?_⟩
    rintro kind ⟨-, -, i, column, -, hcolumn, hkind⟩
    have hcolumns : ∀ column ∈ (c 0).columns, column.hostType.lobKind? = some .character := by
      decide +kernel
    have hmem : column ∈ (c 0).columns := List.mem_of_getElem? hcolumn
    exact Option.some.inj (hkind.symm.trans (hcolumns column hmem))
  refine ⟨sharesContent Nat.one_pos (fun id h hh => absurd hh (hnone id h))
    (fun ref h href => absurd href (hnone ref.id h)) fun e he => ?_, by decide +kernel,
    by decide +kernel⟩
  simp only [events, List.mem_cons, List.not_mem_nil, or_false] at he
  rcases he with rfl | rfl | rfl | rfl | rfl | rfl | rfl | rfl | rfl | rfl
  · exact hfetches 0 .next
  · exact ⟨trivial, trivial⟩
  · exact hfetches 1 .next
  all_goals exact ⟨trivial, trivial⟩

end World
end SqlClient
