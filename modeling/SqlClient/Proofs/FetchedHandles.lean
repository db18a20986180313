import SqlClient.Proofs.RowFidelity

/-! # What fetching adds

Fetching a row adds contents and handles, and touches none that there were, not even when the row
fails and what was opened for it is dropped (`World.Adds`).  A handle that is added is at the start
of a content that the row shows as a large object of its kind, or else of a copy that no other
handle has.
-/
namespace SqlClient

open Scripted

/-- A cursor shows a content under a column of a kind of large objects. -/
def Cursor.Shows (c : Cursor ResultSet) (n : Nat) (kind : LobKind) : Prop :=
  ∃ cells ∈ c.rows.rows, ∃ (i : Nat) (column : Column), cells[i]? = some (.lob n) ∧
    c.columns[i]? = some column ∧ column.hostType.lobKind? = some kind

namespace World

/-- **Handles and contents were added**, where `shows` are the contents that are shown with the kinds
under which they are. -/
structure Adds (shows : Nat → LobKind → Prop) (w w' : ClientWorld) : Prop where
  contents : w.server.contents <+: w'.server.contents
  kept : ∀ (id : Nat) (h : LobHandle Lob), w.handles[id]? = some h → w'.handles[id]? = some h
  /-- A new handle is at the start of its content. -/
  fresh : ∀ (id : Nat) (h : LobHandle Lob), w'.handles[id]? = some h → w.handles.length ≤ id →
    h.lob = .new h.lob.content h.kind
  content : ∀ (id : Nat) (h : LobHandle Lob), w'.handles[id]? = some h → w.handles.length ≤ id →
    shows h.lob.content h.kind ∨
      w.server.contents.length ≤ h.lob.content ∧ h.lob.content < w'.server.contents.length
  /-- A new content belongs to one handle. -/
  apart : ∀ (i j : Nat) (g h : LobHandle Lob), w'.handles[i]? = some g → w'.handles[j]? = some h →
    w.handles.length ≤ i → w.handles.length ≤ j → g.lob.content = h.lob.content →
    w.server.contents.length ≤ g.lob.content → i = j

namespace Adds

variable {shows : Nat → LobKind → Prop} {w₀ w w' : ClientWorld} {n : Nat} {kind : LobKind}

theorem of_lobState_eq (hstate : w.lobState = w₀.lobState) : Adds shows w₀ w := by
  simp only [lobState, Server.lobState, Prod.mk.injEq] at hstate
  obtain ⟨hhandles, hcontents, -⟩ := hstate
  -- no handle has a number beyond those there were
  have hnone {id : Nat} {h : LobHandle Lob} (hfound : w.handles[id]? = some h)
      (hid : w₀.handles.length ≤ id) : False := by
    have hlt := (List.getElem?_eq_some_iff.mp hfound).1
    rw [hhandles] at hlt
    exact absurd hlt (Nat.not_lt.mpr hid)
  exact ⟨hcontents ▸ List.prefix_rfl, fun _ _ hfound => hhandles ▸ hfound,
    fun _ _ hfound hid => (hnone hfound hid).elim, fun _ _ hfound hid => (hnone hfound hid).elim,
    fun _ _ _ _ hfound _ hid => (hnone hfound hid).elim⟩

theorem refl (w : ClientWorld) : Adds shows w w := of_lobState_eq rfl

theorem length_le (hadds : Adds shows w₀ w) : w₀.handles.length ≤ w.handles.length := by
  cases hlength : w₀.handles.length with
  | zero => exact Nat.zero_le _
  | succ last =>
    have hlast : last < w₀.handles.length := by omega
    have hkept := hadds.kept last _ (List.getElem?_eq_getElem hlast)
    exact (List.getElem?_eq_some_iff.mp hkept).1

section Steps
variable (hshows : ∀ m k, shows m k → m < w₀.server.contents.length)
include hshows

/-- **One handle more**, on a content that is shown or on one that was just added. -/
theorem enter (hadds : Adds shows w₀ w) {server : Server}
    (hcontents : w.server.contents <+: server.contents)
    (hn : shows n kind ∨ w.server.contents.length ≤ n ∧ n < server.contents.length) :
    Adds shows w₀ (World.enter { w with server } (.new n kind) kind).2 := by
  have hle := hadds.contents.length_le
  have hfound {id : Nat} {h : LobHandle Lob}
      (hh : (World.enter { w with server } (Lob.new n kind) kind).2.handles[id]? = some h) :
      w.handles[id]? = some h ∨ id = w.handles.length ∧ h = .new (.new n kind) kind := by
    simp only [World.enter, List.getElem?_append] at hh
    split at hh
    · exact .inl hh
    · rw [List.getElem?_singleton] at hh
      split at hh
      · exact .inr ⟨by omega, (Option.some.inj hh).symm⟩
      · cases hh
  -- a handle that was there has a content that was there
  have hold {id : Nat} {h : LobHandle Lob} (hh : w.handles[id]? = some h)
      (hid : w₀.handles.length ≤ id) : h.lob.content < w.server.contents.length := by
    rcases hadds.content id h hh hid with hshown | ⟨-, hlt⟩
    · exact Nat.lt_of_lt_of_le (hshows _ _ hshown) hle
    · exact hlt
  refine ⟨hadds.contents.trans hcontents, fun id h hh => ?_, fun id h hh hid => ?_,
    fun id h hh hid => ?_, fun i j g h hg hh hi hj hsame hnew => ?_⟩
  · have hkept := hadds.kept id h hh
    exact (List.getElem?_append_left (List.getElem?_eq_some_iff.mp hkept).1).trans hkept
  · rcases hfound hh with hh | ⟨-, rfl⟩
    · exact hadds.fresh id h hh hid
    · rfl
  · rcases hfound hh with hh | ⟨-, rfl⟩
    · exact (hadds.content id h hh hid).imp_right
        (And.imp_right fun hlt => hlt.trans_le hcontents.length_le)
    · exact hn.imp_right (And.imp_left hle.trans)
  · -- the content of the new handle is shown, or behind those of the handles before
    have hnone {id : Nat} {x : LobHandle Lob} (hx : w.handles[id]? = some x)
        (hid : w₀.handles.length ≤ id) (hxn : x.lob.content = n)
        (hnew : w₀.server.contents.length ≤ n) : False := by
      have hlt := hold hx hid
      rcases hn with hshown | ⟨hge, -⟩
      · have := hshows _ _ hshown
        omega
      · omega
    rcases hfound hg with hg | ⟨rfl, rfl⟩ <;> rcases hfound hh with hh | ⟨rfl, rfl⟩
    · exact hadds.apart i j g h hg hh hi hj hsame hnew
    · rw [hsame] at hnew
      exact (hnone hg hi hsame hnew).elim
    · exact (hnone hh hj hsame.symm hnew).elim
    · rfl

omit hshows in
/-- A new handle is dropped. -/
theorem dropAlias (hadds : Adds shows w₀ w) {ref : LobRef} (href : w₀.handles.length ≤ ref.id) :
    Adds shows w₀ (w.dropAlias ref) := by
  cases hfound : w.handles[ref.id]? with
  | none => rwa [dropAlias_of_none hfound]
  | some x =>
    have hset (server : Server) (hcontents : server.contents = w.server.contents)
        (aliases : Nat) (isOpen : Bool) :
        Adds shows w₀ ⟨server, w.handles.set ref.id { x with aliases, isOpen }⟩ := by
      have hbefore {id : Nat} {h : LobHandle Lob}
          (hh : (w.handles.set ref.id { x with aliases, isOpen })[id]? = some h) :
          ∃ h', w.handles[id]? = some h' ∧ h'.lob = h.lob ∧ h'.kind = h.kind := by
        rcases getElem?_set_cases hh with ⟨rfl, rfl⟩ | ⟨-, hh⟩
        · exact ⟨x, hfound, rfl, rfl⟩
        · exact ⟨h, hh, rfl, rfl⟩
      refine ⟨hcontents ▸ hadds.contents, fun id h hh => ?_, fun id h hh hid => ?_,
        fun id h hh hid => ?_, fun i j g h hg hh hi hj hsame hnew => ?_⟩
      · have hlt := (List.getElem?_eq_some_iff.mp hh).1
        exact (List.getElem?_set_ne (by omega)).trans (hadds.kept id h hh)
      · obtain ⟨h', hh', hlob, hkind⟩ := hbefore hh
        rw [← hlob, ← hkind]
        exact hadds.fresh id h' hh' hid
      · obtain ⟨h', hh', hlob, hkind⟩ := hbefore hh
        rw [← hlob, ← hkind, hcontents]
        exact hadds.content id h' hh' hid
      · obtain ⟨g', hg', hglob, -⟩ := hbefore hg
        obtain ⟨h', hh', hhlob, -⟩ := hbefore hh
        exact hadds.apart i j g' h' hg' hh' hi hj (by rw [hglob, hhlob, hsame]) (by rwa [hglob])
    rw [dropAlias_of_some hfound]
    split
    · exact hset { w.server with closedLobs := w.server.closedLobs + 1 } rfl _ false
    · exact hset w.server rfl _ x.isOpen

omit hshows in
theorem releaseAll (hadds : Adds shows w₀ w) {vs : List Value}
    (hvs : ∀ ref, .lob ref ∈ vs → w₀.handles.length ≤ ref.id) : Adds shows w₀ (w.releaseAll vs) := by
  induction vs generalizing w with
  | nil => exact hadds
  | cons v vs ih =>
    refine ih ?_ fun ref href => hvs ref (List.mem_cons_of_mem _ href)
    cases v with
    | lob ref => exact hadds.dropAlias (hvs ref (List.mem_cons_self ..))
    | null | int32 | int64 | double | text | bytes => exact hadds

/-- A cell is decoded. -/
theorem decode (hadds : Adds shows w₀ w) {cell : Cell} {column : Column} {v : Value}
    (hcell : ∀ m k, cell = .lob m → column.hostType.lobKind? = some k → shows m k)
    (h : cell.decode column w = .ok v w') :
    Adds shows w₀ w' ∧ ∀ ref, v = .lob ref → w₀.handles.length ≤ ref.id := by
  cases hkind : column.hostType.lobKind? with
  | none =>
    rw [Cell.decode_of_scalar hkind] at h
    split at h
    · rename_i u hu
      cases h
      refine ⟨hadds, ?_⟩
      rintro ref rfl
      obtain ⟨b', -, hdecode⟩ := bind_eq_ok hu
      cases Buffer.lob?_of_decode hdecode
    · cases h
  | some kind =>
    rw [Cell.decode_of_lob hkind] at h
    by_cases hnull : cell = .null
    · subst hnull
      cases h
      exact ⟨hadds, by rintro _ ⟨⟩⟩
    · rcases ResultSet.lobContent_cases w.server hnull with ⟨m, rfl, hlob⟩ | ⟨-, hlob⟩
      · rw [hlob] at h
        cases h
        refine ⟨hadds.enter hshows List.prefix_rfl (.inl (hcell m kind rfl hkind)), ?_⟩
        rintro _ ⟨⟩
        exact hadds.length_le
      · rw [hlob] at h
        cases h
        refine ⟨hadds.enter hshows (List.prefix_append ..) (.inr ⟨le_refl _, by simp⟩), ?_⟩
        rintro _ ⟨⟩
        exact hadds.length_le

/-- **Columns are decoded**, or fail. -/
theorem decodeCells (hadds : Adds shows w₀ w) {cell : Nat → Except Error Cell} {number : Nat}
    {decoded : List Value} {columns : List Column}
    (hdecoded : ∀ ref, .lob ref ∈ decoded → w₀.handles.length ≤ ref.id)
    (hcell : ∀ i column m k, columns[i]? = some column → cell (number + i) = .ok (.lob m) →
      column.hostType.lobKind? = some k → shows m k) :
    Adds shows w₀ (leaves (Scripted.decodeCells cell number decoded columns w)) := by
  have hreleased (w : ClientWorld) (hadds : Adds shows w₀ w) :
      Adds shows w₀ (w.releaseAll decoded.reverse) :=
    hadds.releaseAll fun ref href => hdecoded ref (List.mem_reverse.mp href)
  induction columns generalizing number decoded w with
  | nil => exact hadds
  | cons column rest ih =>
    rw [Scripted.decodeCells]
    cases hc : cell number with
    | error e => exact hreleased w hadds
    | ok c =>
      simp only
      cases hdecode : c.decode column w with
      | error e w₁ =>
        obtain rfl := Cell.decode_eq_error hdecode
        exact hreleased w₁ hadds
      | ok v w₁ =>
        obtain ⟨hadds₁, hv⟩ := hadds.decode hshows (fun m k hm hk =>
          hcell 0 column m k rfl (by rw [Nat.add_zero, hc, hm]) hk) hdecode
        have hall (ref : LobRef) (href : .lob ref ∈ v :: decoded) : w₀.handles.length ≤ ref.id := by
          rcases List.mem_cons.mp href with hhead | htail
          · exact hv ref hhead.symm
          · exact hdecoded ref htail
        refine ih hadds₁ hall (fun i column' m k hcolumn hm hk => ?_) fun w hadds =>
          hadds.releaseAll fun ref href => hall ref (List.mem_reverse.mp href)
        rw [show number + 1 + i = number + (i + 1) by omega] at hm
        exact hcell (i + 1) column' m k hcolumn hm hk

end Steps
end Adds
end World

namespace Cursor

variable {c c' : Cursor ResultSet} {w w' : ClientWorld} {move : Seek}

/-- What a result set shows is in one of its rows. -/
theorem shows_of_shown {i m : Nat} {column : Column} {kind : LobKind}
    (hshown : c.rows.shown (1 + i) = .ok (.lob m)) (hcolumn : c.columns[i]? = some column)
    (hkind : column.hostType.lobKind? = some kind) : c.Shows m kind := by
  obtain ⟨cells, hcells, index, hindex, hcell⟩ := ResultSet.exists_of_shown hshown
  obtain rfl : i = index := by omega
  exact ⟨cells, hcells, i, column, hcell, hcolumn, hkind⟩

/-- A cursor that was moved has the same rows and columns. -/
theorem shows_seek {n : Nat} {kind : LobKind} (h : (leaves (seek move (c, w))).1.Shows n kind) :
    c.Shows n kind := by
  have hcolumns : (leaves (seek move (c, w))).1.columns = c.columns :=
    congrArg (·.2.2) (table_seek move c w)
  rwa [Shows, rows_seek, hcolumns] at h

/-- **A row that is fetched** was decoded by the cursor after its move. -/
theorem fetch_cases (move : Seek) (c : Cursor ResultSet) (w : ClientWorld) :
    (leaves (fetch move (c, w))).2 = w ∧ (∀ row state, fetch move (c, w) ≠ .ok (some row) state) ∨
      ∃ c', (leaves (seek move (c, w))).1 = c' ∧
        fetch move (c, w) = ((do return some (← decodeRow)) :
          EStateM Error (Cursor ResultSet × ClientWorld) (Option Row)) (c', w) := by
  have hworld := leaves_seek move c w
  rw [fetch]
  cases hseek : seek move (c, w) with
  | error e state =>
    rw [hseek] at hworld
    rw [run_bind_error hseek]
    exact .inl ⟨hworld, by simp⟩
  | ok outcome state =>
    obtain ⟨c', w'⟩ := state
    rw [hseek] at hworld
    obtain rfl : w' = w := hworld
    rw [run_bind_ok hseek]
    cases outcome with
    | pastEdge => exact .inl ⟨rfl, by simp⟩
    | onRow =>
      by_cases hrow : c'.standing = .onRow
      · exact .inr ⟨c', rfl, current_of_onRow hrow w'⟩
      · refine .inl ?_
        simp only [current_of_not_onRow hrow]
        exact ⟨rfl, by simp⟩

/-- **What a fetch adds.** -/
theorem adds_fetch (hshows : ∀ m k, c.Shows m k → m < w.server.contents.length) (move : Seek) :
    World.Adds c.Shows w (leaves (fetch move (c, w))).2 := by
  rcases fetch_cases move c w with ⟨hworld, -⟩ | ⟨c', hc', hfetch⟩
  · rw [hworld]
    exact .refl w
  · obtain ⟨buffer, hrow⟩ := decodeRow_eq c' w
    have hrefl : World.Adds c.Shows w w := .refl w
    have hadds : World.Adds c.Shows w
        (leaves (Scripted.decodeCells c'.rows.shown 1 [] c'.columns w)) :=
      hrefl.decodeCells hshows (by simp) fun i column m k hcolumn hm hk =>
        shows_seek (hc' ▸ shows_of_shown hm hcolumn hk)
    rw [hfetch, leaves_bind_pure, hrow, leaves_withRead, leaves_bind_pure]
    exact hadds

/-- **What a fetched row has is decoded** from the row that the cursor came to. -/
theorem decoded_of_fetch {limit : Nat} {row : Row} (hstored : c.rows.Stored limit)
    (hlimit : limit ≤ w.server.contents.length)
    (hfetch : fetch move (c, w) = .ok (some row) (c', w')) :
    Decoded w w' c'.rows.shown 1 c'.columns row.values := by
  rcases fetch_cases move c w with ⟨-, hnone⟩ | ⟨c₁, hc₁, hrow⟩
  · exact absurd hfetch (hnone row _)
  · have hstored₁ : c₁.rows.Stored w.server.contents.length := by
      rw [← hc₁, ResultSet.Stored, rows_seek]
      exact fun cells hcells cell hcell => (hstored cells hcells cell hcell).mono hlimit
    rw [hrow] at hfetch
    rcases decodeRow_cases hstored₁ with ⟨vs, c₂, w₂, hdecode, -, hdecoded⟩ | ⟨e, state, k, hdecode, -⟩
    · rw [run_bind_ok hdecode] at hfetch
      cases hfetch
      obtain ⟨buffer, hcursor⟩ := (read_decodeRow c₁ w).cursor
      rw [hdecode] at hcursor
      obtain rfl : c' = { c₁ with buffer } := hcursor
      exact hdecoded
    · rw [run_bind_error hdecode] at hfetch
      cases hfetch

end Cursor
end SqlClient
