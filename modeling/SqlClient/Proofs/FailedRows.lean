import SqlClient.Proofs.RowFidelity

/-! # Rows that fail

A row is decoded column by column, and the first column that fails is the end of it: the values that
were decoded before are dropped, and with each the handle it is the only alias of.  So all handles
that were opened are closed again, each of them once (`World.releaseAll_fresh`), and nothing is left
behind but dead handles and copies of contents.  The next attempt on the same row finds nothing that
matters changed, and fails in the same way (`FailsAt.again`), however often it is made.
-/
namespace SqlClient

open Scripted

/-! ## Handles that are dropped -/

/-- A handle without aliases, closed with the last of them. -/
def LobHandle.shut {σ : Type} (h : LobHandle σ) : LobHandle σ :=
  { h with aliases := 0, isOpen := false }

/-- A handle that is open and has one alias. -/
def LobHandle.IsFresh {σ : Type} (h : LobHandle σ) : Prop := h.isOpen = true ∧ h.aliases = 1

namespace World

variable {w w' w'' : ClientWorld} {v : Value} {vs vs' : List Value}

/-- How often the object of a handle is closed while values are dropped in order. -/
def closings (id : Nat) : List Value → ClientWorld → Nat
  | [], _ => 0
  | v :: vs, w =>
    (if v.handle? = some id then (w.release v).server.closedLobs - w.server.closedLobs else 0) +
      closings id vs (w.release v)

theorem release_of_plain (hv : v.handle? = none) (w : ClientWorld) : w.release v = w := by
  cases v with
  | lob ref => cases hv
  | null | int32 | int64 | double | text | bytes => rfl

/-- **The only alias of an open handle** closes it when it is dropped. -/
theorem release_fresh {id : Nat} {h : LobHandle Lob} (hv : v.handle? = some id)
    (hfound : w.handles[id]? = some h) (hfresh : h.IsFresh) :
    w.release v =
      ⟨{ w.server with closedLobs := w.server.closedLobs + 1 }, w.handles.set id h.shut⟩ := by
  obtain ⟨ref, rfl, rfl⟩ := Value.exists_of_handle? hv
  have hlast : h.aliases ≤ 1 ∧ h.isOpen = true := ⟨Nat.le_of_eq hfresh.2, hfresh.1⟩
  rw [release, dropAlias_of_some hfound, if_pos hlast, hfresh.2]
  rfl

/-- The first of some handles is dropped, and those that follow are as they were. -/
theorem release_next {front rest : List (LobHandle Lob)} {h : LobHandle Lob}
    (hhandles : w.handles = front ++ h :: rest) (hfresh : h.IsFresh)
    (hv : v.handle? = some front.length) :
    w.release v = ⟨{ w.server with closedLobs := w.server.closedLobs + 1 },
      (front ++ [h.shut]) ++ rest⟩ := by
  rw [release_fresh hv (by simp [hhandles]) hfresh]
  simp [hhandles]

/-- **All handles from some number on are dropped**, which are open and have one alias each.  Every
one of them is closed once, and no other. -/
theorem releaseAll_fresh {front news : List (LobHandle Lob)} (hhandles : w.handles = front ++ news)
    (hfresh : ∀ h ∈ news, h.IsFresh)
    (hvs : vs.filterMap Value.handle? = List.range' front.length news.length) :
    w.releaseAll vs = ⟨{ w.server with closedLobs := w.server.closedLobs + news.length },
        front ++ news.map LobHandle.shut⟩ ∧
      ∀ id, closings id vs w = if id ∈ vs.filterMap Value.handle? then 1 else 0 := by
  induction vs generalizing w front news with
  | nil =>
    obtain rfl : news = [] := List.eq_nil_of_length_eq_zero (List.range'_eq_nil_iff.mp hvs.symm)
    refine ⟨?_, fun id => rfl⟩
    rw [List.append_nil] at hhandles
    rw [List.map_nil, List.append_nil, ← hhandles]
    rfl
  | cons v vs ih =>
    cases hv : v.handle? with
    | none =>
      rw [List.filterMap_cons_none hv] at hvs
      have hstays := release_of_plain hv w
      obtain ⟨hall, hclosings⟩ := ih hhandles hfresh hvs
      rw [List.filterMap_cons_none hv]
      refine ⟨?_, fun id => ?_⟩
      · rw [← hall, releaseAll, List.foldl_cons, hstays]
        rfl
      · rw [closings, hstays, hv, hclosings, if_neg nofun, Nat.zero_add]
    | some first =>
      rw [List.filterMap_cons_some hv] at hvs
      obtain ⟨h, rest, rfl⟩ : ∃ h rest, news = h :: rest := by
        cases news with
        | nil => cases hvs
        | cons h rest => exact ⟨h, rest, rfl⟩
      obtain ⟨rfl, hrest⟩ := List.cons_eq_cons.mp (hvs.trans List.range'_succ)
      have hfirst := release_next hhandles (hfresh h (List.mem_cons_self ..)) hv
      have hrest' : vs.filterMap Value.handle? =
          List.range' (front ++ [h.shut]).length rest.length := by simpa using hrest
      obtain ⟨hall, hclosings⟩ := @ih (w.release v) (front ++ [h.shut]) rest (by rw [hfirst])
        (fun h' hmem => hfresh h' (List.mem_cons_of_mem _ hmem)) hrest'
      refine ⟨?_, fun id => ?_⟩
      · rw [releaseAll, List.foldl_cons]
        refine hall.trans ?_
        rw [hfirst]
        simp [Nat.add_assoc, Nat.add_comm]
      · have hone : (w.release v).server.closedLobs - w.server.closedLobs = 1 := by
          rw [hfirst]
          exact Nat.add_sub_cancel_left ..
        rw [closings, hclosings, hv, hone, List.filterMap_cons_some hv, hrest]
        simp only [Option.some.injEq, List.mem_cons, List.mem_range'_1]
        split <;> split <;> split <;> omega

/-! ## Handles that are opened -/

/-- **Handles were opened** and are the values' own, in order; nothing was closed meanwhile. -/
structure Entered (w : ClientWorld) (count : Nat) (vs : List Value) (w' : ClientWorld) : Prop where
  numbers : vs.filterMap Value.handle? = List.range' w.handles.length count
  handles : ∃ news, w'.handles = w.handles ++ news ∧ news.length = count ∧ ∀ h ∈ news, h.IsFresh
  closedLobs : w'.server.closedLobs = w.server.closedLobs

theorem Entered.refl (w : ClientWorld) : Entered w 0 [] w :=
  ⟨rfl, ⟨[], (List.append_nil _).symm, rfl, by simp⟩, rfl⟩

theorem Entered.trans {m n : Nat} (hfirst : Entered w m vs w') (hnext : Entered w' n vs' w'') :
    Entered w (m + n) (vs ++ vs') w'' := by
  obtain ⟨news, hnews, hlength, hfresh⟩ := hfirst.handles
  obtain ⟨news', hnews', hlength', hfresh'⟩ := hnext.handles
  refine ⟨?_, ⟨news ++ news', ?_, ?_, ?_⟩, hnext.closedLobs.trans hfirst.closedLobs⟩
  · rw [List.filterMap_append, hfirst.numbers, hnext.numbers, hnews, List.length_append, hlength,
      List.range'_append_1]
  · rw [hnews', hnews, List.append_assoc]
  · rw [List.length_append, hlength, hlength']
  · intro h hmem
    exact (List.mem_append.mp hmem).elim (hfresh h) (hfresh' h)

/-- A value that is no alias is there without a handle. -/
theorem Entered.of_plain (h : Entered w 0 [] w') (hv : v.lob? = none) : Entered w 0 [v] w' := by
  refine ⟨?_, h.handles, h.closedLobs⟩
  rw [List.filterMap_cons_none (by rw [Value.handle?, hv]; rfl)]
  rfl

theorem entered_enter (w : ClientWorld) (lob : Lob) (kind : LobKind) :
    Entered w 1 [.lob (w.enter lob kind).1] (w.enter lob kind).2 :=
  ⟨rfl, ⟨[.new lob kind], rfl, rfl, by simp [LobHandle.IsFresh, LobHandle.new]⟩, rfl⟩

/-- A content of its own opens nothing. -/
theorem entered_lobContent (w : ClientWorld) (cell : Cell) :
    Entered w 0 [] { w with server := (ResultSet.lobContent w.server cell).2 } := by
  obtain ⟨_, _, hserver⟩ := onlyLobs_lobContent w.server cell
  refine ⟨rfl, ⟨[], (List.append_nil _).symm, rfl, by simp⟩, ?_⟩
  cases cell <;> rfl

/-- **Handles that were opened and are dropped** stay behind closed and without aliases.  Each of
them is closed once, and no other. -/
theorem Entered.releaseAll {count : Nat} (h : Entered w count vs w') :
    (∃ dead, (w'.releaseAll vs).handles = w.handles ++ dead ∧ dead.length = count ∧
      ∀ h ∈ dead, h.isOpen = false ∧ h.aliases = 0) ∧
    (w'.releaseAll vs).server.closedLobs = w.server.closedLobs + count ∧
    (w'.releaseAll vs).server.contents = w'.server.contents ∧
    ∀ id, closings id vs w' = if id ∈ vs.filterMap Value.handle? then 1 else 0 := by
  obtain ⟨news, hnews, rfl, hfresh⟩ := h.handles
  obtain ⟨hreleased, hclosings⟩ := releaseAll_fresh hnews hfresh h.numbers
  rw [hreleased]
  refine ⟨⟨news.map LobHandle.shut, rfl, List.length_map .., fun h hmem => ?_⟩,
    congrArg (· + news.length) h.closedLobs, rfl, hclosings⟩
  obtain ⟨h', -, rfl⟩ := List.mem_map.mp hmem
  exact ⟨rfl, rfl⟩

end World

namespace Scripted

variable {w w' : ClientWorld} {cell : Nat → Except Error Cell} {number : Nat}
  {columns : List Column} {decoded all : List Value} {e : Error}

/-- **A cell that is decoded** opens a handle for a large object, and else none. -/
theorem Cell.entered_decode {column : Column} {c : Cell} {v : Value}
    (h : c.decode column w = .ok v w') : World.Entered w (c.handles column) [v] w' := by
  rcases Cell.decode_eq_ok h with
    ⟨hnone, hplain, rfl⟩ | ⟨kind, content, server, hone, hcontent, rfl, rfl⟩
  · rw [hnone]
    exact (World.Entered.refl w').of_plain hplain
  · have hstored := w.entered_lobContent c
    rw [hcontent] at hstored
    rw [hone]
    exact hstored.trans (World.entered_enter _ (Lob.new content kind) kind)

/-- The number of large objects under columns from a number on, those that are NULL not counted. -/
def lobsUnder (cell : Nat → Except Error Cell) (number : Nat) : List Column → Nat
  | [] => 0
  | column :: rest =>
    (match cell number with
      | .ok c => c.handles column
      | .error _ => 0) + lobsUnder cell (number + 1) rest

/-- **Columns that are decoded** open a handle for each of their large objects. -/
theorem entered_decodeCells (h : decodeCells cell number decoded columns w = .ok all w') :
    ∃ vs, all = decoded.reverse ++ vs ∧ World.Entered w (lobsUnder cell number columns) vs w' := by
  induction columns generalizing number decoded w with
  | nil =>
    cases h
    exact ⟨[], (List.append_nil _).symm, .refl _⟩
  | cons column rest ih =>
    rw [decodeCells] at h
    cases hcell : cell number with
    | error e =>
      rw [hcell] at h
      cases h
    | ok c =>
      simp only [hcell] at h
      cases hdecode : c.decode column w with
      | error e w₁ =>
        rw [hdecode] at h
        cases h
      | ok v w₁ =>
        rw [hdecode] at h
        obtain ⟨vs, rfl, hrest⟩ := ih h
        refine ⟨v :: vs, by simp, ?_⟩
        simp only [lobsUnder, hcell]
        exact (Cell.entered_decode hdecode).trans hrest

/-- **Columns that fail** are decoded up to one of them, and what was decoded is dropped. -/
theorem decodeCells_eq_error (h : decodeCells cell number decoded columns w = .error e w') :
    ∃ k column all w₁, columns[k]? = some column ∧
      decodeCells cell number decoded (columns.take k) w = .ok all w₁ ∧
      failure? (decodeCell cell (number + k) column w₁) = some e ∧ w' = w₁.releaseAll all := by
  induction columns generalizing number decoded w with
  | nil => cases h
  | cons column rest ih =>
    have hstop (hfails : failure? (decodeCell cell number column w) = some e)
        (hw' : w' = w.releaseAll decoded.reverse) :
        ∃ k column' all w₁, (column :: rest)[k]? = some column' ∧
          decodeCells cell number decoded ((column :: rest).take k) w = .ok all w₁ ∧
          failure? (decodeCell cell (number + k) column' w₁) = some e ∧ w' = w₁.releaseAll all :=
      ⟨0, column, decoded.reverse, w, rfl, rfl, hfails, hw'⟩
    rw [decodeCells] at h
    cases hcell : cell number with
    | error e' =>
      rw [hcell] at h
      cases h
      exact hstop (by simp only [decodeCell, hcell]; rfl) rfl
    | ok c =>
      simp only [hcell] at h
      cases hdecode : c.decode column w with
      | error e' w₁ =>
        rw [hdecode] at h
        obtain rfl := Cell.decode_eq_error hdecode
        cases h
        exact hstop (by simp only [decodeCell, hcell, hdecode]; rfl) rfl
      | ok v w₁ =>
        rw [hdecode] at h
        obtain ⟨k, column', all, w₂, hcolumn, hall, hfails, hw'⟩ := ih h
        refine ⟨k + 1, column', all, w₂, hcolumn, ?_, ?_, hw'⟩
        · rw [List.take_succ_cons, decodeCells]
          simp only [hcell, hdecode]
          exact hall
        · rw [show number + (k + 1) = number + 1 + k by omega]
          exact hfails

/-- **Where columns fail**: those in front are decoded, and their values dropped. -/
theorem decodeCells_stops
    (hstored : ∀ number c, cell number = .ok c → c.Stored w.server.contents.length)
    (h : decodeCells cell number [] columns w = .error e w') :
    ∃ k vs w₁, FirstFailure w cell number columns k e ∧
      decodeCells cell number [] (columns.take k) w = .ok vs w₁ ∧
      Decoded w w₁ cell number (columns.take k) vs ∧
      World.Entered w (lobsUnder cell number (columns.take k)) vs w₁ ∧ w.Grown w₁ ∧
      w' = w₁.releaseAll vs := by
  obtain ⟨k, column, vs, w₁, hcolumn, hall, hstop, rfl⟩ := decodeCells_eq_error h
  obtain ⟨vs', hvs, hentered⟩ := entered_decodeCells hall
  obtain rfl : vs = vs' := hvs
  obtain ⟨hgrown, hdecoded⟩ : w.Grown w₁ ∧ Decoded w w₁ cell number (columns.take k) vs := by
    rcases decodeCells_cases hstored number [] (columns.take k) with
      ⟨vs', w₂, hok, hgrown, hdecoded⟩ | ⟨e', w₂, k', herror, -⟩
    · cases hall.symm.trans hok
      exact ⟨hgrown, hdecoded⟩
    · cases hall.symm.trans herror
  refine ⟨k, vs, w₁, ⟨⟨column, hcolumn, ?_⟩, fun i hi column' hcolumn' => ?_⟩, hall, hdecoded,
    hentered, hgrown, rfl⟩
  · rw [← failure?_decodeCell_of_grown hgrown (hstored _), hstop]
  · exact hdecoded.alone i column' (by rw [List.getElem?_take_of_lt hi, hcolumn'])

/-- The first column that fails is the same in a world that has grown. -/
theorem FirstFailure.of_grown {k : Nat} (h : FirstFailure w cell number columns k e)
    (hstored : ∀ number c, cell number = .ok c → c.Stored w.server.contents.length)
    (hgrown : w.Grown w') : FirstFailure w' cell number columns k e := by
  obtain ⟨⟨column, hcolumn, hfails⟩, hfirst⟩ := h
  refine ⟨⟨column, hcolumn, ?_⟩, fun i hi column' hcolumn' => ?_⟩
  · rw [failure?_decodeCell_of_grown hgrown (hstored _), hfails]
  · rw [failure?_decodeCell_of_grown hgrown (hstored _), hfirst i hi column' hcolumn']

/-- There is one first column that fails. -/
theorem FirstFailure.unique {k k' : Nat} {e' : Error} (h : FirstFailure w cell number columns k e)
    (h' : FirstFailure w cell number columns k' e') : k' = k ∧ e' = e := by
  obtain ⟨⟨column, hcolumn, hfails⟩, hfirst⟩ := h
  obtain ⟨⟨column', hcolumn', hfails'⟩, hfirst'⟩ := h'
  have hk : k' = k := by
    rcases Nat.lt_trichotomy k' k with hlt | heq | hgt
    · rw [hfirst k' hlt column' hcolumn'] at hfails'
      cases hfails'
    · exact heq
    · rw [hfirst' k hgt column hcolumn] at hfails
      cases hfails
  subst hk
  cases hcolumn.symm.trans hcolumn'
  exact ⟨rfl, Option.some.inj (hfails'.symm.trans hfails)⟩

end Scripted

/-! ## The row of a cursor -/

namespace Cursor

variable {c c' : Cursor ResultSet} {w w' : ClientWorld} {k : Nat} {e : Error}

/-- The number of large objects in front of a column of the current row, those that are NULL not
counted. -/
def lobsBefore (c : Cursor ResultSet) (k : Nat) : Nat :=
  lobsUnder c.rows.shown 1 (c.columns.take k)

/-- **The current row fails at a column**, and leaves nothing behind.  The column is counted from
zero. -/
structure FailsAt (c : Cursor ResultSet) (w : ClientWorld) (k : Nat) (e : Error)
    (c' : Cursor ResultSet) (w' : ClientWorld) : Prop where
  /-- There is no row but an error, which is that of the first column that fails alone. -/
  fails : current (c, w) = .error e (c', w')
  first : FirstFailure w c.rows.shown 1 c.columns k e
  /-- The cursor stands where it stood, over the same cells and with the same columns. -/
  cursor : ∃ buffer, c' = { c with buffer }
  /-- The columns in front were decoded, which opened a handle for each of their large objects.
  When the values were dropped, each of these handles was closed once, and no other. -/
  dropped : ∃ vs w₁, decodeCells c.rows.shown 1 [] (c.columns.take k) w = .ok vs w₁ ∧
    Decoded w w₁ c.rows.shown 1 (c.columns.take k) vs ∧
    vs.filterMap Value.handle? = List.range' w.handles.length (c.lobsBefore k) ∧
    w₁.server.closedLobs = w.server.closedLobs ∧ w' = w₁.releaseAll vs ∧
    ∀ id, World.closings id vs w₁ = if id ∈ vs.filterMap Value.handle? then 1 else 0
  /-- Behind the column nothing was opened. -/
  opened : w'.handles.length = w.handles.length + c.lobsBefore k
  closed : w'.server.closedLobs = w.server.closedLobs + c.lobsBefore k
  dead : ∀ id h, w.handles.length ≤ id → w'.handles[id]? = some h →
    h.isOpen = false ∧ h.aliases = 0
  /-- The handles and contents that there were are the same, and so is the rest of the server. -/
  grown : w.Grown w'
  server : w.server.OnlyLobs w'.server

theorem onRow_of_current_error (h : current (c, w) = .error e (c', w')) : c.standing = .onRow := by
  by_contra hoff
  rw [current_of_not_onRow hoff] at h
  cases h

/-- **Every row that fails, fails at some column.** -/
theorem exists_failsAt (hstored : c.rows.Stored w.server.contents.length)
    (hfails : current (c, w) = .error e (c', w')) : ∃ k, FailsAt c w k e c' w' := by
  have hrow := hfails
  rw [current_of_onRow (onRow_of_current_error hfails)] at hrow
  obtain ⟨buffer, hdecode⟩ := decodeRow_eq c w
  cases hcells : decodeCells c.rows.shown 1 [] c.columns w with
  | ok vs w₁ =>
    rw [run_bind_ok hcells] at hdecode
    rw [run_bind_ok hdecode] at hrow
    cases hrow
  | error e' w₁ =>
    rw [run_bind_error hcells] at hdecode
    rw [run_bind_error hdecode] at hrow
    cases hrow
    obtain ⟨k, vs, w₁, hfirst, hvs, hdecoded, hentered, hgrown, rfl⟩ :=
      decodeCells_stops (fun _ _ hshown => hstored.shown hshown) hcells
    obtain ⟨⟨dead, hhandles, hlength, hdead⟩, hclosed, hcontents, hclosings⟩ := hentered.releaseAll
    have honly := onlyLobs_decodeCells c.rows.shown 1 [] c.columns w
    rw [hcells] at honly
    exact ⟨k,
      { fails := hfails
        first := hfirst
        cursor := ⟨buffer, rfl⟩
        dropped :=
          ⟨vs, w₁, hvs, hdecoded, hentered.numbers, hentered.closedLobs, rfl, hclosings⟩
        opened := by rw [hhandles, List.length_append, hlength, lobsBefore]
        closed := hclosed
        dead := by
          intro id h hid hfound
          rw [hhandles, List.getElem?_append_right hid] at hfound
          exact hdead h (List.mem_of_getElem? hfound)
        grown := ⟨hhandles ▸ List.prefix_append .., hcontents ▸ hgrown.contents⟩
        server := honly }⟩

theorem FailsAt.stored (h : FailsAt c w k e c' w')
    (hstored : c.rows.Stored w.server.contents.length) :
    c'.rows.Stored w'.server.contents.length := by
  obtain ⟨buffer, rfl⟩ := h.cursor
  exact fun cells hcells cell hcell =>
    (hstored cells hcells cell hcell).mono h.grown.contents.length_le

/-- **A row that failed fails again**, at the same column and with the same error. -/
theorem FailsAt.again (h : FailsAt c w k e c' w')
    (hstored : c.rows.Stored w.server.contents.length) : ∃ c'' w'', FailsAt c' w' k e c'' w'' := by
  have hstored' := h.stored hstored
  have hfirst := h.first.of_grown (fun _ _ hshown => hstored.shown hshown) h.grown
  have honRow := onRow_of_current_error h.fails
  obtain ⟨buffer, rfl⟩ := h.cursor
  have hrow : ({ c with buffer } : Cursor ResultSet).standing = .onRow := honRow
  rcases decodeRow_cases hstored' with
    ⟨vs, c'', w'', -, -, hdecoded⟩ | ⟨e', ⟨c'', w''⟩, k', hdecode, -⟩
  · obtain ⟨⟨column, hcolumn, hstop⟩, -⟩ := hfirst
    have halone := hdecoded.alone k column hcolumn
    rw [hstop] at halone
    cases halone
  · have hfails : current ({ c with buffer }, w') = .error e' (c'', w'') := by
      rw [current_of_onRow hrow, run_bind_error hdecode]
    obtain ⟨k'', hagain⟩ := exists_failsAt hstored' hfails
    obtain ⟨rfl, rfl⟩ := hfirst.unique hagain.first
    exact ⟨c'', w'', hagain⟩

/-- However often it is tried. -/
theorem FailsAt.performAll (h : FailsAt c w k e c' w')
    (hstored : c.rows.Stored w.server.contents.length) (n : Nat) :
    ∃ c₁ w₁ c₂ w₂, performAll (List.replicate n .current) (c', w') = (c₁, w₁) ∧
      (∃ buffer, c₁ = { c with buffer }) ∧
      w₁.server.closedLobs = w'.server.closedLobs + n * c.lobsBefore k ∧
      FailsAt c₁ w₁ k e c₂ w₂ := by
  induction n generalizing c w c' w' with
  | zero =>
    obtain ⟨c'', w'', hagain⟩ := h.again hstored
    exact ⟨c', w', c'', w'', rfl, h.cursor, by omega, hagain⟩
  | succ n ih =>
    obtain ⟨c'', w'', hagain⟩ := h.again hstored
    obtain ⟨c₁, w₁, c₂, w₂, hall, ⟨buffer, hc₁⟩, hclosed, hlater⟩ := ih hagain (h.stored hstored)
    have hperform : leaves (perform .current (c', w')) = (c'', w'') := by
      rw [perform, run_bind_error hagain.fails]
      rfl
    obtain ⟨buffer', rfl⟩ := h.cursor
    have hsame : lobsBefore { c with buffer := buffer' } k = c.lobsBefore k := rfl
    refine ⟨c₁, w₁, c₂, w₂, ?_, ⟨buffer, hc₁⟩, ?_, hlater⟩
    · rw [List.replicate_succ, Cursor.performAll, List.foldl_cons, hperform]
      exact hall
    · rw [hclosed, hagain.closed, hsame, Nat.succ_mul]
      omega

/-- **A row that fails leaves nothing behind**, whatever the columns are, and the same happens at
every further attempt, as long as its large objects have contents. -/
theorem failsAt_repeatedly (hstored : c.rows.Stored w.server.contents.length)
    (hfails : current (c, w) = .error e (c', w')) :
    ∃ k, FailsAt c w k e c' w' ∧ ∀ n, ∃ c₁ w₁ c₂ w₂,
      performAll (List.replicate n .current) (c', w') = (c₁, w₁) ∧
      (∃ buffer, c₁ = { c with buffer }) ∧
      w₁.server.closedLobs = w'.server.closedLobs + n * c.lobsBefore k ∧
      FailsAt c₁ w₁ k e c₂ w₂ := by
  obtain ⟨k, h⟩ := exists_failsAt hstored hfails
  exact ⟨k, h, h.performAll hstored⟩

/-- Before the number that is none, a large object, one that is NULL, a text in the place of one,
and a number; behind it another large object. -/
theorem failsAt_repeatedly_mixed :
    let descriptions : List ColumnDescription :=
      [.ofLength "A" SqlType.clobUnicode.code 10, .ofLength "B" SqlType.clobUnicode.code 10,
        .ofLength "C" SqlType.clobUnicode.code 10, .ofLength "D" SqlType.integer.code 10,
        .ofLength "E" SqlType.integer.code 10, .ofLength "F" SqlType.clobUnicode.code 10]
    let c : Cursor ResultSet :=
      { rows :=
          { columns := descriptions
            rows := [[.lob 0, .null, .text "ab", .int 5, .text "none", .lob 0]]
            position := 1, isForwardOnly := false, isClosed := false }
        columns := descriptions.filterMap fun d => (Column.ofDescription d).toOption
        buffer := .new 0, standing := .onRow, isClosed := false }
    let w : ClientWorld := ⟨{ Server.empty with contents := [[0xff]] }, []⟩
    c.rows.Stored w.server.contents.length ∧
      ∃ e c' w', current (c, w) = .error e (c', w') ∧ w'.server.closedLobs = 2 ∧
        ∃ k, FailsAt c w k e c' w' ∧ ∀ n, ∃ c₁ w₁ c₂ w₂,
          performAll (List.replicate n .current) (c', w') = (c₁, w₁) ∧
          (∃ buffer, c₁ = { c with buffer }) ∧
          w₁.server.closedLobs = w'.server.closedLobs + n * c.lobsBefore k ∧
          FailsAt c₁ w₁ k e c₂ w₂ := by
  intro descriptions c w
  have hstored : c.rows.Stored w.server.contents.length := by
    simp [c, w, ResultSet.Stored, Cell.Stored]
  have herror : failure? (current (c, w)) = some (.conversion (.unreadable .integer "none")) := by
    decide +kernel
  have hclosed : (leaves (current (c, w))).2.server.closedLobs = 2 := by decide +kernel
  cases hcurrent : current (c, w) with
  | ok row state =>
    rw [hcurrent] at herror
    cases herror
  | error e state =>
    rw [hcurrent] at hclosed
    exact ⟨hstored, e, state.1, state.2, rfl, hclosed, failsAt_repeatedly hstored hcurrent⟩

end Cursor
end SqlClient
