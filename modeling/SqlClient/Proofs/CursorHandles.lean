import SqlClient.Proofs.LobFrames

/-! # Handles that a cursor opens

Of all calls on a cursor only those that decode a row open handles, as many as the row has large
objects in front of the first column that fails (`Cursor.opened`).  The row owns them; without a
row nobody does, and they are closed.  What is opened has a content that the server keeps, if the
cells have (`Cursor.yields_perform`).
-/
namespace SqlClient

open Scripted

namespace World

variable {w w' : ClientWorld} {ref : LobRef}

/-- **Every handle has a content that the server keeps.** -/
def Backed (w : ClientWorld) : Prop :=
  ∀ (id : Nat) (x : LobHandle Lob), w.handles[id]? = some x →
    x.lob.content < w.server.contents.length

/-- No handle has another content when aliases are dropped. -/
theorem Fewer.backed (h : Fewer w w') (hlength : w'.handles.length = w.handles.length)
    (hbacked : w.Backed) : w'.Backed := by
  intro id x' hx'
  have hlt : id < w.handles.length := hlength ▸ (List.getElem?_eq_some_iff.mp hx').1
  obtain ⟨x'', hx'', hlob, -⟩ := h.handle id _ (List.getElem?_eq_getElem hlt)
  cases hx'.symm.trans hx''
  rw [hlob]
  exact Nat.lt_of_lt_of_le (hbacked id _ (List.getElem?_eq_getElem hlt)) h.contents.length_le

theorem backed_releaseAll (hbacked : w.Backed) (vs : List Value) : (w.releaseAll vs).Backed :=
  (fewer_releaseAll w vs).backed (length_releaseAll w vs) hbacked

theorem backed_of_lobState_eq (hstate : w'.lobState = w.lobState) (hbacked : w.Backed) :
    w'.Backed :=
  (gains_of_lobState_eq hstate).fewer.backed (gains_of_lobState_eq hstate).length hbacked

theorem backed_enter (hbacked : w.Backed) {lob : Lob} (hlob : lob.content < w.server.contents.length)
    (kind : LobKind) : (w.enter lob kind).2.Backed := by
  intro id x hx
  have hmem := List.mem_of_getElem? hx
  rcases List.mem_append.mp hmem with hold | hnew
  · obtain ⟨j, hj⟩ := List.mem_iff_getElem?.mp hold
    exact hbacked j x hj
  · obtain rfl := List.mem_singleton.mp hnew
    exact hlob

end World

namespace Scripted

variable {w w' : ClientWorld} {limit : Nat}

theorem Cell.backed_decode {column : Column} {cell : Cell} {v : Value} (hcell : cell.Stored limit)
    (hlimit : limit ≤ w.server.contents.length) (hbacked : w.Backed)
    (h : cell.decode column w = .ok v w') : w'.Backed := by
  rcases Cell.decode_eq_ok h with ⟨-, -, rfl⟩ | ⟨kind, content, server, -, hcontent, rfl, rfl⟩
  · exact hbacked
  · have hstored := w.gains_lobContent cell
    have hkept := hstored.fewer.backed hstored.length hbacked
    have hlt : content < server.contents.length := by
      cases cell with
      | null => cases hcontent
      | lob n =>
        cases hcontent
        exact Nat.lt_of_lt_of_le hcell hlimit
      | int | double | text | bytes =>
        cases hcontent
        simp
    rw [hcontent] at hkept
    exact World.backed_enter hkept hlt kind

theorem backed_decodeCells {cell : Nat → Except Error Cell}
    (hcells : ∀ number c, cell number = .ok c → c.Stored limit) (number : Nat)
    (decoded : List Value) (columns : List Column) (hlimit : limit ≤ w.server.contents.length)
    (hbacked : w.Backed) : (leaves (decodeCells cell number decoded columns w)).Backed := by
  induction columns generalizing number decoded w with
  | nil => exact hbacked
  | cons column rest ih =>
    rw [decodeCells]
    cases hcell : cell number with
    | error e => exact World.backed_releaseAll hbacked _
    | ok c =>
      simp only
      cases hdecode : c.decode column w with
      | error e w' =>
        obtain rfl := Cell.decode_eq_error hdecode
        exact World.backed_releaseAll hbacked _
      | ok v w' =>
        have hgrown := (Cell.gains_decode hdecode).fewer.contents.length_le
        exact ih (number + 1) (v :: decoded) (hlimit.trans hgrown)
          (Cell.backed_decode (hcells number c hcell) hlimit hbacked hdecode)

/-- **What a result set shows is one of its cells.** -/
theorem ResultSet.exists_of_shown {rows : ResultSet} {number : Nat} {cell : Cell}
    (hshown : rows.shown number = .ok cell) :
    ∃ cells ∈ rows.rows, ∃ index, number = index + 1 ∧ cells[index]? = some cell := by
  unfold ResultSet.shown ResultSet.cell at hshown
  split at hshown
  · cases hshown
  split at hshown
  · split at hshown
    · rename_i index cells hcells
      cases hindex : cells[index]? with
      | none =>
        rw [hindex] at hshown
        cases hshown
      | some found =>
        rw [hindex] at hshown
        cases hshown
        exact ⟨cells, List.mem_of_getElem? hcells, index, rfl, hindex⟩
    · cases hshown
  · cases hshown

theorem ResultSet.Stored.shown {rows : ResultSet} (h : rows.Stored limit) {number : Nat}
    {cell : Cell} (hshown : rows.shown number = .ok cell) : cell.Stored limit := by
  obtain ⟨cells, hcells, index, -, hcell⟩ := ResultSet.exists_of_shown hshown
  exact h cells hcells cell (List.mem_of_getElem? hcell)

end Scripted

/-! ## Calls -/

theorem given_bind_pure {σ α β : Type} (op : EStateM Error σ α) (f : α → β)
    (values : β → List Value) (state : σ) :
    given values ((op >>= fun a => pure (f a)) state) = given (values ∘ f) (op state) := by
  cases hop : op state with
  | error e state' =>
    rw [run_bind_error hop]
    rfl
  | ok a state' =>
    rw [run_bind_ok hop]
    rfl

namespace Cursor

/-- The values of a row that may not be there. -/
def valuesOf (row : Option Row) : List Value := row.elim [] Row.values

/-- The values of the row in an answer. -/
def Answer.values : Answer → List Value
  | .row r => valuesOf r
  | _ => []

/-- The number of handles that the row opens on which a cursor stands. -/
def openedHere (c : Cursor ResultSet) (w : ClientWorld) : Nat :=
  match c.standing with
  | .onRow => handlesOpened c.rows.shown 1 c.columns w
  | _ => 0

/-- The number of handles that a call opens. -/
def opened (call : Call) (c : Cursor ResultSet) (w : ClientWorld) : Nat :=
  match call with
  | .fetch move =>
    match seek move (c, w) with
    | .ok .onRow (c, w) => openedHere c w
    | _ => 0
  | .current => openedHere c w
  | _ => 0

/-- **What a call does to large objects**: it opens handles that the values own, and each has a
content that the server keeps, if the cells have. -/
structure Yields (x : Cursor ResultSet × ClientWorld) (n : Nat) (vs : List Value)
    (y : Cursor ResultSet × ClientWorld) : Prop where
  gains : World.Gains x.2 n vs y.2
  rows : y.1.rows.rows = x.1.rows.rows
  backed : ∀ limit, x.1.rows.Stored limit → limit ≤ x.2.server.contents.length → x.2.Backed →
    y.2.Backed

theorem Yields.of_lobState {x y : Cursor ResultSet × ClientWorld}
    (hstate : y.2.lobState = x.2.lobState) (hrows : y.1.rows.rows = x.1.rows.rows) :
    Yields x 0 [] y :=
  ⟨World.gains_of_lobState_eq hstate, hrows,
    fun _ _ _ hbacked => World.backed_of_lobState_eq hstate hbacked⟩

theorem rows_seek (move : Seek) (c : Cursor ResultSet) (w : ClientWorld) :
    (leaves (seek move (c, w))).1.rows.rows = c.rows.rows :=
  congrArg (·.2.1) (table_seek move c w)

theorem rows_close (c : Cursor ResultSet) (w : ClientWorld) :
    (close (c, w)).1.rows.rows = c.rows.rows :=
  congrArg (·.2.1) (table_close c w)

theorem lobState_setFetchSize (size : Nat) (c : Cursor ResultSet) (w : ClientWorld) :
    (leaves (setFetchSize size (c, w))).2.lobState = w.lobState := by
  cases hclosed : c.rows.isClosed with
  | true =>
    simp only [setFetchSize, onServer, Statement.setFetchSize_of_closed hclosed size w.server]
    rfl
  | false =>
    simp only [setFetchSize, onServer, Statement.setFetchSize_of_open hclosed size w.server]
    rfl

/-- **A row that is decoded owns the handles that were opened for it.** -/
theorem yields_decodeRow (c : Cursor ResultSet) (w : ClientWorld) :
    Yields (c, w) (handlesOpened c.rows.shown 1 c.columns w)
      (given Row.values (decodeRow (c, w))) (leaves (decodeRow (c, w))) := by
  have hgains := gains_decodeCells c.rows.shown 1 (World.Gains.refl w) c.columns
  rw [Nat.zero_add, List.reverse_nil] at hgains
  have hbacked (limit : Nat) (hrows : c.rows.Stored limit)
      (hlimit : limit ≤ w.server.contents.length) (hw : w.Backed) :
      (leaves (decodeCells c.rows.shown 1 [] c.columns w)).Backed :=
    backed_decodeCells (fun _ _ hshown => hrows.shown hshown) 1 [] c.columns hlimit hw
  obtain ⟨buffer, hrow⟩ := decodeRow_eq c w
  rw [hrow]
  cases hcells : decodeCells c.rows.shown 1 [] c.columns w with
  | error e w' =>
    rw [hcells] at hgains hbacked
    rw [run_bind_error hcells]
    exact ⟨hgains, rfl, hbacked⟩
  | ok values w' =>
    rw [hcells] at hgains hbacked
    rw [run_bind_ok hcells]
    exact ⟨hgains, rfl, hbacked⟩

theorem yields_current (c : Cursor ResultSet) (w : ClientWorld) :
    Yields (c, w) (openedHere c w) (given valuesOf (current (c, w)))
      (leaves (current (c, w))) := by
  by_cases hrow : c.standing = .onRow
  · have hopened : openedHere c w = handlesOpened c.rows.shown 1 c.columns w := by
      rw [openedHere, hrow]
    rw [hopened, current_of_onRow hrow, leaves_bind_pure, given_bind_pure]
    exact yields_decodeRow c w
  · have hopened : openedHere c w = 0 := by
      rw [openedHere]
      split
      · exact absurd ‹_› hrow
      · rfl
    rw [hopened, current_of_not_onRow hrow]
    exact .of_lobState rfl rfl

theorem yields_fetch (move : Seek) (c : Cursor ResultSet) (w : ClientWorld) :
    Yields (c, w) (opened (.fetch move) c w) (given valuesOf (fetch move (c, w)))
      (leaves (fetch move (c, w))) := by
  have hworld := leaves_seek move c w
  have hrows := rows_seek move c w
  simp only [opened]
  rw [fetch]
  cases hseek : seek move (c, w) with
  | error e state =>
    rw [hseek] at hworld hrows
    rw [run_bind_error hseek]
    exact .of_lobState (congrArg World.lobState hworld) hrows
  | ok outcome state =>
    obtain ⟨c', w'⟩ := state
    rw [hseek] at hworld hrows
    obtain rfl : w' = w := hworld
    rw [run_bind_ok hseek]
    cases outcome with
    | pastEdge => exact .of_lobState rfl hrows
    | onRow =>
      obtain ⟨hgains, hkept, hbacked⟩ := yields_current c' w'
      have hshown : c'.rows.rows = c.rows.rows := hrows
      refine ⟨hgains, hkept.trans hshown, fun limit hstored => hbacked limit ?_⟩
      simp only [ResultSet.Stored, hshown]
      exact hstored

/-- **What any call does to large objects.** -/
theorem yields_perform (call : Call) (c : Cursor ResultSet) (w : ClientWorld) :
    Yields (c, w) (opened call c w) (given Answer.values (perform call (c, w)))
      (leaves (perform call (c, w))) := by
  cases call with
  | seek move =>
    rw [perform, leaves_bind_pure, given_bind_pure]
    have hnothing : given (Answer.values ∘ Answer.moved) (seek move (c, w)) = [] := by
      cases seek move (c, w) <;> rfl
    rw [hnothing]
    exact .of_lobState (congrArg World.lobState (leaves_seek move c w)) (rows_seek move c w)
  | fetch move =>
    rw [perform, leaves_bind_pure, given_bind_pure]
    exact yields_fetch move c w
  | current =>
    rw [perform, leaves_bind_pure, given_bind_pure]
    exact yields_current c w
  | count => exact .of_lobState rfl rfl
  | setFetchSize size =>
    rw [perform, leaves_bind_pure, given_bind_pure]
    have hnothing : given (Answer.values ∘ fun _ => Answer.done) (setFetchSize size (c, w)) = [] := by
      cases setFetchSize size (c, w) <;> rfl
    rw [hnothing]
    exact .of_lobState (lobState_setFetchSize size c w)
      (congrArg (·.rows.rows) (setFetchSize_cursor size c w))
  | close => exact .of_lobState (closes_close c w).lobState (rows_close c w)

end Cursor
end SqlClient
