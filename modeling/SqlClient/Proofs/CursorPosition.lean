import SqlClient.Proofs.RowDecoding
import SqlClient.Proofs.StatementExecution

/-! # A cursor knows where its result set stands

The position of the rows lives on the server, as a number from zero to one past the last row.  A
cursor is told of a move only whether it ended on a row; which edge it ended at otherwise, the
cursor guesses from the move.  The guess is right: `Standing.Means` is what a standing means about
the position, and every move keeps it (`Tracks.moved`), from where the result set stands at first
to wherever any calls lead (`Tracks.performAll`).

A server does this arithmetic on 64-bit integers.  `destination64?` is a move computed that way,
with no result where an operation overflows, and `destination64?_eq` says that none does.
-/
namespace SqlClient

open Scripted

/-! ## Where moves lead -/

namespace Scripted.ResultSet

/-- The 64-bit integer of this value, if there is one. -/
def checked (n : Int) : Option Int64 := if saturated n = n then some (.ofInt n) else none

/-- The nearest number from zero to `past`. -/
def clamp64 (past target : Int64) : Int64 :=
  if target < 0 then 0 else if past < target then past else target

/-- **Where a move ends, computed on 64-bit integers.**  There is no result if an operation
overflows; a relative move saturates instead. -/
def destination64? (n position : Int64) (move : Seek) : Option Int64 :=
  (checked (n.toInt + 1)).bind fun past =>
    match move with
    | .next => (checked (position.toInt + 1)).map (clamp64 past)
    | .previous => (checked (position.toInt - 1)).map (clamp64 past)
    | .first => some (if n = 0 then past else clamp64 past 1)
    | .last => some (if n = 0 then past else clamp64 past n)
    | .absolute row =>
      if row < 0 then (checked (past.toInt + row.toInt)).map (clamp64 past)
      else some (clamp64 past row)
    | .relative distance =>
      some (clamp64 past (.ofInt (saturated (position.toInt + distance.toInt))))

theorem toInt_ofInt_saturated (n : Int) : (Int64.ofInt (saturated n)).toInt = saturated n := by
  apply Int64.toInt_ofInt_of_le <;> unfold saturated <;> omega

theorem exists_checked {n : Int} (h : saturated n = n) :
    ∃ a, checked n = some a ∧ a.toInt = n :=
  ⟨.ofInt n, if_pos h, by rw [← h, toInt_ofInt_saturated, h]⟩

theorem toInt_clamp64 {past : Int64} (hpast : 0 ≤ past.toInt) (target : Int64) :
    (clamp64 past target).toInt = max 0 (min target.toInt past.toInt) := by
  unfold clamp64
  simp only [Int64.lt_iff_toInt_lt, Int64.toInt_zero]
  split
  · rw [Int64.toInt_zero]
    omega
  · split <;> omega

/-- A target that was computed without overflow is clamped. -/
theorem map_clamp64_checked {past : Int64} (hpast : 0 ≤ past.toInt) {n : Int}
    (h : saturated n = n) :
    ((checked n).map (clamp64 past)).map Int64.toInt = some (max 0 (min n past.toInt)) := by
  obtain ⟨target, htarget, heq⟩ := exists_checked h
  rw [htarget, Option.map_some, Option.map_some, toInt_clamp64 hpast, heq]

/-- Where there is a row to aim at, a move ends at its target or at an edge. -/
theorem destination_eq_clamp {n : Nat} {move : Seek}
    (haim : ¬ (n = 0 ∧ (move = .first ∨ move = .last))) (position : Nat) :
    (destination n position move : Int) = max 0 (min (target n position move) (n + 1)) := by
  have hmain : destination n position move =
      (max 0 (min (target n position move) (n + 1))).toNat := by
    unfold destination
    split
    · exact absurd ⟨rfl, .inl rfl⟩ haim
    · exact absurd ⟨rfl, .inr rfl⟩ haim
    · rfl
  omega

/-- The next row is one further, up to the place after the last row. -/
theorem destination_next {n position : Nat} (h : position ≤ n + 1) :
    destination n position .next = min (position + 1) (n + 1) := by
  have hclamp := @destination_eq_clamp n .next (by simp) position
  simp only [target] at hclamp
  omega

/-- **No operation overflows**, and the result is where the move ends. -/
theorem destination64?_eq {n position : Nat} {a b : Int64} (ha : a.toInt = n)
    (hb : b.toInt = position) (hroom : n + 2 ≤ 0x7fffffffffffffff) (hposition : position ≤ n + 1)
    (move : Seek) :
    (destination64? a b move).map Int64.toInt = some (destination n position move : Int) := by
  obtain ⟨past, hchecked, hpast⟩ : ∃ past, checked (a.toInt + 1) = some past ∧
      past.toInt = a.toInt + 1 := exists_checked (by unfold saturated; omega)
  have hnonneg : 0 ≤ past.toInt := by omega
  -- rows are missing only for the moves to the first and to the last one
  have hempty : a = 0 ↔ n = 0 := by
    rw [← Int64.toInt_inj, Int64.toInt_zero]
    omega
  simp only [destination64?, hchecked, Option.bind_some]
  cases move with
  | next | previous =>
    rw [map_clamp64_checked hnonneg (by unfold saturated; omega), destination_eq_clamp (by simp)]
    simp only [target]
    congr 1
    omega
  | first | last =>
    by_cases hn : n = 0
    · subst hn
      simp only [hempty.mpr rfl, if_true, Option.map_some, destination]
      congr 1
      omega
    · rw [destination_eq_clamp (by simp [hn])]
      have hone : (1 : Int64).toInt = 1 := rfl
      simp only [mt hempty.mp hn, if_false, Option.map_some, toInt_clamp64 hnonneg, target]
      congr 1
      omega
  | absolute row =>
    rw [destination_eq_clamp (by simp)]
    simp only [Int64.lt_iff_toInt_lt, Int64.toInt_zero, target]
    have hlow := Int64.le_toInt row
    split
    · rw [map_clamp64_checked hnonneg (by unfold saturated; omega)]
      congr 1
      omega
    · rw [Option.map_some, toInt_clamp64 hnonneg]
      congr 1
      omega
  | relative distance =>
    rw [destination_eq_clamp (by simp)]
    simp only [Option.map_some, toInt_clamp64 hnonneg, toInt_ofInt_saturated, target]
    congr 1
    rw [hb]
    omega

theorem onRow_iff (r : ResultSet) :
    r.onRow = true ↔ 1 ≤ r.position ∧ r.position ≤ r.rows.length := decide_eq_true_iff

/-- The result set after a move. -/
def moved (r : ResultSet) (move : Seek) : ResultSet :=
  { r with position := destination r.rows.length r.position move }

theorem seek_of_open {r : ResultSet} (hopen : r.isClosed = false) (move : Seek) (s : Server) :
    seek move (r, s) =
      if r.isForwardOnly ∧ move ≠ .next then .error (.refused (.forwardOnly move)) (r, s)
      else .ok (if (r.moved move).onRow then .row else .noData) (r.moved move, s) := by
  simp [seek, whileOpen, hopen, moved]

theorem seek_of_closed {r : ResultSet} (hclosed : r.isClosed = true) (move : Seek) (s : Server) :
    seek move (r, s) = .error (.refused .resultSetClosed) (r, s) := by
  simp [seek, whileOpen, hclosed]

end Scripted.ResultSet

/-! ## What a standing means -/

/-- **What a standing means for the position** among `n` rows. -/
def Standing.Means (n position : Nat) : Standing → Prop
  | .onRow => 1 ≤ position ∧ position ≤ n
  | .afterLast => position = n + 1
  | .beforeFirst | .unpositioned => position = 0

theorem Standing.Means.onRow_iff {n position : Nat} {standing : Standing}
    (h : standing.Means n position) : standing = .onRow ↔ 1 ≤ position ∧ position ≤ n := by
  cases standing <;> simp only [Means] at h <;> simp <;> omega

/-- **The edge that a cursor guesses is the one where the result set stands.** -/
theorem Seek.means_edge {n position : Nat} {standing : Standing}
    (hmeans : standing.Means n position) (hposition : position ≤ n + 1) {move : Seek}
    (hoff : ¬ (1 ≤ ResultSet.destination n position move ∧
      ResultSet.destination n position move ≤ n)) :
    (move.edge standing).Means n (ResultSet.destination n position move) := by
  by_cases hempty : n = 0 ∧ (move = .first ∨ move = .last)
  · obtain ⟨rfl, rfl | rfl⟩ := hempty <;> rfl
  · -- the move is clamped to the edge that its target lies beyond
    have hclamp := ResultSet.destination_eq_clamp hempty position
    cases move with
    | first | last =>
      have hrows : n ≠ 0 := by simpa using hempty
      simp only [edge, Standing.Means, ResultSet.target] at hclamp ⊢
      omega
    | next | previous =>
      simp only [edge, Standing.Means, ResultSet.target] at hclamp ⊢
      omega
    | absolute row =>
      simp only [edge, Int64.lt_iff_toInt_lt, Int64.toInt_zero, ResultSet.target] at hclamp ⊢
      split <;> simp only [Standing.Means] <;> split at hclamp <;> omega
    | relative distance =>
      simp only [ResultSet.target, ResultSet.saturated] at hclamp
      simp only [edge, Int64.lt_iff_toInt_lt, Int64.toInt_zero]
      split
      · simp only [Standing.Means]
        omega
      · split
        · simp only [Standing.Means]
          omega
        · -- nothing moves, so the cursor stands where it stood
          cases standing <;> simp only [Standing.Means] at hmeans ⊢ <;> omega

namespace Cursor

/-- **An open cursor that tracks its result set**: its standing means where the result set
stands. -/
structure Tracks (c : Cursor ResultSet) : Prop where
  isOpen : c.isClosed = false
  rowsOpen : c.rows.isClosed = false
  position_le : c.rows.position ≤ c.rows.rows.length + 1
  means : c.standing.Means c.rows.rows.length c.rows.position

/-- The cursor after a move. -/
def moved (c : Cursor ResultSet) (move : Seek) : Cursor ResultSet :=
  { c with
    rows := c.rows.moved move
    standing := if (c.rows.moved move).onRow then .onRow else move.edge c.standing }

theorem seek_of_open {c : Cursor ResultSet} (hopen : c.rows.isClosed = false) (move : Seek)
    (w : ClientWorld) :
    seek move (c, w) =
      if c.rows.isForwardOnly ∧ move ≠ .next then
        .error (.refused (.forwardOnly move)) (c, w)
      else .ok (if (c.rows.moved move).onRow then .onRow else .pastEdge) (c.moved move, w) := by
  have hseek := ResultSet.seek_of_open hopen move w.server
  have hremote : onServer (RemoteRows.seek move) (c, w) =
      onServer (ResultSet.seek move) (c, w) := rfl
  rw [seek]
  by_cases hrefused : c.rows.isForwardOnly ∧ move ≠ .next
  · rw [if_pos hrefused] at hseek ⊢
    have hfails : onServer (RemoteRows.seek move) (c, w) =
        .error (.refused (.forwardOnly move)) (c, w) := by
      rw [hremote, onServer, hseek]
    rw [run_bind_error hfails]
  · rw [if_neg hrefused] at hseek ⊢
    have hmoves : onServer (RemoteRows.seek move) (c, w) =
        .ok (if (c.rows.moved move).onRow then .row else .noData)
          ({ c with rows := c.rows.moved move }, w) := by
      rw [hremote, onServer, hseek]
    rw [run_bind_ok hmoves, moved]
    cases (c.rows.moved move).onRow <;> rfl

theorem seek_of_closed {c : Cursor ResultSet} (hclosed : c.rows.isClosed = true) (move : Seek)
    (w : ClientWorld) : seek move (c, w) = .error (.refused .resultSetClosed) (c, w) := by
  have hseek := ResultSet.seek_of_closed hclosed move w.server
  have hfails : onServer (RemoteRows.seek move) (c, w) =
      .error (.refused .resultSetClosed) (c, w) := by
    show onServer (ResultSet.seek move) (c, w) = _
    rw [onServer, hseek]
  rw [seek, run_bind_error hfails]

theorem Tracks.moved {c : Cursor ResultSet} (htracks : c.Tracks) (move : Seek) :
    (c.moved move).Tracks where
  isOpen := htracks.isOpen
  rowsOpen := htracks.rowsOpen
  position_le := ResultSet.destination_le ..
  means := by
    by_cases hrow : (c.rows.moved move).onRow = true
    · simp only [Cursor.moved, if_pos hrow]
      exact (ResultSet.onRow_iff _).mp hrow
    · simp only [Cursor.moved, if_neg hrow]
      exact Seek.means_edge htracks.means htracks.position_le
        (mt (ResultSet.onRow_iff (c.rows.moved move)).mpr hrow)

/-- Another state of the same cursor, which may have moved and read. -/
def Elsewhere (c c' : Cursor ResultSet) : Prop :=
  ∃ position buffer standing, c' = { c with rows := { c.rows with position }, buffer, standing }

theorem Elsewhere.refl (c : Cursor ResultSet) : Elsewhere c c :=
  ⟨c.rows.position, c.buffer, c.standing, rfl⟩

theorem Elsewhere.trans {c c' c'' : Cursor ResultSet} (hfirst : Elsewhere c c')
    (hnext : Elsewhere c' c'') : Elsewhere c c'' := by
  obtain ⟨position, buffer, standing, rfl⟩ := hfirst
  obtain ⟨position', buffer', standing', rfl⟩ := hnext
  exact ⟨position', buffer', standing', rfl⟩

/-! ## The current row -/

theorem current_of_onRow {c : Cursor ResultSet} (hrow : c.standing = .onRow) (w : ClientWorld) :
    current (c, w) = ((do return some (← decodeRow)) :
      EStateM Error (Cursor ResultSet × ClientWorld) (Option Row)) (c, w) := by
  rw [current, run_bind_get, hrow]

theorem current_of_not_onRow {c : Cursor ResultSet} (hoff : c.standing ≠ .onRow)
    (w : ClientWorld) : current (c, w) = .ok none (c, w) := by
  rw [current, run_bind_get]
  cases hstanding : c.standing with
  | onRow => exact absurd hstanding hoff
  | _ => rfl

theorem read_current (c : Cursor ResultSet) (w : ClientWorld) :
    Read (c, w) (leaves (current (c, w))) := by
  by_cases hrow : c.standing = .onRow
  · rw [current_of_onRow hrow, leaves_bind_pure]
    exact read_decodeRow c w
  · rw [current_of_not_onRow hrow]
    exact ⟨⟨c.buffer, rfl⟩, .refl w.server⟩

/-- On a row of an open result set, that row is read. -/
theorem current_of_row {c : Cursor ResultSet} {cells : List Cell} (hrow : c.standing = .onRow)
    (hopen : c.rows.isClosed = false) (hpos : 1 ≤ c.rows.position)
    (hcells : c.rows.rows[c.rows.position - 1]? = some cells) (w : ClientWorld) :
    ∃ buffer, current (c, w) = c.withRead buffer
      ((do return some (← decodeRowOf c.columns cells) : EStateM Error ClientWorld _) w) := by
  obtain ⟨buffer, hdecode⟩ := decodeRow_of_onRow hopen hpos hcells w
  refine ⟨buffer, ?_⟩
  rw [current_of_onRow hrow]
  cases hread : decodeRowOf c.columns cells w with
  | error e w' =>
    rw [hread] at hdecode
    rw [run_bind_error hdecode, run_bind_error hread]
    rfl
  | ok row w' =>
    rw [hread] at hdecode
    rw [run_bind_ok hdecode, run_bind_ok hread]
    rfl

/-- **A cursor on a row gives that row**, or the error of decoding it. -/
theorem Tracks.current {c : Cursor ResultSet} (htracks : c.Tracks) (hrow : c.standing = .onRow)
    (w : ClientWorld) :
    ∃ cells buffer, c.rows.rows[c.rows.position - 1]? = some cells ∧
      Cursor.current (c, w) = c.withRead buffer
        ((do return some (← decodeRowOf c.columns cells) : EStateM Error ClientWorld _) w) := by
  obtain ⟨hpos, hle⟩ := htracks.means.onRow_iff.mp hrow
  have hlt : c.rows.position - 1 < c.rows.rows.length := by omega
  have hcells := List.getElem?_eq_getElem hlt
  obtain ⟨buffer, hcurrent⟩ := current_of_row hrow htracks.rowsOpen hpos hcells w
  exact ⟨_, buffer, hcells, hcurrent⟩

/-! ## One call after the other -/

/-- The state after calls, whether they succeed or fail. -/
def performAll (calls : List Call) (state : Cursor ResultSet × ClientWorld) :
    Cursor ResultSet × ClientWorld :=
  calls.foldl (fun state call => leaves (perform call state)) state

theorem performAll_append (calls later : List Call) (state : Cursor ResultSet × ClientWorld) :
    performAll (calls ++ later) state = performAll later (performAll calls state) :=
  List.foldl_append

theorem Tracks.of_read {c c' : Cursor ResultSet} {w w' : ClientWorld} (htracks : c.Tracks)
    (hread : Read (c, w) (c', w')) : c'.Tracks ∧ Elsewhere c c' := by
  obtain ⟨buffer, hc⟩ := hread.cursor
  obtain rfl : c' = { c with buffer } := hc
  exact ⟨⟨htracks.isOpen, htracks.rowsOpen, htracks.position_le, htracks.means⟩,
    c.rows.position, buffer, c.standing, rfl⟩

theorem Tracks.seek {c : Cursor ResultSet} (htracks : c.Tracks) (move : Seek) (w : ClientWorld) :
    (leaves (Cursor.seek move (c, w))).1.Tracks ∧
      Elsewhere c (leaves (Cursor.seek move (c, w))).1 := by
  rw [seek_of_open htracks.rowsOpen]
  split
  · exact ⟨htracks, .refl c⟩
  · exact ⟨htracks.moved move, _, _, _, rfl⟩

theorem Tracks.fetch {c : Cursor ResultSet} (htracks : c.Tracks) (move : Seek) (w : ClientWorld) :
    (leaves (Cursor.fetch move (c, w))).1.Tracks ∧
      Elsewhere c (leaves (Cursor.fetch move (c, w))).1 := by
  have hseek := htracks.seek move w
  rw [Cursor.fetch]
  cases hmoved : Cursor.seek move (c, w) with
  | error e state =>
    rw [hmoved] at hseek
    rwa [run_bind_error hmoved]
  | ok outcome state =>
    obtain ⟨c', w'⟩ := state
    rw [hmoved] at hseek
    rw [run_bind_ok hmoved]
    cases outcome with
    | pastEdge => exact hseek
    | onRow =>
      obtain ⟨htracks', helsewhere⟩ : c'.Tracks ∧ Elsewhere c c' := hseek
      have hread := htracks'.of_read (read_current c' w')
      exact ⟨hread.1, helsewhere.trans hread.2⟩

theorem setFetchSize_cursor (rows : Nat) (c : Cursor ResultSet) (w : ClientWorld) :
    (leaves (Cursor.setFetchSize rows (c, w))).1 = c := by
  have hremote : Cursor.setFetchSize rows (c, w) = onServer (ResultSet.setFetchSize rows) (c, w) :=
    rfl
  rw [hremote, onServer]
  cases hclosed : c.rows.isClosed <;> simp [ResultSet.setFetchSize, ResultSet.whileOpen, hclosed]

/-- **Every call but closing keeps track**, whether it succeeds or fails. -/
theorem Tracks.perform {c : Cursor ResultSet} (htracks : c.Tracks) {call : Call}
    (hcall : call ≠ .close) (w : ClientWorld) :
    (leaves (Cursor.perform call (c, w))).1.Tracks ∧
      Elsewhere c (leaves (Cursor.perform call (c, w))).1 := by
  cases call with
  | seek move =>
    rw [Cursor.perform, leaves_bind_pure]
    exact htracks.seek move w
  | fetch move =>
    rw [Cursor.perform, leaves_bind_pure]
    exact htracks.fetch move w
  | current =>
    rw [Cursor.perform, leaves_bind_pure]
    exact htracks.of_read (read_current c w)
  | count => exact ⟨htracks, .refl c⟩
  | setFetchSize rows =>
    rw [Cursor.perform, leaves_bind_pure, setFetchSize_cursor]
    exact ⟨htracks, .refl c⟩
  | close => exact absurd rfl hcall

/-- **Any calls but closing keep track.** -/
theorem Tracks.performAll {c : Cursor ResultSet} (htracks : c.Tracks) {calls : List Call}
    (hcalls : .close ∉ calls) (w : ClientWorld) :
    (performAll calls (c, w)).1.Tracks ∧ Elsewhere c (performAll calls (c, w)).1 := by
  induction calls generalizing c w with
  | nil => exact ⟨htracks, .refl c⟩
  | cons call calls ih =>
    rw [List.mem_cons, not_or] at hcalls
    obtain ⟨hfirst, helsewhere⟩ := htracks.perform (Ne.symm hcalls.1) w
    obtain ⟨hrest, helsewhere'⟩ := ih hfirst hcalls.2 (leaves (Cursor.perform call (c, w))).2
    exact ⟨hrest, helsewhere.trans helsewhere'⟩

/-! ## What a cursor shows -/

/-- **What a cursor shows**: the descriptions and the rows of its result set, and the columns that
it decodes them under. -/
def table (c : Cursor ResultSet) : List ColumnDescription × List (List Cell) × List Column :=
  (c.rows.columns, c.rows.rows, c.columns)

theorem table_seek (move : Seek) (c : Cursor ResultSet) (w : ClientWorld) :
    (leaves (seek move (c, w))).1.table = c.table := by
  cases hclosed : c.rows.isClosed with
  | true => rw [seek_of_closed hclosed, leaves_error]
  | false =>
    rw [seek_of_open hclosed]
    split <;> rfl

theorem table_current (c : Cursor ResultSet) (w : ClientWorld) :
    (leaves (current (c, w))).1.table = c.table := by
  obtain ⟨buffer, hcursor⟩ := (read_current c w).cursor
  rw [hcursor]
  rfl

theorem table_fetch (move : Seek) (c : Cursor ResultSet) (w : ClientWorld) :
    (leaves (fetch move (c, w))).1.table = c.table := by
  have hmove := table_seek move c w
  rw [fetch]
  cases hseek : seek move (c, w) with
  | error e state =>
    rw [hseek] at hmove
    rwa [run_bind_error hseek]
  | ok outcome state =>
    rw [hseek] at hmove
    rw [run_bind_ok hseek]
    cases outcome with
    | pastEdge => exact hmove
    | onRow => exact (table_current state.1 state.2).trans hmove

theorem table_close (c : Cursor ResultSet) (w : ClientWorld) :
    (close (c, w)).1.table = c.table := by
  have hremote : (RemoteRows.close (c.rows, w.server) : ResultSet × Server) =
      ResultSet.close (c.rows, w.server) := rfl
  simp only [close, hremote, ResultSet.close]
  split
  · rfl
  · split <;> rfl

/-- **No call changes what a cursor shows.** -/
theorem table_perform (call : Call) (c : Cursor ResultSet) (w : ClientWorld) :
    (leaves (perform call (c, w))).1.table = c.table := by
  cases call with
  | seek move =>
    rw [perform, leaves_bind_pure]
    exact table_seek move c w
  | fetch move =>
    rw [perform, leaves_bind_pure]
    exact table_fetch move c w
  | current =>
    rw [perform, leaves_bind_pure]
    exact table_current c w
  | count => rfl
  | setFetchSize rows =>
    rw [perform, leaves_bind_pure, setFetchSize_cursor]
  | close => exact table_close c w

/-! ## After closing -/

/-- A cursor that was closed, with its result set. -/
structure Shut (c : Cursor ResultSet) : Prop where
  isClosed : c.isClosed = true
  rowsClosed : c.rows.isClosed = true
  standing : c.standing = .unpositioned

theorem Tracks.close {c : Cursor ResultSet} (htracks : c.Tracks) (w : ClientWorld) :
    (Cursor.close (c, w)).1.Shut := by
  have hremote : (RemoteRows.close (c.rows, w.server) : ResultSet × Server) =
      ResultSet.close (c.rows, w.server) := rfl
  simp only [Cursor.close, htracks.isOpen, hremote, ResultSet.close, htracks.rowsOpen]
  exact ⟨rfl, rfl, rfl⟩

/-- Nothing moves a closed cursor. -/
theorem Shut.perform {c : Cursor ResultSet} (hshut : c.Shut) (call : Call) (w : ClientWorld) :
    leaves (Cursor.perform call (c, w)) = (c, w) := by
  have hoff : c.standing ≠ .onRow := by simp [hshut.standing]
  cases call with
  | seek move =>
    rw [Cursor.perform, leaves_bind_pure, seek_of_closed hshut.rowsClosed, leaves_error]
  | fetch move =>
    rw [Cursor.perform, leaves_bind_pure, Cursor.fetch,
      run_bind_error (seek_of_closed hshut.rowsClosed move w), leaves_error]
  | current =>
    rw [Cursor.perform, leaves_bind_pure, current_of_not_onRow hoff, leaves_ok]
  | count => rfl
  | setFetchSize rows =>
    have hremote : Cursor.setFetchSize rows (c, w) =
        onServer (ResultSet.setFetchSize rows) (c, w) := rfl
    rw [Cursor.perform, leaves_bind_pure, hremote, onServer]
    simp [ResultSet.setFetchSize, ResultSet.whileOpen, hshut.rowsClosed]
  | close =>
    show Cursor.close (c, w) = (c, w)
    rw [Cursor.close, if_pos hshut.isClosed]

theorem Shut.performAll {c : Cursor ResultSet} (hshut : c.Shut) (calls : List Call)
    (w : ClientWorld) : performAll calls (c, w) = (c, w) := by
  induction calls with
  | nil => rfl
  | cons call calls ih =>
    rw [Cursor.performAll, List.foldl_cons, hshut.perform]
    exact ih

/-! ## From opening on -/

/-- A cursor is opened before the first row.  A result set that no cursor can be opened over is
closed. -/
theorem openOn_eq (rows : ResultSet) (w : ClientWorld) :
    openOn rows w =
      match Column.ofDescriptions rows.columns with
      | .error e => .error e { w with server := (ResultSet.close (rows, w.server)).2 }
      | .ok [] => .error .noColumns { w with server := (ResultSet.close (rows, w.server)).2 }
      | .ok columns => .ok ⟨rows, columns, .new (widest columns), .unpositioned, false⟩ w := by
  simp only [openOn, Statement.describe_eq]
  rcases Column.ofDescriptions rows.columns with _ | (_ | ⟨c, columns⟩) <;> rfl

theorem openOn_eq_ok {rows : ResultSet} {w w' : ClientWorld} {c : Cursor ResultSet}
    (hopen : openOn rows w = .ok c w') :
    Column.ofDescriptions rows.columns = .ok c.columns ∧
      c = ⟨rows, c.columns, .new (widest c.columns), .unpositioned, false⟩ ∧ w' = w := by
  rw [openOn_eq] at hopen
  split at hopen
  · cases hopen
  · cases hopen
  · rename_i hcolumns
    cases hopen
    exact ⟨hcolumns, rfl, rfl⟩

/-- **A cursor in step with its result set**: what can be seen of it at any moment while it is
open. -/
structure InStep (result : Result) (isForwardOnly : Bool) (c : Cursor ResultSet)
    (w : ClientWorld) : Prop where
  rows : c.rows.rows = result.rows
  columns : Column.ofDescriptions result.columns = .ok c.columns
  position_le : c.rows.position ≤ result.rows.length + 1
  onRow_iff : c.standing = .onRow ↔ 1 ≤ c.rows.position ∧ c.rows.position ≤ result.rows.length
  afterLast : c.standing = .afterLast → c.rows.position = result.rows.length + 1
  beforeFirst : c.standing = .beforeFirst → c.rows.position = 0
  unpositioned : c.standing = .unpositioned → c.rows.position = 0
  rowNumber : c.rowNumber = if c.standing = .onRow then c.rows.position else 0
  /-- 64-bit integers have room for any move among the rows that fit in a memory. -/
  arithmetic : result.rows.length + 2 ≤ 0x7fffffffffffffff → ∀ move,
    (ResultSet.destination64? (.ofInt result.rows.length) (.ofInt c.rows.position) move).map
      Int64.toInt = some (ResultSet.destination result.rows.length c.rows.position move : Int)
  /-- Forward only there is no move but to the next row; a refused move changes nothing. -/
  seek_refused : ∀ move, isForwardOnly = true → move ≠ .next →
    seek move (c, w) = .error (.refused (.forwardOnly move)) (c, w)
  /-- Any other move is made, and tells whether it ended on a row. -/
  seek_moves : ∀ move, (isForwardOnly = true → move = .next) → ∃ outcome c',
    seek move (c, w) = .ok outcome (c', w) ∧
      c'.rows.position = ResultSet.destination result.rows.length c.rows.position move ∧
      (outcome = .onRow ↔ 1 ≤ c'.rows.position ∧ c'.rows.position ≤ result.rows.length)
  current_off : c.standing ≠ .onRow → current (c, w) = .ok none (c, w)
  /-- On a row, that row is read and the cursor stays. -/
  current_on : c.standing = .onRow → ∃ cells buffer,
    result.rows[c.rows.position - 1]? = some cells ∧
      current (c, w) = c.withRead buffer
        ((do return some (← decodeRowOf c.columns cells) : EStateM Error ClientWorld _) w)

/-- What can be seen of a cursor that was closed. -/
structure Ended (c : Cursor ResultSet) (w : ClientWorld) : Prop where
  standing : c.standing = .unpositioned
  rowNumber : c.rowNumber = 0
  current : current (c, w) = .ok none (c, w)
  seek : ∀ move, seek move (c, w) = .error (.refused .resultSetClosed) (c, w)

theorem Tracks.rowNumber {c : Cursor ResultSet} (htracks : c.Tracks) :
    c.rowNumber = if c.standing = .onRow then c.rows.position else 0 := by
  by_cases hrow : c.standing = .onRow
  · have honRow := (ResultSet.onRow_iff c.rows).mpr (htracks.means.onRow_iff.mp hrow)
    have hremote : RemoteRows.rowNumber c.rows = c.rows.rowNumber := rfl
    simp only [Cursor.rowNumber, hrow, hremote, ResultSet.rowNumber, honRow, if_true]
  · rw [if_neg hrow, Cursor.rowNumber]
    cases hstanding : c.standing with
    | onRow => exact absurd hstanding hrow
    | _ => rfl

theorem Tracks.inStep {c : Cursor ResultSet} (htracks : c.Tracks) {result : Result}
    (hrows : c.rows.rows = result.rows)
    (hcolumns : Column.ofDescriptions result.columns = .ok c.columns) (w : ClientWorld) :
    InStep result c.rows.isForwardOnly c w := by
  have hposition := htracks.position_le
  have hmeans := htracks.means
  have hcurrent := htracks.current
  have hseek := fun move => seek_of_open htracks.rowsOpen move w
  have honRow := fun move => ResultSet.onRow_iff (c.rows.moved move)
  simp only [ResultSet.moved, hrows] at hposition hmeans hcurrent honRow
  exact
    { rows := hrows
      columns := hcolumns
      position_le := hposition
      onRow_iff := hmeans.onRow_iff
      afterLast := fun h => by rwa [h] at hmeans
      beforeFirst := fun h => by rwa [h] at hmeans
      unpositioned := fun h => by rwa [h] at hmeans
      rowNumber := htracks.rowNumber
      arithmetic := fun hroom move => by
        apply ResultSet.destination64?_eq _ _ hroom hposition
        · exact Int64.toInt_ofInt_of_le (by omega) (by omega)
        · exact Int64.toInt_ofInt_of_le (by omega) (by omega)
      seek_refused := fun move hforward hmove => by
        rw [hseek, if_pos ⟨hforward, hmove⟩]
      seek_moves := fun move hallowed => by
        refine ⟨_, c.moved move, (hseek move).trans (if_neg ?_), ?_, ?_⟩
        · rintro ⟨hforward, hmove⟩
          exact hmove (hallowed hforward)
        · rw [Cursor.moved, ResultSet.moved, hrows]
        · rw [Cursor.moved, ResultSet.moved, hrows, ← honRow move]
          split <;> simp_all
      current_off := fun hoff => current_of_not_onRow hoff w
      current_on := fun hrow => hcurrent hrow w }

theorem Shut.ended {c : Cursor ResultSet} (hshut : c.Shut) (w : ClientWorld) : Ended c w where
  standing := hshut.standing
  rowNumber := by rw [rowNumber, hshut.standing]
  current := current_of_not_onRow (by simp [hshut.standing]) w
  seek move := seek_of_closed hshut.rowsClosed move w

/-- **A cursor stays in step with its result set**, whatever is called on it before it is closed,
and has ended for good when it was closed. -/
theorem inStep_of_openOn {result : Result} {isForwardOnly : Bool} {w w₀ : ClientWorld}
    {c₀ : Cursor ResultSet}
    (hopen : openOn { ResultSet.new result with isForwardOnly } w = .ok c₀ w₀)
    {calls : List Call} (hcalls : .close ∉ calls) :
    (∃ c w', performAll calls (c₀, w₀) = (c, w') ∧ InStep result isForwardOnly c w') ∧
      ∀ later, ∃ c w', performAll (calls ++ .close :: later) (c₀, w₀) = (c, w') ∧ Ended c w' := by
  obtain ⟨hcolumns, hc₀, rfl⟩ := openOn_eq_ok hopen
  have hstart : c₀.Tracks := by
    rw [hc₀]
    exact ⟨rfl, rfl, Nat.zero_le _, rfl⟩
  obtain ⟨htracks, helsewhere⟩ := hstart.performAll hcalls w₀
  cases hcalled : performAll calls (c₀, w₀) with
  | mk c w' =>
    rw [hcalled] at htracks helsewhere
    constructor
    · refine ⟨c, w', rfl, ?_⟩
      obtain ⟨position, buffer, standing, hmoved⟩ := helsewhere
      have hc : c = { c₀ with rows := { c₀.rows with position }, buffer, standing } := hmoved
      have hforward : c.rows.isForwardOnly = isForwardOnly := by rw [hc, hc₀]
      rw [← hforward]
      apply htracks.inStep
      · rw [hc, hc₀]
        rfl
      · rw [hc]
        exact hcolumns
    · intro later
      have hshut := htracks.close w'
      refine ⟨(Cursor.close (c, w')).1, (Cursor.close (c, w')).2, ?_, hshut.ended _⟩
      rw [performAll_append, hcalled]
      exact hshut.performAll later (Cursor.close (c, w')).2

/-- Two rows, a move as far as there is, and one row back. -/
theorem inStep_of_openOn_far :
    let result : Result := ⟨[.ofLength "N" SqlType.integer.code 10], [[.int 5], [.int 7]]⟩
    let calls : List Call := [.seek (.relative Int64.maxValue), .seek .previous, .current]
    ∃ c₀ w₀ c w, openOn { ResultSet.new result with isForwardOnly := false } (.new .empty) =
        .ok c₀ w₀ ∧
      performAll calls (c₀, w₀) = (c, w) ∧ InStep result false c w ∧ c.rowNumber = 2 ∧
      ∃ c' w', performAll (calls ++ [.close, .fetch .first]) (c₀, w₀) = (c', w') ∧
        Ended c' w' := by
  intro result calls
  have hopen : ∃ c₀ w₀, openOn { ResultSet.new result with isForwardOnly := false }
      (.new .empty) = .ok c₀ w₀ ∧ (performAll calls (c₀, w₀)).1.rowNumber = 2 :=
    ⟨_, _, by rfl, by cbv⟩
  obtain ⟨c₀, w₀, hopen, hnumber⟩ := hopen
  have hcalls : Call.close ∉ calls := by decide
  obtain ⟨⟨c, w, hcalled, hstep⟩, hended⟩ := inStep_of_openOn hopen hcalls
  obtain ⟨c', w', hlater, hended⟩ := hended [.fetch .first]
  rw [hcalled] at hnumber
  exact ⟨c₀, w₀, c, w, hopen, hcalled, hstep, hnumber, c', w', hlater, hended⟩

end Cursor
end SqlClient
