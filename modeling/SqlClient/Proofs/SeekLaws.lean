import SqlClient.Proofs.CursorPosition
import SqlClient.Proofs.SharedBuffer

/-! # Laws of moves

A cursor has six kinds of moves, and some of them are others in disguise: the next row is one row
on, the last one is the first from the end.  Two moves are the same where they end at the same
position and, if there is no row, take the same edge for it (`Ranges.seek_congr`).  Moves to a row
of their own do not depend on where they start (`Ranges.concur_seek_fixed`), and moves by a distance
add up as long as the first of them stays in range (`Ranges.relative_relative`).

A distance is a 64-bit integer, and a move by it saturates.  No result has as many rows as it takes
for that to be seen, and the laws say so where they need it.
-/
namespace SqlClient

open Scripted

/-! ## Where moves end -/

/-- The move goes to a row of its own, wherever it starts. -/
def Seek.IsFixed : Seek → Prop
  | .first | .last | .absolute _ => True
  | .next | .previous | .relative _ => False

theorem Seek.edge_of_isFixed {move : Seek} (h : move.IsFixed) (standing standing' : Standing) :
    move.edge standing = move.edge standing' := by
  cases move with
  | first | last | absolute => rfl
  | next | previous | relative => exact h.elim

namespace Scripted.ResultSet

variable {n position : Nat}

theorem destination_of_isFixed {move : Seek} (h : move.IsFixed) (n position position' : Nat) :
    destination n position move = destination n position' move := by
  cases move with
  | first | last => cases n <;> rfl
  | absolute => cases n <;> rfl
  | next | previous | relative => exact h.elim

/-- **A move by a distance** ends that far on, or at an edge. -/
theorem destination_relative (hroom : n + 2 ≤ 0x7fffffffffffffff) (hposition : position ≤ n + 1)
    (distance : Int64) :
    (destination n position (.relative distance) : Int) =
      max 0 (min (position + distance.toInt) (n + 1)) := by
  have hclamp := @destination_eq_clamp n (.relative distance) (by simp) position
  simp only [target, saturated] at hclamp
  omega

theorem destination_next_eq_relative (hroom : n + 2 ≤ 0x7fffffffffffffff)
    (hposition : position ≤ n + 1) :
    destination n position .next = destination n position (.relative 1) := by
  have hrelative := destination_relative hroom hposition 1
  have hone : (1 : Int64).toInt = 1 := rfl
  rw [destination_next hposition]
  omega

theorem destination_previous_eq_relative (hroom : n + 2 ≤ 0x7fffffffffffffff)
    (hposition : position ≤ n + 1) :
    destination n position .previous = destination n position (.relative (-1)) := by
  have hprevious := @destination_eq_clamp n .previous (by simp) position
  have hrelative := destination_relative hroom hposition (-1)
  have hone : (-1 : Int64).toInt = -1 := rfl
  simp only [target] at hprevious
  omega

/-- A row by its number is where it is, if there is one. -/
theorem destination_absolute {k : Int64} (hpos : 0 ≤ k.toInt) :
    (destination n position (.absolute k) : Int) = min k.toInt (n + 1) := by
  have hclamp := @destination_eq_clamp n (.absolute k) (by simp) position
  simp only [target] at hclamp
  split at hclamp <;> omega

/-- A row counted from the end, if there are as many. -/
theorem destination_absolute_of_neg {k : Int64} (hneg : k.toInt < 0) (hk : -k.toInt ≤ n) :
    (destination n position (.absolute k) : Int) = n + 1 + k.toInt := by
  have hclamp := @destination_eq_clamp n (.absolute k) (by simp) position
  simp only [target] at hclamp
  split at hclamp <;> omega

/-- Without rows there is no first one, and also no row with number one. -/
theorem destination_first_eq_absolute :
    destination n position .first = destination n position (.absolute 1) := by
  have hone : (1 : Int64).toInt = 1 := rfl
  have habsolute := @destination_absolute n position 1 (by decide)
  cases n with
  | zero =>
    have hfirst : destination 0 position .first = 1 := rfl
    omega
  | succ n =>
    have hclamp := @destination_eq_clamp (n + 1) .first (by simp) position
    simp only [target] at hclamp
    omega

theorem destination_last (hrows : 0 < n) : destination n position .last = n := by
  have hclamp := @destination_eq_clamp n .last (by simp; omega) position
  simp only [target] at hclamp
  omega

/-- **Distances add up**, as long as the first stays in range. -/
theorem destination_relative_relative (hroom : n + 2 ≤ 0x7fffffffffffffff)
    (hposition : position ≤ n + 1) {a b sum : Int64} (hsum : sum.toInt = a.toInt + b.toInt)
    (hlow : 0 ≤ position + a.toInt) (hhigh : position + a.toInt ≤ n + 1) :
    destination n (destination n position (.relative a)) (.relative b) =
      destination n position (.relative sum) := by
  have hfirst := destination_relative hroom hposition a
  have hnext := destination_relative hroom (destination_le n position (.relative a)) b
  have honce := destination_relative hroom hposition sum
  omega

end Scripted.ResultSet

/-- A position is on a row, at the end, or at the start, where a cursor may have been put or not. -/
theorem Standing.Means.eq_or {n position : Nat} {standing standing' : Standing}
    (h : standing.Means n position) (h' : standing'.Means n position) :
    standing' = standing ∨ standing = .beforeFirst ∧ standing' = .unpositioned ∨
      standing = .unpositioned ∧ standing' = .beforeFirst := by
  cases standing <;> cases standing' <;> simp [Means] at h h' ⊢ <;> omega

namespace Cursor

/-! ## Moves from one place -/

/-- An open cursor over `n` rows, among which it may move freely. -/
structure Ranges (n : Nat) (c : Cursor ResultSet) : Prop extends c.Tracks where
  free : c.rows.isForwardOnly = false
  length : c.rows.rows.length = n

variable {n : Nat} {c c' : Cursor ResultSet} {move move' : Seek}

theorem Ranges.le (h : c.Ranges n) : c.rows.position ≤ n + 1 := h.length ▸ h.position_le

theorem Ranges.moved (h : c.Ranges n) (move : Seek) : (c.moved move).Ranges n :=
  ⟨h.toTracks.moved move, h.free, h.length⟩

/-- Every move is made. -/
theorem Ranges.seek_eq (h : c.Ranges n) (move : Seek) (w : ClientWorld) :
    seek move (c, w) =
      .ok (if (c.rows.moved move).onRow then .onRow else .pastEdge) (c.moved move, w) := by
  rw [seek_of_open h.rowsOpen, if_neg (by simp [h.free])]

theorem moved_congr
    (hend : ResultSet.destination c.rows.rows.length c.rows.position move =
      ResultSet.destination c.rows.rows.length c.rows.position move')
    (hedge : (c.rows.moved move).onRow = false → move.edge c.standing = move'.edge c.standing) :
    c.moved move = c.moved move' := by
  have hrows : c.rows.moved move = c.rows.moved move' := by
    rw [ResultSet.moved, ResultSet.moved, hend]
  unfold Cursor.moved
  rw [← hrows]
  cases hrow : (c.rows.moved move).onRow with
  | true => rfl
  | false => simp [hedge hrow]

/-- **Two moves are the same** where they end at the same position, and at the same edge if there
is no row. -/
theorem Ranges.seek_congr (h : c.Ranges n)
    (hend : ResultSet.destination n c.rows.position move =
      ResultSet.destination n c.rows.position move')
    (hedge : (1 ≤ ResultSet.destination n c.rows.position move →
        n < ResultSet.destination n c.rows.position move) →
      move.edge c.standing = move'.edge c.standing) (w : ClientWorld) :
    seek move (c, w) = seek move' (c, w) := by
  obtain rfl := h.length
  have hmoved : c.moved move = c.moved move' := by
    refine moved_congr hend fun hoff => hedge fun hlow => Nat.lt_of_not_le fun hhigh => ?_
    rw [(ResultSet.onRow_iff (c.rows.moved move)).mpr ⟨hlow, hhigh⟩] at hoff
    cases hoff
  have hrows : c.rows.moved move = c.rows.moved move' := congrArg Cursor.rows hmoved
  rw [h.seek_eq, h.seek_eq, hmoved, hrows]

/-! ## Moves from anywhere -/

/-- **A move to a row of its own does not depend on where it starts.** -/
theorem Ranges.concur_seek_fixed (h : c.Ranges n) (helsewhere : Elsewhere c c')
    (h' : c'.Ranges n) (hfixed : move.IsFixed) (w : ClientWorld) :
    Concur ButBuffer (seek move (c, w)) (seek move (c', w)) := by
  obtain ⟨position, buffer, standing, rfl⟩ := helsewhere
  have hrows : ResultSet.moved { c.rows with position } move = c.rows.moved move := by
    simp only [ResultSet.moved]
    rw [ResultSet.destination_of_isFixed hfixed _ position c.rows.position]
  have hedge := Seek.edge_of_isFixed hfixed standing c.standing
  rw [h.seek_eq, h'.seek_eq, hrows]
  refine .ok _ ⟨c.buffer, ?_⟩
  simp only [Cursor.moved, hrows, hedge]

/-- So the row it comes to is the same, too. -/
theorem concur_fetch {x y : Cursor ResultSet × ClientWorld}
    (h : Concur ButBuffer (seek move x) (seek move y)) :
    Concur ButBuffer (fetch move x) (fetch move y) :=
  h.bind fun outcome _ _ hleft => by
    cases outcome with
    | onRow => exact butBuffer_current hleft
    | pastEdge => exact .ok none hleft

/-! ## One move after the other -/

/-- Only going nowhere leaves a cursor without a position. -/
theorem standing_moved_relative {distance : Int64}
    (h : (c.moved (.relative distance)).standing = .unpositioned) :
    distance.toInt = 0 ∧ c.standing = .unpositioned := by
  simp only [Cursor.moved, Seek.edge, Int64.lt_iff_toInt_lt, Int64.toInt_zero] at h
  split at h
  · cases h
  · split at h
    · cases h
    · split at h
      · cases h
      · exact ⟨by omega, h⟩

theorem Ranges.moved_relative_zero (h : c.Ranges n) (hroom : n + 2 ≤ 0x7fffffffffffffff)
    {distance : Int64} (hzero : distance.toInt = 0) : c.moved (.relative distance) = c := by
  have hend := ResultSet.destination_relative hroom h.le distance
  have hposition : ResultSet.destination n c.rows.position (.relative distance) =
      c.rows.position := by
    have hle := h.le
    omega
  have hrows : c.rows.moved (.relative distance) = c.rows := by
    rw [ResultSet.moved, h.length, hposition]
  have hstanding : (if c.rows.onRow then Standing.onRow
      else Seek.edge (.relative distance) c.standing) = c.standing := by
    by_cases hrow : c.standing = .onRow
    · rw [hrow, if_pos ((ResultSet.onRow_iff _).mpr (h.means.onRow_iff.mp hrow))]
    · rw [if_neg fun honRow => hrow (h.means.onRow_iff.mpr ((ResultSet.onRow_iff _).mp honRow))]
      simp only [Seek.edge, Int64.lt_iff_toInt_lt, Int64.toInt_zero, hzero, lt_irrefl, if_false]
  rw [Cursor.moved, hrows, hstanding]

theorem Tracks.rowNumber_congr (h : c.Tracks) (h' : c'.Tracks) (hrows : c'.rows = c.rows) :
    c'.rowNumber = c.rowNumber := by
  have honRow : c'.standing = .onRow ↔ c.standing = .onRow := by
    rw [h.means.onRow_iff, h'.means.onRow_iff, hrows]
  simp only [h.rowNumber, h'.rowNumber, honRow, hrows]

/-- **What two moves by a distance come to**, and one by both. -/
theorem Ranges.relative_relative (h : c.Ranges n) (hroom : n + 2 ≤ 0x7fffffffffffffff)
    {a b sum : Int64} (hsum : sum.toInt = a.toInt + b.toInt)
    (hlow : 0 ≤ c.rows.position + a.toInt) (hhigh : c.rows.position + a.toInt ≤ n + 1) :
    ((c.moved (.relative a)).moved (.relative b)).rows = (c.moved (.relative sum)).rows ∧
      ((c.moved (.relative a)).moved (.relative b) = c.moved (.relative sum) ∨
        c.standing = .unpositioned ∧ c.moved (.relative sum) = c ∧
          (c.moved (.relative a)).moved (.relative b) = { c with standing := .beforeFirst }) := by
  have hrows : ((c.moved (.relative a)).moved (.relative b)).rows =
      (c.moved (.relative sum)).rows := by
    have hend := ResultSet.destination_relative_relative hroom h.le hsum hlow hhigh
    simp only [Cursor.moved, ResultSet.moved, h.length, hend]
  have htwice := ((h.moved (.relative a)).moved (.relative b)).means
  have honce := (h.moved (.relative sum)).means
  rw [hrows] at htwice
  refine ⟨hrows, ?_⟩
  -- nothing but rows and standing is different in the first place
  have hsame (rows : ResultSet) (standing : Standing)
      (hr : ((c.moved (.relative a)).moved (.relative b)).rows = rows)
      (hs : ((c.moved (.relative a)).moved (.relative b)).standing = standing) :
      (c.moved (.relative a)).moved (.relative b) = { c with rows, standing } := by
    rw [← hr, ← hs]
    rfl
  rcases htwice.eq_or honce with heq | ⟨htwice, honce⟩ | ⟨htwice, honce⟩
  · exact .inl (hsame _ _ hrows heq.symm)
  · obtain ⟨hzero, hunpositioned⟩ := standing_moved_relative honce
    have hstays := h.moved_relative_zero hroom hzero
    exact .inr ⟨hunpositioned, hstays, hsame _ _ (hrows.trans (congrArg Cursor.rows hstays)) htwice⟩
  · -- then neither of the two moves went anywhere
    obtain ⟨hb, hmoved⟩ := standing_moved_relative htwice
    obtain ⟨ha, hunpositioned⟩ := standing_moved_relative hmoved
    rw [h.moved_relative_zero hroom (by omega), hunpositioned] at honce
    cases honce

/-! ## From opening on -/

/-- The cursor comes to this by calls, none of which closes it. -/
def Reached (start : Cursor ResultSet × ClientWorld) (c : Cursor ResultSet) : Prop :=
  ∃ calls, .close ∉ calls ∧ (performAll calls start).1 = c

/-- **The laws of moves** of a cursor over `n` rows.  Moves that are the same come to the same and
leave the same cursor, with its result set at the same position. -/
structure MoveLaws (start : Cursor ResultSet × ClientWorld) (n : Nat) (c : Cursor ResultSet)
    (w : ClientWorld) : Prop where
  moves : ∀ move, ∃ outcome c', seek move (c, w) = .ok outcome (c', w)
  next : seek .next (c, w) = seek (.relative 1) (c, w)
  previous : seek .previous (c, w) = seek (.relative (-1)) (c, w)
  first : seek .first (c, w) = seek (.absolute 1) (c, w)
  last : 0 < n → seek .last (c, w) = seek (.absolute (-1)) (c, w)
  last_number : 0 < n → ∀ k : Int64, k.toInt = n →
    seek .last (c, w) = seek (.absolute k) (c, w)
  /-- Rows are counted from both ends. -/
  fromEnd : ∀ k m : Int64, 1 ≤ k.toInt → k.toInt ≤ n → m.toInt = n + 1 - k.toInt →
    seek (.absolute (-k)) (c, w) = seek (.absolute m) (c, w)
  /-- It does not matter where a move to a row of its own starts, also for the row it comes to. -/
  fixed : ∀ move, move.IsFixed → ∀ c', Reached start c' →
    Concur ButBuffer (seek move (c, w)) (seek move (c', w)) ∧
      Concur ButBuffer (fetch move (c, w)) (fetch move (c', w))
  /-- Distances add up, as long as the first stays in range and their sum is one.  If both together
  go nowhere, a cursor that had no position has one only after both. -/
  relative : ∀ a b sum : Int64, sum.toInt = a.toInt + b.toInt → 0 ≤ c.rows.position + a.toInt →
    c.rows.position + a.toInt ≤ n + 1 → ∃ outcome twice once,
      (do let _ ← seek (.relative a); seek (.relative b)) (c, w) = .ok outcome (twice, w) ∧
      seek (.relative sum) (c, w) = .ok outcome (once, w) ∧
      twice.rows = once.rows ∧ twice.rowNumber = once.rowNumber ∧
      (twice = once ∨ c.standing = .unpositioned ∧ once = c ∧
        twice = { c with standing := .beforeFirst })
  /-- A cursor that is closed moves no more. -/
  closed : ∀ later move, seek move (performAll later (close (c, w))) =
    .error (.refused .resultSetClosed) (performAll later (close (c, w)))

theorem Ranges.moveLaws (h : c.Ranges n) (hroom : n + 2 ≤ 0x7fffffffffffffff)
    {start : Cursor ResultSet × ClientWorld}
    (hreached : ∀ c', Reached start c' → c'.Ranges n ∧ Elsewhere c c') (w : ClientWorld) :
    MoveLaws start n c w where
  moves := fun move => ⟨_, _, h.seek_eq move w⟩
  next := h.seek_congr (ResultSet.destination_next_eq_relative hroom h.le) (fun _ => rfl) w
  previous := h.seek_congr (ResultSet.destination_previous_eq_relative hroom h.le) (fun _ => rfl) w
  first := h.seek_congr ResultSet.destination_first_eq_absolute (fun _ => rfl) w
  last := by
    intro hrows
    have hlast := @ResultSet.destination_last n c.rows.position hrows
    have hone : (-1 : Int64).toInt = -1 := rfl
    have hend := @ResultSet.destination_absolute_of_neg n c.rows.position (-1) (by decide)
      (by omega)
    exact h.seek_congr (by omega) (fun hoff => by omega) w
  last_number := by
    intro hrows k hk
    have hlast := @ResultSet.destination_last n c.rows.position hrows
    have hend := @ResultSet.destination_absolute n c.rows.position k (by omega)
    exact h.seek_congr (by omega) (fun hoff => by omega) w
  fromEnd := by
    intro k m hlow hhigh hm
    have hneg : (-k).toInt = -k.toInt := by
      have hlt := Int64.toInt_lt k
      rw [Int64.toInt_neg]
      exact Int.bmod_eq_of_le (by omega) (by omega)
    have hback := @ResultSet.destination_absolute_of_neg n c.rows.position (-k) (by omega)
      (by omega)
    have hfront := @ResultSet.destination_absolute n c.rows.position m (by omega)
    exact h.seek_congr (by omega) (fun hoff => by omega) w
  fixed := by
    intro move hfixed c' hc'
    obtain ⟨hranges, helsewhere⟩ := hreached c' hc'
    have hseek := h.concur_seek_fixed helsewhere hranges hfixed w
    exact ⟨hseek, concur_fetch hseek⟩
  relative := by
    intro a b sum hsum hlow hhigh
    obtain ⟨hrows, hstanding⟩ := h.relative_relative hroom hsum hlow hhigh
    have hfirst := h.seek_eq (.relative a) w
    have hnext := (h.moved (.relative a)).seek_eq (.relative b) w
    have honce := h.seek_eq (.relative sum) w
    have honRow : (c.moved (.relative a)).rows.moved (.relative b) = c.rows.moved (.relative sum) :=
      hrows
    rw [honRow] at hnext
    refine ⟨_, _, _, (run_bind_ok hfirst).trans hnext, honce, hrows, ?_, hstanding⟩
    exact (h.moved (.relative sum)).toTracks.rowNumber_congr
      ((h.moved (.relative a)).moved (.relative b)).toTracks hrows
  closed := by
    intro later move
    have hshut := h.toTracks.close w
    rw [hshut.performAll later (close (c, w)).2]
    exact seek_of_closed hshut.rowsClosed move _

theorem Elsewhere.symm (h : Elsewhere c c') : Elsewhere c' c := by
  obtain ⟨position, buffer, standing, rfl⟩ := h
  exact ⟨c.rows.position, c.buffer, c.standing, rfl⟩

/-- **The laws hold wherever calls lead**, for as many rows as 64-bit positions can count. -/
theorem moveLaws_of_openOn {result : Result} {w₀ w₁ : ClientWorld} {c₀ : Cursor ResultSet}
    (hopen : openOn (ResultSet.new result) w₀ = .ok c₀ w₁)
    (hroom : result.rows.length + 2 ≤ 0x7fffffffffffffff) (hreached : Reached (c₀, w₁) c)
    (w : ClientWorld) : MoveLaws (c₀, w₁) result.rows.length c w := by
  obtain ⟨-, hc₀, -⟩ := openOn_eq_ok hopen
  have hstart : c₀.Tracks := by
    rw [hc₀]
    exact ⟨rfl, rfl, Nat.zero_le _, rfl⟩
  have hranges (c' : Cursor ResultSet) (hc' : Reached (c₀, w₁) c') :
      c'.Ranges result.rows.length ∧ Elsewhere c₀ c' := by
    obtain ⟨calls, hcalls, rfl⟩ := hc'
    obtain ⟨htracks, helsewhere⟩ := hstart.performAll hcalls w₁
    refine ⟨⟨htracks, ?_, ?_⟩, helsewhere⟩
    · obtain ⟨position, buffer, standing, heq⟩ := helsewhere
      rw [heq, hc₀]
      rfl
    · obtain ⟨position, buffer, standing, heq⟩ := helsewhere
      rw [heq, hc₀]
      rfl
  obtain ⟨h, helsewhere⟩ := hranges c hreached
  refine h.moveLaws hroom (fun c' hc' => ?_) w
  obtain ⟨h', helsewhere'⟩ := hranges c' hc'
  exact ⟨h', helsewhere.symm.trans helsewhere'⟩

/-- Two rows, and back from the last to the first. -/
theorem moveLaws_of_openOn_back :
    let result : Result := ⟨[.ofLength "N" SqlType.integer.code 10], [[.int 5], [.int 7]]⟩
    let calls : List Call := [.fetch .last, .seek .previous]
    ∃ c₀ w₁ c, openOn (ResultSet.new result) (.new .empty) = .ok c₀ w₁ ∧
      (performAll calls (c₀, w₁)).1 = c ∧ c.rowNumber = 1 ∧
      MoveLaws (c₀, w₁) result.rows.length c w₁ := by
  intro result calls
  have hopen : ∃ c₀ w₁, openOn (ResultSet.new result) (.new .empty) = .ok c₀ w₁ ∧
      (performAll calls (c₀, w₁)).1.rowNumber = 1 := ⟨_, _, by rfl, by cbv⟩
  obtain ⟨c₀, w₁, hopen, hnumber⟩ := hopen
  have hreached : Reached (c₀, w₁) (performAll calls (c₀, w₁)).1 := ⟨calls, by decide, rfl⟩
  exact ⟨c₀, w₁, _, hopen, rfl, hnumber, moveLaws_of_openOn hopen (by decide) hreached w₁⟩

end Cursor
end SqlClient
