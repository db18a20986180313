import SqlClient.Proofs.ArgumentAliases
import SqlClient.Proofs.ScriptAgreement
import SqlClient.Proofs.WorldEmbedding

/-! # Statements in worlds inside worlds

What a statement does in the inner of two worlds it does in the outer one: the results are the same
up to the numbers of handles, the statement is left the same, and one world stays inside the other
(`Matches`).  For what does not concern large objects this is what `Concur` says; rows are followed
column by column, since every handle that is opened gets a number inside and another one outside;
and an execution with arguments looks at the kind of a handle and never at its number.
-/
namespace SqlClient

open Scripted

namespace World

/-- **Results that match**: both succeed or both fail with the same error, what is left of a cursor
or a statement is the same, and so are the answers, up to the numbers that handles have by then. -/
inductive Matches {α β : Type} (Same : List Nat → α → α → Prop) (limit : Nat) (ids : List Nat)
    (v w : ClientWorld) : EStateM.Result Error (β × ClientWorld) α →
    EStateM.Result Error (β × ClientWorld) α → Prop
  | ok {a b : α} (c : β) {ids' : List Nat} {v' w' : ClientWorld}
    (advances : Advances limit ids v w ids' v' w') (same : Same ids' a b) :
    Matches Same limit ids v w (.ok a (c, v')) (.ok b (c, w'))
  | error (e : Error) (c : β) {ids' : List Nat} {v' w' : ClientWorld}
    (advances : Advances limit ids v w ids' v' w') :
    Matches Same limit ids v w (.error e (c, v')) (.error e (c, w'))

/-- Answers that are the same altogether. -/
def SameAnswer {α : Type} (_ : List Nat) (a b : α) : Prop := a = b

namespace Matches

variable {α β γ : Type} {Same : List Nat → α → α → Prop} {Same' : List Nat → γ → γ → Prop}
  {limit : Nat} {ids ids' : List Nat} {v v' w w' : ClientWorld}
  {r r' : EStateM.Result Error (β × ClientWorld) α}

theorem cases (h : Matches Same limit ids v w r r') :
    (∃ a b c ids' v' w', r = .ok a (c, v') ∧ r' = .ok b (c, w') ∧
      Advances limit ids v w ids' v' w' ∧ Same ids' a b) ∨
    ∃ e c ids' v' w', r = .error e (c, v') ∧ r' = .error e (c, w') ∧
      Advances limit ids v w ids' v' w' := by
  cases h with
  | ok c advances same => exact .inl ⟨_, _, c, _, _, _, rfl, rfl, advances, same⟩
  | error e c advances => exact .inr ⟨e, c, _, _, _, rfl, rfl, advances⟩

/-- What matches from a later moment on matches. -/
theorem after (hadvances : Advances limit ids v w ids' v' w')
    (h : Matches Same limit ids' v' w' r r') : Matches Same limit ids v w r r' := by
  cases h with
  | ok c advances same => exact .ok c (hadvances.trans advances) same
  | error e c advances => exact .error e c (hadvances.trans advances)

/-- **Steps that match**, one after the other. -/
theorem bind {x y : EStateM Error (β × ClientWorld) α} {f g : α → EStateM Error (β × ClientWorld) γ}
    {s t : β × ClientWorld} (h : Matches Same limit ids v w (x s) (y t))
    (hnext : ∀ a b c ids' v' w', x s = .ok a (c, v') → Advances limit ids v w ids' v' w' →
      Same ids' a b → Matches Same' limit ids' v' w' (f a (c, v')) (g b (c, w'))) :
    Matches Same' limit ids v w ((x >>= f) s) ((y >>= g) t) := by
  obtain ⟨a, b, c, ids', v', w', hx, hy, advances, same⟩ |
    ⟨e, c, ids', v', w', hx, hy, advances⟩ := h.cases
  · rw [run_bind_ok hx, run_bind_ok hy]
    exact (hnext a b c ids' v' w' hx advances same).after advances
  · rw [run_bind_error hx, run_bind_error hy]
    exact .error e c advances

/-- The same is made of both answers. -/
theorem map {x y : EStateM Error (β × ClientWorld) α} {s t : β × ClientWorld}
    (h : Matches Same limit ids v w (x s) (y t)) {f : α → γ}
    (hf : ∀ ids a b, Same ids a b → Same' ids (f a) (f b)) :
    Matches Same' limit ids v w ((x >>= fun a => Pure.pure (f a)) s)
      ((y >>= fun a => Pure.pure (f a)) t) :=
  h.bind fun _ _ c _ _ _ _ advances same => .ok c advances.embeds.refl (hf _ _ _ same)

/-- **What concurs and does not concern large objects matches.** -/
theorem of_concur (h : Embeds limit ids v w) (hconcur : Concur Beside r r')
    (hv : (leaves r).2.lobState = v.lobState) (hw : (leaves r').2.lobState = w.lobState) :
    Matches SameAnswer limit ids v w r r' := by
  obtain ⟨a, ⟨c, v'⟩, ⟨_, w'⟩, rfl, rfl, rfl, -⟩ | ⟨e, ⟨c, v'⟩, ⟨_, w'⟩, rfl, rfl, rfl, -⟩ :=
    hconcur.cases
  · exact .ok c (h.advances_of_lobState hv hw) rfl
  · exact .error e c (h.advances_of_lobState hv hw)

end Matches

/-! ## Columns -/

variable {limit : Nat} {ids : List Nat} {v w : ClientWorld} {cell : Cell}

/-- A cell has the same value inside and outside. -/
theorem Embeds.value_eq (h : Embeds limit ids v w) (hcell : cell.Stored limit) :
    cell.value w.server = cell.value v.server := by
  cases cell with
  | lob n => exact congrArg Value.bytes (h.shown n hcell).content_eq
  | null | int | double | text | bytes => rfl

theorem Embeds.putCell_eq (h : Embeds limit ids v w) (hcell : cell.Stored limit) (host : HostType)
    (buffer : Buffer) :
    ResultSet.putCell w.server host cell buffer = ResultSet.putCell v.server host cell buffer := by
  cases cell with
  | lob n => rw [ResultSet.putCell_lob, ResultSet.putCell_lob, h.value_eq hcell]
  | null | int | double | text | bytes => rfl

end World

/-- The same row, up to the numbers of handles. -/
structure Row.Renumbered (ids : List Nat) (row row' : Row) : Prop where
  columns : row'.columns = row.columns
  values : List.Forall₂ (Value.Renumbered ids) row.values row'.values

/-- The same answer of a cursor, up to the numbers of handles. -/
inductive Cursor.Answer.Renumbered (ids : List Nat) : Answer → Answer → Prop
  | plain (answer : Answer) (h : ∀ row, answer ≠ .row row) : Renumbered ids answer answer
  | row {row row' : Option Row} (h : Option.Rel (Row.Renumbered ids) row row') :
    Renumbered ids (.row row) (.row row')

namespace Cursor

open World (Embeds Matches SameAnswer)

variable {limit : Nat} {ids : List Nat} {v w : ClientWorld} {c : Cursor ResultSet}

theorem matches_decodeInBuffer (h : Embeds limit ids v w) (hrows : c.rows.Stored limit)
    (number : Nat) (column : Column) :
    Matches Value.Renumbered limit ids v w (decodeInBuffer number column (c, v))
      (decodeInBuffer number column (c, w)) := by
  have hread (s : Server) : RemoteRows.readColumn number column.hostType
      (c.buffer.reset column.bufferSize, c.rows, s) =
      ResultSet.readColumn number column.hostType (.new column.bufferSize, c.rows, s) := rfl
  simp only [decodeInBuffer, hread, ResultSet.readColumn_eq]
  cases hshown : c.rows.shown number with
  | error e => exact .error e _ h.refl
  | ok cell =>
    have hput := h.putCell_eq (hrows.shown hshown) column.hostType (.new column.bufferSize)
    simp only [Except.bind, hput]
    cases ResultSet.putCell v.server column.hostType cell (.new column.bufferSize) with
    | error e => exact .error e _ h.refl
    | ok buffer =>
      simp only
      cases hdecode : buffer.decode column.hostType with
      | error e => exact .error e _ h.refl
      | ok a => exact .ok _ h.refl (.plain a (Buffer.lob?_of_decode hdecode))

/-- **A handle is opened**, inside and outside. -/
theorem matches_decodeLob (h : Embeds limit ids v w) (hrows : c.rows.Stored limit) (number : Nat)
    {column : Column} {kind : LobKind} (hkind : column.hostType.lobKind? = some kind) :
    Matches Value.Renumbered limit ids v w (decodeLob number column kind (c, v))
      (decodeLob number column kind (c, w)) := by
  rw [decodeLob_eq number hkind, decodeLob_eq number hkind]
  cases hshown : c.rows.shown number with
  | error e => exact .error e c h.refl
  | ok cell =>
    simp only [Cell.decode_of_lob hkind]
    by_cases hnull : cell = .null
    · subst hnull
      exact .ok c h.refl (.plain .null rfl)
    · have hstored := hrows.shown hshown
      rcases ResultSet.lobContent_cases v.server hnull with ⟨n, rfl, hv⟩ | ⟨hplain, hv⟩
      · -- a large object is shared
        have hw : ResultSet.lobContent w.server (.lob n) = (some n, w.server) := rfl
        simp only [hv, hw]
        exact .ok c (h.enter rfl rfl List.prefix_rfl List.prefix_rfl (h.shown n hstored))
          (h.renumbered_enter ..)
      · -- anything else is copied, and the copies have the same bytes
        obtain ⟨n, rfl, -⟩ | ⟨-, hw⟩ := ResultSet.lobContent_cases w.server hnull
        · exact absurd rfl (hplain n)
        have hbytes : cell.lobBytes w.server = cell.lobBytes v.server := by
          simp only [Cell.lobBytes, h.value_eq hstored]
        simp only [hv, hw]
        refine .ok c (h.enter rfl rfl (List.prefix_append ..) (List.prefix_append ..) ?_)
          (h.renumbered_enter ..)
        exact ⟨cell.lobBytes v.server, List.getElem?_concat_length,
          hbytes ▸ List.getElem?_concat_length⟩

theorem matches_decodeColumn (h : Embeds limit ids v w) (hrows : c.rows.Stored limit) (number : Nat)
    (column : Column) :
    Matches Value.Renumbered limit ids v w (decodeColumn number column (c, v))
      (decodeColumn number column (c, w)) := by
  cases hkind : column.hostType.lobKind? with
  | none =>
    simp only [decodeColumn, hkind]
    exact matches_decodeInBuffer h hrows number column
  | some kind =>
    simp only [decodeColumn, hkind]
    exact matches_decodeLob h hrows number hkind

/-! ## Rows -/

theorem rows_decodeColumn (number : Nat) (column : Column) (c : Cursor ResultSet) (w : ClientWorld) :
    (leaves (decodeColumn number column (c, w))).1.rows = c.rows := by
  obtain ⟨buffer, hcolumn⟩ := decodeColumn_eq number column c w
  rw [hcolumn, leaves_withRead]

theorem matches_decodeFrom (h : Embeds limit ids v w) (hrows : c.rows.Stored limit)
    {decoded decoded' : List Value} (hdecoded : List.Forall₂ (Value.Renumbered ids) decoded decoded')
    (number : Nat) (columns : List Column) :
    Matches (fun ids => List.Forall₂ (Value.Renumbered ids)) limit ids v w
      (decodeFrom number decoded columns (c, v)) (decodeFrom number decoded' columns (c, w)) := by
  induction columns generalizing number decoded decoded' c ids v w with
  | nil => exact .ok c h.refl (List.rel_reverse hdecoded)
  | cons column rest ih =>
    obtain ⟨a, b, c', ids', v', w', hx, hy, hadvances, hvalue⟩ |
      ⟨e, c', ids', v', w', hx, hy, hadvances⟩ := (matches_decodeColumn h hrows number column).cases
    · have hsame := rows_decodeColumn number column c v
      rw [hx] at hsame
      simp only [decodeFrom, hx, hy]
      refine (ih hadvances.embeds ?_ (.cons hvalue ?_) (number + 1)).after hadvances
      · rwa [show c'.rows = c.rows from hsame]
      · exact Value.Renumbered.monoAll hadvances.grows hdecoded
    · simp only [decodeFrom, hx, hy]
      -- what was decoded before is dropped
      have hbefore := List.rel_reverse (Value.Renumbered.monoAll hadvances.grows hdecoded)
      exact .error e c' (hadvances.trans (hadvances.embeds.releaseAll hbefore))

/-- **A row is decoded**, inside and outside. -/
theorem matches_decodeRow (h : Embeds limit ids v w) (hrows : c.rows.Stored limit) :
    Matches Row.Renumbered limit ids v w (decodeRow (c, v)) (decodeRow (c, w)) := by
  rw [decodeRow, run_bind_get, run_bind_get]
  exact (matches_decodeFrom h hrows .nil 1 c.columns).map fun _ _ _ hvalues => ⟨rfl, hvalues⟩

theorem matches_current (h : Embeds limit ids v w) (hrows : c.rows.Stored limit) :
    Matches (fun ids => Option.Rel (Row.Renumbered ids)) limit ids v w (current (c, v))
      (current (c, w)) := by
  by_cases hrow : c.standing = .onRow
  · rw [current_of_onRow hrow, current_of_onRow hrow]
    exact (matches_decodeRow h hrows).map fun _ _ _ => .some
  · rw [current_of_not_onRow hrow, current_of_not_onRow hrow]
    exact .ok c h.refl .none

theorem matches_seek (h : Embeds limit ids v w) (move : Seek) :
    Matches SameAnswer limit ids v w (seek move (c, v)) (seek move (c, w)) :=
  .of_concur h (concur_seek move ⟨rfl, h.scripts⟩) (congrArg World.lobState (leaves_seek move c v))
    (congrArg World.lobState (leaves_seek move c w))

/-- **A row is fetched**, inside and outside. -/
theorem matches_fetch (h : Embeds limit ids v w) (hrows : c.rows.Stored limit) (move : Seek) :
    Matches (fun ids => Option.Rel (Row.Renumbered ids)) limit ids v w (fetch move (c, v))
      (fetch move (c, w)) := by
  refine (matches_seek h move).bind fun outcome _ c' ids' v' w' hx hadvances hsame => ?_
  cases hsame
  cases outcome with
  | pastEdge => exact .ok c' hadvances.embeds.refl .none
  | onRow =>
    have hkept := rows_seek move c v
    rw [hx] at hkept
    refine matches_current hadvances.embeds ?_
    rw [ResultSet.Stored, show c'.rows.rows = c.rows.rows from hkept]
    exact hrows

/-- **Any call on a cursor.** -/
theorem matches_perform (h : Embeds limit ids v w) (hrows : c.rows.Stored limit) (call : Call) :
    Matches Answer.Renumbered limit ids v w (perform call (c, v)) (perform call (c, w)) := by
  have hbeside : World.Beside (c, v) (c, w) := ⟨rfl, h.scripts⟩
  cases call with
  | seek move => exact (matches_seek h move).map fun _ _ _ hsame => hsame ▸ .plain _ (by simp)
  | fetch move => exact (matches_fetch h hrows move).map fun _ _ _ => .row
  | current => exact (matches_current h hrows).map fun _ _ _ => .row
  | count => exact .ok c h.refl (.plain _ (by simp))
  | setFetchSize size =>
    have hset : Matches SameAnswer limit ids v w (setFetchSize size (c, v))
        (setFetchSize size (c, w)) :=
      .of_concur h (concur_setFetchSize size hbeside) (lobState_setFetchSize size c v)
        (lobState_setFetchSize size c w)
    exact hset.map fun _ _ _ _ => .plain _ (by simp)
  | close =>
    have hclosed := (beside_close hbeside).1
    have hadvances := h.advances_of_lobState (closes_close c v).lobState
      (closes_close c w).lobState
    have hx : perform .close (c, v) = .ok .done ((close (c, v)).1, (close (c, v)).2) := rfl
    have hy : perform .close (c, w) = .ok .done ((close (c, v)).1, (close (c, w)).2) := by
      rw [hclosed]
      rfl
    rw [hx, hy]
    exact .ok _ hadvances (.plain _ (by simp))

end Cursor

namespace Statement

open World (Embeds Matches SameAnswer Advances)

variable {limit : Nat} {ids : List Nat} {v w : ClientWorld} {s : Statement}

/-! ## Operations of a statement -/

/-- What a cursor does, its statement does. -/
theorem matches_onCursor {α : Type} {Same : List Nat → α → α → Prop}
    {op : EStateM Error (Cursor ResultSet × ClientWorld) α} (h : Embeds limit ids v w)
    (hop : ∀ c, s.cursor = some c → Matches Same limit ids v w (op (c, v)) (op (c, w))) :
    Matches Same limit ids v w (onCursor op (s, v)) (onCursor op (s, w)) := by
  cases hcursor : s.cursor with
  | none =>
    simp only [onCursor, hcursor]
    exact .error _ s h.refl
  | some c =>
    obtain ⟨a, b, c', ids', v', w', hx, hy, hadvances, hsame⟩ |
      ⟨e, c', ids', v', w', hx, hy, hadvances⟩ := (hop c hcursor).cases
    · simp only [onCursor, hcursor, hx, hy]
      exact .ok _ hadvances hsame
    · simp only [onCursor, hcursor, hx, hy]
      exact .error e _ hadvances

theorem matches_fetch (h : Embeds limit ids v w) (hs : s.Stored limit) (move : Seek) :
    Matches (fun ids => Option.Rel (Row.Renumbered ids)) limit ids v w (fetch move (s, v))
      (fetch move (s, w)) :=
  matches_onCursor h fun c hc => Cursor.matches_fetch h (hs c hc) move

theorem matches_perform_onCursor (h : Embeds limit ids v w) (hs : s.Stored limit)
    (call : Cursor.Call) :
    Matches Cursor.Answer.Renumbered limit ids v w (onCursor (Cursor.perform call) (s, v))
      (onCursor (Cursor.perform call) (s, w)) :=
  matches_onCursor h fun c hc => Cursor.matches_perform h (hs c hc) call

/-- An operation that looks at the scripts alone and does not concern large objects. -/
theorem matches_of_aside {α : Type} {op : EStateM Error (Statement × ClientWorld) α}
    (h : Embeds limit ids v w) (hconcur : Concur World.Beside (op (s, v)) (op (s, w)))
    (haside : ∀ x, Aside x (leaves (op x))) :
    Matches SameAnswer limit ids v w (op (s, v)) (op (s, w)) :=
  .of_concur h hconcur (haside (s, v)).lobState (haside (s, w)).lobState

theorem matches_execute (h : Embeds limit ids v w) (sql : String) :
    Matches SameAnswer limit ids v w (execute sql (s, v)) (execute sql (s, w)) :=
  matches_of_aside h (concur_execute sql ⟨rfl, h.scripts⟩) (aside_execute sql)

theorem matches_batch (h : Embeds limit ids v w) (sqls : List String) :
    Matches SameAnswer limit ids v w (batch sqls (s, v)) (batch sqls (s, w)) :=
  matches_of_aside h (concur_batch sqls ⟨rfl, h.scripts⟩) (aside_batch sqls)

theorem matches_serial (h : Embeds limit ids v w) (choice : SerialChoice) :
    Matches SameAnswer limit ids v w (serial choice (s, v)) (serial choice (s, w)) :=
  matches_of_aside h (concur_serial choice ⟨rfl, h.scripts⟩) (aside_serial choice)

theorem matches_perform (h : Embeds limit ids v w) (args : Arguments) :
    Matches SameAnswer limit ids v w (perform args (s, v)) (perform args (s, w)) :=
  matches_of_aside h (concur_perform args ⟨rfl, h.scripts⟩) (aside_perform args)

end Statement

/-! ## Arguments -/

/-- The same arguments, up to the numbers of handles. -/
structure Arguments.Renumbered (ids : List Nat) (args args' : Arguments) : Prop where
  names : args'.names? = args.names?
  values : List.Forall₂ (Value.Renumbered ids) args.values args'.values

namespace Arguments.Renumbered

variable {ids ids' : List Nat} {args args' : Arguments}

/-- Without handles there are no numbers. -/
theorem refl (h : ∀ v ∈ args.values, v.lob? = none) : args.Renumbered ids args :=
  ⟨rfl, List.forall₂_same.mpr fun v hv => .plain v (h v hv)⟩

theorem mono (hgrows : ids <+: ids') (h : args.Renumbered ids args') : args.Renumbered ids' args' :=
  ⟨h.names, Value.Renumbered.monoAll hgrows h.values⟩

theorem size_eq (h : args.Renumbered ids args') : args'.size = args.size := h.values.length_eq.symm

theorem get (h : args.Renumbered ids args') (slot : Nat) :
    (args.get slot).Renumbered ids (args'.get slot) := by
  rw [Arguments.get, Arguments.get]
  obtain ⟨hx, hy⟩ | ⟨a, b, hx, hy, hvalue⟩ := rel_cases (rel_getElem? h.values slot)
  · rw [hx, hy]
    exact .plain .null rfl
  · rw [hx, hy]
    exact hvalue

theorem getAll {α : Type} (h : args.Renumbered ids args') (slot : α → Nat) (l : List α) :
    List.Forall₂ (Value.Renumbered ids) (l.map fun a => args.get (slot a))
      (l.map fun a => args'.get (slot a)) := by
  rw [List.forall₂_map_left_iff, List.forall₂_map_right_iff, List.forall₂_same]
  exact fun a _ => h.get (slot a)

theorem set (h : args.Renumbered ids args') (slot : Nat) {a b : Value} (hvalue : a.Renumbered ids b) :
    (args.set slot a).Renumbered ids (args'.set slot b) where
  names := by rw [names?_set, names?_set, h.names]
  values := by
    rw [values_set, values_set]
    exact forall₂_set h.values slot hvalue

end Arguments.Renumbered

/-- Of a handle that is bound the number does not matter; it is refused in any case. -/
theorem Buffer.encode_renumbered {ids : List Nat} {a b : Value} (h : a.Renumbered ids b)
    (buffer : Buffer) (host : HostType) : buffer.encode host b = buffer.encode host a := by
  cases h with
  | plain _ _ => rfl
  | lob _ => cases host <;> rfl

theorem Parameter.bind_renumbered {ids : List Nat} {a b : Value} (h : a.Renumbered ids b)
    (p : Parameter) (position : Nat) : p.bind position b = p.bind position a := by
  simp only [bind, Buffer.encode_renumbered h]

namespace Parameters

variable {ids : List Nat} {args args' : Arguments} {ps : Parameters}

/-- Slots are found by names and positions. -/
theorem slotsFor_renumbered (h : args.Renumbered ids args') :
    ps.slotsFor args' = ps.slotsFor args := by
  have hsize := h.size_eq
  have hnames := h.names
  cases args <;> cases args' <;> simp only [Arguments.names?, reduceCtorEq] at hnames
  · simp only [slotsFor, hsize]
  · simp only [slotsFor, hsize, Option.some.inj hnames]

theorem bindFrom_renumbered {vs vs' : List Value} (h : List.Forall₂ (Value.Renumbered ids) vs vs')
    (position : Nat) (items : List Parameter) :
    bindFrom position items vs' = bindFrom position items vs := by
  induction h generalizing position items with
  | nil => rfl
  | cons hvalue _ ih =>
    cases items with
    | nil => rfl
    | cons p rest => simp only [bindFrom, p.bind_renumbered hvalue, ih]

/-- **Binding looks at no number of a handle.** -/
theorem bind_renumbered (h : args.Renumbered ids args') : bind args' ps = bind args ps := by
  simp only [bind, slotsFor_renumbered h]
  cases ps.slotsFor args with
  | error e => rfl
  | ok slots =>
    have hvalues : List.Forall₂ (Value.Renumbered ids) (slots.map args.get) (slots.map args'.get) :=
      h.getAll id slots
    simp only [bindFrom_renumbered hvalues]

/-- **Outputs are written back** into the same arguments. -/
theorem assign_renumbered (h : args.Renumbered ids args') {written : List (Nat × Value)}
    (hplain : ∀ entry ∈ written, entry.2.lob? = none) :
    (∃ e, assign args written = .error e ∧ assign args' written = .error e) ∨
      ∃ a b, assign args written = .ok a ∧ assign args' written = .ok b ∧ a.Renumbered ids b := by
  induction written generalizing args args' with
  | nil => exact .inr ⟨args, args', rfl, rfl, h⟩
  | cons entry rest ih =>
    obtain ⟨slot, v⟩ := entry
    simp only [assign, h.size_eq]
    split
    · have hset := h.set slot (.plain v (hplain _ (List.mem_cons_self ..)))
      exact ih hset fun entry hentry => hplain entry (List.mem_cons_of_mem _ hentry)
    · exact .inl ⟨_, rfl, rfl⟩

end Parameters

namespace Statement

open World (Embeds Matches SameAnswer Advances)

variable {limit : Nat} {ids : List Nat} {v w : ClientWorld} {s : Statement}
  {args args' : Arguments}

theorem perform_renumbered (h : args.Renumbered ids args') : perform args' = perform args := by
  have hbind : bind args' = bind args := by
    funext x
    obtain ⟨⟨_ | ⟨handle, _ | ps⟩, cursor, options⟩, w⟩ := x
    · rfl
    · rfl
    · simp only [bind, Parameters.bind_renumbered h]
  simp only [perform, hbind]

/-- **Executions with arguments that match**: the results are the same, and the statement is left
the same, and so are the arguments, up to the numbers of handles. -/
def MatchesWith (limit : Nat) (ids : List Nat) (v w : ClientWorld)
    (r r' : EStateM.Result Error (Arguments × Statement × ClientWorld) Int) : Prop :=
  ∃ a b s' ids' v' w', leaves r = (a, s', v') ∧ leaves r' = (b, s', w') ∧
    answered r' = answered r ∧ a.Renumbered ids' b ∧ Advances limit ids v w ids' v' w'

theorem matches_writeBack (h : Embeds limit ids v w) (hargs : args.Renumbered ids args')
    (count : Int) :
    MatchesWith limit ids v w ((writeBack >>= fun _ => pure count) (args, s, v))
      ((writeBack >>= fun _ => pure count) (args', s, w)) := by
  have hkept (e : Error) :
      MatchesWith limit ids v w (.error e (args, s, v)) (.error e (args', s, w)) :=
    ⟨args, args', s, ids, v, w, rfl, rfl, rfl, hargs, h.refl⟩
  cases hparameters : s.parameters? with
  | none =>
    have hnothing (args : Arguments) (w : ClientWorld) :
        writeBack (args, s, w) = .ok () (args, s, w) := by simp only [writeBack, hparameters]
    rw [run_bind_ok (hnothing args v), run_bind_ok (hnothing args' w)]
    exact ⟨args, args', s, ids, v, w, rfl, rfl, rfl, hargs, h.refl⟩
  | some ps =>
    cases houtputs : ps.outputs with
    | error e =>
      have hfails (args : Arguments) (w : ClientWorld) :
          writeBack (args, s, w) = .error e (args, s, w) := by
        simp only [writeBack, hparameters, houtputs]
      rw [run_bind_error (hfails args v), run_bind_error (hfails args' w)]
      exact hkept e
    | ok outputs =>
      have hplain : ∀ entry ∈ outputs, entry.2.lob? = none := fun _ hentry =>
        Parameters.lob?_of_outputs houtputs hentry
      rcases Parameters.assign_renumbered hargs hplain with ⟨e, hx, hy⟩ | ⟨a, b, hx, hy, hwritten⟩
      · have hleft : writeBack (args, s, v) = .error e (args, s, v) := by
          simp only [writeBack, hparameters, houtputs, hx]
        have hright : writeBack (args', s, w) = .error e (args', s, w) := by
          simp only [writeBack, hparameters, houtputs, hy]
        rw [run_bind_error hleft, run_bind_error hright]
        exact hkept e
      · have hleft : writeBack (args, s, v) =
            .ok () (a, s, v.releaseAll (outputs.map fun entry => args.get entry.1)) := by
          simp only [writeBack, hparameters, houtputs, hx]
        have hright : writeBack (args', s, w) =
            .ok () (b, s, w.releaseAll (outputs.map fun entry => args'.get entry.1)) := by
          simp only [writeBack, hparameters, houtputs, hy]
        have hdropped := h.releaseAll (hargs.getAll Prod.fst outputs)
        rw [run_bind_ok hleft, run_bind_ok hright]
        exact ⟨a, b, s, ids, _, _, rfl, rfl, rfl, hwritten, hdropped⟩

/-- **An execution with arguments**, inside and outside. -/
theorem matches_executeWith (h : Embeds limit ids v w) (hargs : args.Renumbered ids args') :
    MatchesWith limit ids v w (executeWith (args, s, v)) (executeWith (args', s, w)) := by
  cases hlink : s.link with
  | none =>
    rw [executeWith_of_closed hlink, executeWith_of_closed hlink]
    exact ⟨args, args', s, ids, v, w, rfl, rfl, rfl, hargs, h.refl⟩
  | some link =>
    obtain ⟨handle, _ | ps⟩ := link
    · rw [executeWith_of_direct hlink, executeWith_of_direct hlink]
      exact ⟨args, args', s, ids, v, w, rfl, rfl, rfl, hargs, h.refl⟩
    · obtain ⟨count, _, s', ids', v', w', hx, hy, hadvances, rfl⟩ |
        ⟨e, s', ids', v', w', hx, hy, hadvances⟩ := (matches_perform (s := s) h args).cases
      · rw [← perform_renumbered hargs] at hy
        rw [executeWith_of_result hlink hx, executeWith_of_result hlink hy]
        obtain ⟨a, b, s'', ids'', v'', w'', hleft, hright, hsame, hwritten, hback⟩ :=
          matches_writeBack (s := s') hadvances.embeds (hargs.mono hadvances.grows) count
        exact ⟨a, b, s'', ids'', v'', w'', hleft, hright, hsame, hwritten, hadvances.trans hback⟩
      · rw [← perform_renumbered hargs] at hy
        rw [executeWith_of_error hlink hx, executeWith_of_error hlink hy]
        exact ⟨args, args', s', ids', v', w', rfl, rfl, rfl, hargs.mono hadvances.grows, hadvances⟩

end Statement
end SqlClient
