import SqlClient.Proofs.CurrentResultSet
import SqlClient.Proofs.FailedRows
import SqlClient.Proofs.ForwardIteration
import SqlClient.Proofs.OptionsInEffect
import SqlClient.Proofs.WriteBackAfterBinding

/-! # The description of the current result set

A statement answers by its cursor whether there is a result set, what its columns are, which of them
has a number, and what the rows are.  The cursor holds the columns apart from the result set, so
that the two could come to differ.  They never do: what a cursor shows is fixed when it is opened
(`Cursor.table_perform`), and it is opened over a result that has columns
(`Statement.cursor_after_cases`).

So all answers of a statement are about one result, that of its last execution
(`Statement.LastResult`), and they agree with each other (`Statement.agrees_of_run`).  Every step
finds a world of its own, so scripts may be registered again in between.
-/
namespace SqlClient

open Scripted

/-- What reading a row can fail with: the server refuses it, or a value does not convert or does not
fit. -/
inductive ReadError : Error → Prop
  | refused (refusal : Refusal) : ReadError (.refused refusal)
  | conversion (fault : ConversionFault) : ReadError (.conversion fault)
  | bufferTooSmall (needed available : Nat) : ReadError (.bufferTooSmall needed available)

theorem ReadError.ne_noResultSet {e : Error} (h : ReadError e) : e ≠ .noResultSet := by
  cases h <;> simp

namespace Scripted

variable {column : Column} {columns : List Column} {cells : List Cell} {decoded all : List Value}
  {row : Row} {w w' : ClientWorld} {e : Error}

/-- The server answers a SQL text with a result. -/
def Server.AnswersWith (s : Server) (sql : String) (result : Result) : Prop :=
  ∃ script, s.script? sql = .ok script ∧ script.action = .query result

theorem Server.AnswersWith.unique {s : Server} {sql : String} {result result' : Result}
    (h : s.AnswersWith sql result) (h' : s.AnswersWith sql result') : result = result' := by
  obtain ⟨script, hscript, haction⟩ := h
  obtain ⟨script', hscript', haction'⟩ := h'
  obtain rfl := Except.ok.inj (hscript.symm.trans hscript')
  exact Action.query.inj (haction.symm.trans haction')

/-! ## Rows -/

/-- There is one value for each column. -/
theorem length_decodeCells {cell : Nat → Except Error Cell} {number : Nat}
    (h : decodeCells cell number decoded columns w = .ok all w') :
    all.length = decoded.length + columns.length := by
  induction columns generalizing number decoded w with
  | nil =>
    cases h
    exact List.length_reverse
  | cons column rest ih =>
    rw [decodeCells] at h
    cases hcell : cell number with
    | error e =>
      rw [hcell] at h
      cases h
    | ok c =>
      simp only [hcell] at h
      cases hdecode : c.decode column w with
      | error e w₁ =>
        rw [hdecode] at h
        cases h
      | ok v w₁ =>
        rw [hdecode] at h
        rw [ih h, List.length_cons, List.length_cons]
        omega

/-- A row has the columns it is decoded under, and one value for each. -/
theorem shape_decodeRowOf (h : decodeRowOf columns cells w = .ok row w') :
    row.columns = columns ∧ row.values.length = columns.length := by
  rw [decodeRowOf] at h
  cases hcells : decodeCells (cellOf cells) 1 [] columns w with
  | error e w₁ =>
    rw [run_bind_error hcells] at h
    cases h
  | ok values w₁ =>
    rw [run_bind_ok hcells] at h
    cases h
    exact ⟨rfl, (length_decodeCells hcells).trans (Nat.zero_add _)⟩

theorem readError_of_encode {b : Buffer} {host : HostType} {v : Value}
    (h : b.encode host v = .error e) : ReadError e := by
  rcases Buffer.encode_error h with ⟨fault, rfl⟩ | ⟨needed, rfl⟩
  · exact .conversion fault
  · exact .bufferTooSmall needed b.capacity

theorem readError_of_putCell {s : Server} {host : HostType} {cell : Cell} {b : Buffer}
    (h : ResultSet.putCell s host cell b = .error e) : ReadError e := by
  cases cell with
  | null => cases h
  | text t =>
    rw [ResultSet.putCell] at h
    split at h
    · exact Buffer.putBytes_error h ▸ .bufferTooSmall 0 b.capacity
    · exact readError_of_encode h
  | int | double | bytes | lob => exact readError_of_encode h

/-- Only a value that is transferred can fail; opening a large object does not. -/
theorem readError_of_decode {cell : Cell} (h : cell.decode column w = .error e w') :
    ReadError e := by
  cases hkind : column.hostType.lobKind? with
  | none =>
    rw [Cell.decode_of_scalar hkind] at h
    split at h
    · cases h
    · rename_i e' hread
      cases h
      rcases bind_eq_error hread with hput | ⟨b, -, hdecode⟩
      · exact readError_of_putCell hput
      · rcases Buffer.decode_error hdecode with ⟨fault, rfl⟩ | ⟨needed, available, rfl⟩
        · exact .conversion fault
        · exact .bufferTooSmall needed available
  | some kind =>
    rw [Cell.decode_of_lob hkind] at h
    split at h <;> cases h

theorem readError_of_cellOf {number : Nat} (h : cellOf cells number = .error e) :
    ReadError e := by
  unfold cellOf at h
  split at h
  · exact Except.error.inj h ▸ .refused _
  · split at h
    · cases h
    · exact Except.error.inj h ▸ .refused _

theorem readError_of_decodeRowOf (h : decodeRowOf columns cells w = .error e w') :
    ReadError e := by
  rw [decodeRowOf] at h
  cases hcells : decodeCells (cellOf cells) 1 [] columns w with
  | ok values w₁ =>
    rw [run_bind_ok hcells] at h
    cases h
  | error e' w₁ =>
    rw [run_bind_error hcells] at h
    cases h
    obtain ⟨k, column, _, w₂, -, -, hfails, -⟩ := decodeCells_eq_error hcells
    -- the column that fails has no cell, or one that does not decode
    cases hcell : cellOf cells (1 + k) with
    | error e' =>
      simp only [decodeCell, hcell] at hfails
      exact Option.some.inj hfails ▸ readError_of_cellOf hcell
    | ok c =>
      simp only [decodeCell, hcell] at hfails
      cases hdecode : c.decode column w₂ with
      | ok v w₃ =>
        rw [hdecode] at hfails
        cases hfails
      | error e' w₃ =>
        rw [hdecode] at hfails
        exact Option.some.inj hfails ▸ readError_of_decode hdecode

end Scripted

/-! ## What a cursor shows -/

namespace Cursor

variable {c c' : Cursor ResultSet} {move : Seek} {w w' : ClientWorld} {row : Row}

/-- **All that a fetch can come to**: it is refused, it leaves the rows, or it decodes the row that
the cursor has come to. -/
theorem fetch_eq (move : Seek) (c : Cursor ResultSet) (w : ClientWorld) :
    (∃ refusal, fetch move (c, w) = .error (.refused refusal) (c, w)) ∨
    fetch move (c, w) = .ok none (c.moved move, w) ∨
    ∃ k cells buffer, c.rows.rows[k]? = some cells ∧ (c.moved move).rowNumber = k + 1 ∧
      fetch move (c, w) = (c.moved move).withRead buffer
        ((do return some (← decodeRowOf c.columns cells) : EStateM Error ClientWorld _) w) := by
  cases hclosed : c.rows.isClosed with
  | true =>
    refine .inl ⟨.resultSetClosed, ?_⟩
    rw [fetch, run_bind_error (seek_of_closed hclosed move w)]
  | false =>
    have hseek := seek_of_open hclosed move w
    by_cases hrefused : c.rows.isForwardOnly ∧ move ≠ .next
    · rw [if_pos hrefused] at hseek
      refine .inl ⟨.forwardOnly move, ?_⟩
      rw [fetch, run_bind_error hseek]
    · rw [if_neg hrefused] at hseek
      refine .inr ?_
      by_cases hrow : (c.rows.moved move).onRow = true
      · rw [if_pos hrow] at hseek
        obtain ⟨hpos, hle⟩ := (ResultSet.onRow_iff _).mp hrow
        have hstanding : (c.moved move).standing = .onRow := if_pos hrow
        have hcells := List.getElem?_eq_getElem
          (show (c.rows.moved move).position - 1 < (c.rows.moved move).rows.length by omega)
        obtain ⟨buffer, hcurrent⟩ :=
          current_of_row (c := c.moved move) hstanding hclosed hpos hcells w
        refine .inr ⟨(c.rows.moved move).position - 1, _, buffer, hcells, ?_, ?_⟩
        · have hremote : RemoteRows.rowNumber (c.moved move).rows =
              (c.rows.moved move).rowNumber := rfl
          simp only [rowNumber, hstanding, hremote, ResultSet.rowNumber, if_pos hrow]
          omega
        · rw [fetch, run_bind_ok hseek]
          exact hcurrent
      · rw [if_neg hrow] at hseek
        refine .inl ?_
        rw [fetch, run_bind_ok hseek]
        rfl

/-- A fetch fails as the server refuses it, or as a row fails. -/
theorem fetch_error {e : Error} {state : Cursor ResultSet × ClientWorld}
    (h : fetch move (c, w) = .error e state) : ReadError e := by
  rcases fetch_eq move c w with
    ⟨refusal, hfetch⟩ | hfetch | ⟨k, cells, buffer, -, -, hfetch⟩
  · cases hfetch.symm.trans h
    exact .refused refusal
  · cases hfetch.symm.trans h
  · rw [hfetch] at h
    cases hdecode : decodeRowOf c.columns cells w with
    | ok row w₁ =>
      rw [run_bind_ok hdecode] at h
      cases h
    | error e' w₁ =>
      rw [run_bind_error hdecode] at h
      cases h
      exact readError_of_decodeRowOf hdecode

/-- **A row that is fetched** is the one that the cursor has come to. -/
theorem fetch_eq_row (h : fetch move (c, w) = .ok (some row) (c', w')) :
    ∃ k cells, c.rows.rows[k]? = some cells ∧ c'.rowNumber = k + 1 ∧
      decodeRowOf c.columns cells w = .ok row w' := by
  rcases fetch_eq move c w with
    ⟨refusal, hfetch⟩ | hfetch | ⟨k, cells, buffer, hcells, hnumber, hfetch⟩
  · cases hfetch.symm.trans h
  · cases hfetch.symm.trans h
  · rw [hfetch] at h
    cases hdecode : decodeRowOf c.columns cells w with
    | error e w₁ =>
      rw [run_bind_error hdecode] at h
      cases h
    | ok row' w₁ =>
      rw [run_bind_ok hdecode] at h
      cases h
      exact ⟨k, cells, hcells, hnumber, hdecode⟩

/-- **A cursor presents a result**: it has the columns that the result describes, at least one, and
shows rows of the result from the first on. -/
structure Presents (result : Result) (c : Cursor ResultSet) : Prop where
  described : Column.ofDescriptions result.columns = .ok c.columns
  columns : c.columns ≠ []
  metadata : c.rows.columns = result.columns
  rows : c.rows.rows <+: result.rows

/-- It does so as long as it shows the same. -/
theorem Presents.of_table {result : Result} (h : c.Presents result) (htable : c'.table = c.table) :
    c'.Presents result := by
  simp only [table, Prod.mk.injEq] at htable
  obtain ⟨hmetadata, hrows, hcolumns⟩ := htable
  exact ⟨hcolumns ▸ h.described, hcolumns ▸ h.columns, hmetadata.trans h.metadata, hrows ▸ h.rows⟩

end Cursor

namespace Statement

variable {s start : Statement} {w : ClientWorld} {c : Cursor ResultSet} {h : Handle}
  {ps : Parameters} {result : Result}

/-! ## Opening a cursor -/

/-- A cursor that is opened presents the result of the script. -/
theorem presents_of_takeResult {script : Script} {settings : Settings} {inputs outputs : List Value}
    {execution : Execution} (hanswer : script.answer settings inputs = .ok (execution, outputs))
    (hnone : s.cursor = none) (hc : (leaves (takeResult execution (s, w))).1.cursor = some c) :
    ∃ result, script.action = .query result ∧ c.Presents result := by
  cases execution with
  | update rowsAffected =>
    rw [takeResult, leaves_ok, hnone] at hc
    cases hc
  | query rows =>
    obtain ⟨result, haction, rfl, -⟩ := Script.query_of_answer hanswer
    refine ⟨result, haction, ?_⟩
    have hopen : (Handle.resultSet settings result).isClosed = false := rfl
    have hmetadata : (Handle.resultSet settings result).columns = result.columns := rfl
    simp only [takeResult, openCursor_of_open s.options hopen, hmetadata] at hc
    cases hcolumns : Column.ofDescriptions result.columns with
    | error e =>
      simp only [hcolumns, leaves_error, hnone] at hc
      cases hc
    | ok columns =>
      cases columns with
      | nil =>
        simp only [hcolumns, leaves_error, hnone] at hc
        cases hc
      | cons column rest =>
        simp only [hcolumns, leaves_ok, Option.some.injEq] at hc
        subst hc
        exact ⟨hcolumns, by simp, rfl, Handle.rows_resultSet settings result ▸ List.take_prefix ..⟩

/-- The cursor of a direct execution presents what the server answers the text with. -/
theorem presents_of_execute (hlink : s.link = some ⟨h, none⟩) {sql : String}
    (hc : (leaves (execute sql (s, w))).1.cursor = some c) :
    ∃ result, w.server.AnswersWith sql result ∧ c.Presents result := by
  obtain ⟨w₁, hcloses, hrefresh⟩ := refresh_eq hlink w
  rw [execute_of_direct hlink] at hc
  split at hrefresh
  · rw [run_bind_error hrefresh] at hc
    cases hc
  rw [run_bind_ok hrefresh] at hc
  cases hexecute : Handle.execute sql (h.given s.options, w₁.server) with
  | error e state =>
    have hfails : onHandle (Handle.execute sql)
        ({ s with link := some ⟨h.given s.options, none⟩, cursor := none }, w₁) =
          .error e ({ s with link := some ⟨state.1, none⟩, cursor := none },
            { w₁ with server := state.2 }) := by
      simp only [onHandle, hexecute]
    rw [run_bind_error hfails] at hc
    cases hc
  | ok execution state =>
    have hanswers : onHandle (Handle.execute sql)
        ({ s with link := some ⟨h.given s.options, none⟩, cursor := none }, w₁) =
          .ok execution ({ s with link := some ⟨state.1, none⟩, cursor := none },
            { w₁ with server := state.2 }) := by
      simp only [onHandle, hexecute]
    rw [run_bind_ok hanswers] at hc
    obtain ⟨-, script, outputs, hscript, hanswer⟩ := Handle.execute_eq_ok hexecute
    obtain ⟨result, haction, hpresents⟩ := presents_of_takeResult hanswer rfl hc
    exact ⟨result, ⟨script, (hcloses.unasked.script? sql).symm.trans hscript, haction⟩, hpresents⟩

/-- That of an execution with arguments presents what the server answers the prepared text with. -/
theorem presents_of_perform (hlink : s.link = some ⟨h, some ps⟩) {args : Arguments}
    (hc : (leaves (perform args (s, w))).1.cursor = some c) :
    ∃ sql result, h.prepared = some sql ∧ w.server.AnswersWith sql result ∧ c.Presents result := by
  cases hrefused : h.isReleased && s.options.concernHandle with
  | true =>
    obtain ⟨w₁, -, hrefresh⟩ := refresh_eq hlink w
    rw [hrefused, if_pos rfl] at hrefresh
    rw [perform, run_bind_error hrefresh] at hc
    cases hc
  | false =>
    obtain ⟨entries, h', w₁, -, -, -, hexchanged⟩ := exchange_eq hlink hrefused args w
    rw [perform_eq_bind] at hc
    cases hexchange : Parameters.exchange args (h.given s.options) w.server ps with
    | error e ps' =>
      rw [hexchange] at hexchanged
      rw [run_bind_error hexchanged] at hc
      cases hc
    | ok execution ps' =>
      rw [hexchange] at hexchanged
      rw [run_bind_ok hexchanged] at hc
      obtain ⟨bound, bindings, -, hserve, -⟩ := Parameters.exchange_eq_ok hexchange
      obtain ⟨outputs, hreply, -⟩ := Handle.serve_eq_ok_iff.mp hserve
      obtain ⟨script, inputs, haccept, hanswer⟩ := Handle.reply_eq_ok_iff.mp hreply
      obtain ⟨-, ⟨sql, hprepared, hscript⟩, -⟩ := Handle.accept_eq_ok_iff.mp haccept
      obtain ⟨result, haction, hpresents⟩ := presents_of_takeResult hanswer rfl hc
      exact ⟨sql, result, hprepared, ⟨script, hscript, haction⟩, hpresents⟩

/-- Writing back leaves the cursor. -/
theorem cursor_executeWith (hlink : s.link = some ⟨h, some ps⟩) (args : Arguments)
    (w : ClientWorld) : (leaves (executeWith (args, s, w))).2.1.cursor =
      (leaves (perform args (s, w))).1.cursor := by
  cases hperform : perform args (s, w) with
  | error e state => rw [executeWith_of_error hlink hperform, leaves_error, leaves_error]
  | ok count state =>
    rw [executeWith_of_result hlink hperform, leaves_bind_pure,
      (sameResultSets_writeBack args state.1 state.2).1, leaves_ok]

/-! ## One operation -/

/-- The SQL text that an operation executes: a direct statement is given one, and a prepared one has
its own. -/
def text? (s : Statement) (op : Operation) : Option String :=
  match s.link, op with
  | some ⟨_, none⟩, .execute sql => some sql
  | some ⟨h, some _⟩, .executeWith _ => h.prepared
  | _, _ => none

/-- An operation that executes a text ends the result set there was. -/
theorem ends_of_text? {op : Operation} {sql : String} (htext : s.text? op = some sql) :
    s.Ends op := by
  unfold text? at htext
  split at htext
  · rename_i hlink
    exact isPrepared_of_link hlink
  · rename_i hlink
    exact .inl (isPrepared_of_link hlink)
  · cases htext

/-- **Where the cursor comes from** after an operation: it was opened by it and presents what the
server answers, or it shows what it showed before and the operation ended no result set. -/
theorem cursor_after_cases (hclosed : s.link = none → s.cursor = none) {op : Operation}
    (hc : (after op (s, w)).1.cursor = some c) :
    (∃ sql result, s.text? op = some sql ∧ w.server.AnswersWith sql result ∧ c.Presents result) ∨
      ¬ s.Ends op ∧ ∃ c₀, s.cursor = some c₀ ∧ c.table = c₀.table := by
  cases op with
  | configure later => exact .inr ⟨not_false, c, hc, rfl⟩
  | execute sql =>
    cases hlink : s.link with
    | none =>
      rw [after, execute_of_closed hlink, leaves_error, hclosed hlink] at hc
      cases hc
    | some link =>
      obtain ⟨h, _ | ps⟩ := link
      · obtain ⟨result, hanswers, hpresents⟩ := presents_of_execute hlink hc
        exact .inl ⟨sql, result, by simp only [text?, hlink], hanswers, hpresents⟩
      · rw [after, execute_of_prepared hlink, leaves_error] at hc
        exact .inr ⟨by simp [Ends, isPrepared_of_link hlink], c, hc, rfl⟩
  | executeWith args =>
    cases hlink : s.link with
    | none =>
      rw [after, executeWith_of_closed hlink, leaves_error, hclosed hlink] at hc
      cases hc
    | some link =>
      obtain ⟨h, _ | ps⟩ := link
      · rw [after, executeWith_of_direct hlink, leaves_error] at hc
        exact .inr ⟨by simp [Ends, isPrepared_of_link hlink, isClosed, hlink], c, hc, rfl⟩
      · rw [after, cursor_executeWith hlink] at hc
        obtain ⟨sql, result, hprepared, hanswers, hpresents⟩ := presents_of_perform hlink hc
        exact .inl ⟨sql, result, by simp only [text?, hlink, hprepared], hanswers, hpresents⟩
  | batch sqls =>
    rw [after, cursor_batch] at hc
    cases hc
  | serial choice =>
    rw [after, cursor_serial] at hc
    exact .inr ⟨not_false, c, hc, rfl⟩
  | cursor call =>
    rw [after, leaves_onCursor] at hc
    cases hcursor : s.cursor with
    | none => simp only [hcursor, reduceCtorEq] at hc
    | some c₀ =>
      simp only [hcursor, Option.some.injEq] at hc
      exact .inr ⟨not_false, c₀, rfl, hc ▸ Cursor.table_perform call c₀ w⟩
  | close =>
    rw [after, close_fst] at hc
    cases hc

/-! ## Runs -/

/-- The statement was made on some handle, directly or for a SQL text. -/
inductive Created (s : Statement) : Prop
  | direct {h : Handle} {options : Options} {w w' : ClientWorld} :
      new h options w = .ok s w' → Created s
  | prepared {h : Handle} {sql : String} {options : Options} {w w' : ClientWorld} :
      prepare h sql options w = .ok s w' → Created s

theorem Created.cursor (hcreated : Created s) : s.cursor = none := by
  cases hcreated with
  | @direct h options w w' hnew =>
    rw [new] at hnew
    cases hsetUp : setUp h (Handle.applyOptions options) w with
    | error e w₁ =>
      rw [run_bind_error hsetUp] at hnew
      cases hnew
    | ok made w₁ =>
      rw [run_bind_ok hsetUp] at hnew
      cases hnew
      rfl
  | @prepared h sql options w w' hprepare =>
    obtain ⟨-, -, ps, -, rfl⟩ := prepare_eq_ok hprepare
    rfl

/-- **The result of the last execution** in a run.  Either the last step executed a SQL text that
the server answers with the result, or it was the result before and the last step ended no result
set. -/
inductive LastResult (start : Statement) : List (Operation × ClientWorld) → Result → Prop
  | executed {steps : List (Operation × ClientWorld)} {op : Operation} {w : ClientWorld}
      {sql : String} {result : Result} : (start.runIn steps).text? op = some sql →
      w.server.AnswersWith sql result → LastResult start (steps ++ [(op, w)]) result
  | kept {steps : List (Operation × ClientWorld)} {op : Operation} {w : ClientWorld}
      {result : Result} : LastResult start steps result → ¬ (start.runIn steps).Ends op →
      LastResult start (steps ++ [(op, w)]) result

/-- There is at most one. -/
theorem LastResult.unique {steps : List (Operation × ClientWorld)} {result result' : Result}
    (h : LastResult start steps result) (h' : LastResult start steps result') :
    result = result' := by
  induction h with
  | @executed steps op w sql result htext hanswers =>
    generalize hrun : steps ++ [(op, w)] = run at h'
    cases h' with
    | executed htext' hanswers' =>
      obtain ⟨rfl, hstep⟩ := List.append_inj' hrun rfl
      cases hstep
      obtain rfl := Option.some.inj (htext.symm.trans htext')
      exact hanswers.unique hanswers'
    | kept _ hkeeps =>
      obtain ⟨rfl, hstep⟩ := List.append_inj' hrun rfl
      cases hstep
      exact absurd (ends_of_text? htext) hkeeps
  | @kept steps op w result _ hkeeps ih =>
    generalize hrun : steps ++ [(op, w)] = run at h'
    cases h' with
    | executed htext _ =>
      obtain ⟨rfl, hstep⟩ := List.append_inj' hrun rfl
      cases hstep
      exact absurd (ends_of_text? htext) hkeeps
    | kept hlast _ =>
      obtain ⟨rfl, hstep⟩ := List.append_inj' hrun rfl
      exact ih hlast

/-- **What a run keeps**: a cursor presents the result of the last execution, and a closed statement
has none. -/
structure Traced (start : Statement) (steps : List (Operation × ClientWorld)) : Prop where
  closed : (start.runIn steps).link = none → (start.runIn steps).cursor = none
  cursor : ∀ c, (start.runIn steps).cursor = some c →
    ∃ result, LastResult start steps result ∧ c.Presents result

variable {steps : List (Operation × ClientWorld)}

theorem Traced.step (htraced : Traced start steps) (op : Operation) (w : ClientWorld) :
    Traced start (steps ++ [(op, w)]) := by
  have hrun : start.runIn (steps ++ [(op, w)]) = (after op (start.runIn steps, w)).1 :=
    List.foldl_concat ..
  constructor
  · rw [hrun]
    exact closed_after htraced.closed op w
  · intro c hc
    rw [hrun] at hc
    rcases cursor_after_cases htraced.closed hc with
      ⟨sql, result, htext, hanswers, hpresents⟩ | ⟨hkeeps, c₀, hc₀, htable⟩
    · exact ⟨result, .executed htext hanswers, hpresents⟩
    · obtain ⟨result, hlast, hpresents⟩ := htraced.cursor c₀ hc₀
      exact ⟨result, .kept hlast hkeeps, hpresents.of_table htable⟩

/-- **Every run of a new statement keeps it.** -/
theorem Created.traced (hcreated : Created start) (steps : List (Operation × ClientWorld)) :
    Traced start steps := by
  induction steps using List.reverseRecOn with
  | nil =>
    have hnone : (start.runIn []).cursor = none := hcreated.cursor
    exact ⟨fun _ => hnone, by simp [hnone]⟩
  | append_singleton steps step ih => exact ih.step step.1 step.2

/-! ## What a caller sees -/

/-- **The statement describes a result**: its columns, each by its number, and the rows that are
fetched are those of the result. -/
structure Describes (s : Statement) (result : Result) : Prop where
  columns : Column.ofDescriptions result.columns = .ok s.columns
  column_iff : ∀ number column, s.column number = .ok column ↔
    1 ≤ number ∧ number ≤ s.columns.length ∧ s.columns[number - 1]? = some column
  column_outside : ∀ number, ¬ (1 ≤ number ∧ number ≤ s.columns.length) →
    s.column number = .error (.columnOutOfRange number s.columns.length)
  /-- A row that is fetched is the one of the row number, decoded under these columns. -/
  row : ∀ move w row s' w', fetch move (s, w) = .ok (some row) (s', w') →
    ∃ k cells, s'.rowNumber = k + 1 ∧ result.rows[k]? = some cells ∧
      decodeRowOf s.columns cells w = .ok row w' ∧
      row.values.length = s.columns.length ∧ row.labels = s.columns.map Column.label

/-- **All that a statement tells of its current result set agrees**, and is about the one result of
its last execution. -/
structure Agrees (start : Statement) (steps : List (Operation × ClientWorld)) (s : Statement) :
    Prop where
  columns : s.isQuery = true ↔ s.columns ≠ []
  fetch : ∀ move w, s.isQuery = true ↔
    ∀ state, Statement.fetch move (s, w) ≠ .error .noResultSet state
  column : s.isQuery = true ↔ ∃ number column, s.column number = .ok column
  current : s.isQuery = true → ∃ result, s.Describes result ∧
    ∀ result', LastResult start steps result' ↔ result' = result

theorem columns_of_cursor (hc : s.cursor = some c) : s.columns = c.columns := by
  simp only [columns, hc]

theorem isQuery_of_cursor (hc : s.cursor = some c) : s.isQuery = true := by
  simp only [isQuery, hc, Option.isSome_some]

/-- There is no column before the first. -/
theorem column_zero (hc : s.cursor = some c) :
    s.column 0 = .error (.columnOutOfRange 0 s.columns.length) := by
  simp only [column, columns, hc]

theorem column_succ (hc : s.cursor = some c) (index : Nat) :
    s.column (index + 1) =
      match s.columns[index]? with
      | some column => .ok column
      | none => .error (.columnOutOfRange (index + 1) s.columns.length) := by
  rw [columns_of_cursor hc]
  cases hcolumn : c.columns[index]? <;> simp only [column, hc, hcolumn]

theorem column_eq_ok_iff (hc : s.cursor = some c) (number : Nat) (column : Column) :
    s.column number = .ok column ↔
      1 ≤ number ∧ number ≤ s.columns.length ∧ s.columns[number - 1]? = some column := by
  cases number with
  | zero =>
    rw [column_zero hc]
    exact iff_of_false nofun fun hrange => absurd hrange.1 (by decide)
  | succ index =>
    rw [column_succ hc, Nat.add_sub_cancel]
    cases hcolumn : s.columns[index]? with
    | none => exact iff_of_false nofun fun hrange => nomatch hrange.2.2
    | some column' =>
      have hlt := (List.getElem?_eq_some_iff.mp hcolumn).1
      constructor
      · rintro ⟨⟩
        exact ⟨Nat.succ_pos index, hlt, rfl⟩
      · rintro ⟨-, -, ⟨⟩⟩
        rfl

theorem column_eq_outOfRange (hc : s.cursor = some c) {number : Nat}
    (houtside : ¬ (1 ≤ number ∧ number ≤ s.columns.length)) :
    s.column number = .error (.columnOutOfRange number s.columns.length) := by
  cases number with
  | zero => exact column_zero hc
  | succ index =>
    have hnone : s.columns[index]? = none := List.getElem?_eq_none (by omega)
    rw [column_succ hc, hnone]

theorem fetch_of_cursor (hc : s.cursor = some c) (move : Seek) (w : ClientWorld) :
    fetch move (s, w) =
      match Cursor.fetch move (c, w) with
      | .ok row (c, w) => .ok row ({ s with cursor := some c }, w)
      | .error e (c, w) => .error e ({ s with cursor := some c }, w) := by
  cases hresult : Cursor.fetch move (c, w) <;> simp only [fetch, onCursor, hc, hresult]

/-- A statement describes the result that its cursor presents. -/
theorem describes_of_presents (hc : s.cursor = some c) (hpresents : c.Presents result) :
    s.Describes result where
  columns := columns_of_cursor hc ▸ hpresents.described
  column_iff := column_eq_ok_iff hc
  column_outside _ houtside := column_eq_outOfRange hc houtside
  row := by
    intro move w row s' w' hfetch
    rw [fetch_of_cursor hc] at hfetch
    cases hresult : Cursor.fetch move (c, w) with
    | error e state =>
      rw [hresult] at hfetch
      cases hfetch
    | ok row' state =>
      rw [hresult] at hfetch
      cases hfetch
      obtain ⟨k, cells, hcells, hnumber, hdecode⟩ := Cursor.fetch_eq_row hresult
      obtain ⟨hcolumns, hlength⟩ := shape_decodeRowOf hdecode
      rw [columns_of_cursor hc]
      exact ⟨k, cells, hnumber, getElem?_of_prefix hpresents.rows hcells, hdecode, hlength,
        by rw [Row.labels, hcolumns]⟩

/-- **A statement always agrees with itself about its current result set**, whatever was done with
it and in whatever worlds.  The result is that of the last execution, also when the server answers
the same text differently by now or the statement has other options. -/
theorem agrees_of_run (hcreated : Created start) (steps : List (Operation × ClientWorld)) :
    Agrees start steps (start.runIn steps) := by
  have htraced := hcreated.traced steps
  cases hc : (start.runIn steps).cursor with
  | none =>
    have hidle := idle_iff.mpr hc
    have hnot : ¬ (start.runIn steps).isQuery = true := by simp [hidle.isQuery]
    refine ⟨iff_of_false hnot (by simp [hidle.columns]), fun move w => ?_, ?_, fun hquery => ?_⟩
    · exact iff_of_false hnot fun hfetch => hfetch _ (hidle.fetch move w)
    · refine iff_of_false hnot ?_
      rintro ⟨number, column, hcolumn⟩
      rw [Statement.column, hc] at hcolumn
      cases hcolumn
    · exact absurd hquery hnot
  | some c =>
    obtain ⟨result, hlast, hpresents⟩ := htraced.cursor c hc
    have hquery := isQuery_of_cursor hc
    have hdescribes := describes_of_presents hc hpresents
    have hcolumns : (start.runIn steps).columns ≠ [] := columns_of_cursor hc ▸ hpresents.columns
    refine ⟨iff_of_true hquery hcolumns, fun move w => iff_of_true hquery fun state hfetch => ?_,
      iff_of_true hquery ?_, fun _ => ⟨result, hdescribes, fun result' => ?_⟩⟩
    · rw [fetch_of_cursor hc] at hfetch
      cases hresult : Cursor.fetch move (c, w) with
      | ok row state' =>
        rw [hresult] at hfetch
        cases hfetch
      | error e state' =>
        rw [hresult] at hfetch
        cases hfetch
        exact (Cursor.fetch_error hresult).ne_noResultSet rfl
    · obtain ⟨column, rest, hcons⟩ := List.exists_cons_of_ne_nil hcolumns
      exact ⟨1, column, (hdescribes.column_iff 1 column).mpr (by simp [hcons])⟩
    · constructor
      · exact fun hlast' => hlast'.unique hlast
      · rintro rfl
        exact hlast

/-- A result with two columns is current when the text is registered again, with one column of
another type, and the statement is told of a row limit. -/
theorem agrees_of_run_registered_again :
    let sql := "SELECT * FROM T"
    let wide : Result := ⟨[.ofLength "A" SqlType.integer.code 10,
      .ofLength "B" SqlType.varcharAscii.code 5], [[.int 1, .text "x"], [.int 2, .text "y"]]⟩
    let narrow : Result := ⟨[.ofLength "N" SqlType.float.code 10], [[.int 7]]⟩
    let world (result : Result) : ClientWorld :=
      .new (Server.empty.register sql ⟨.query result, [], none⟩)
    let steps : List (Operation × ClientWorld) :=
      [(.execute sql, world wide), (.cursor (.seek .next), world narrow),
        (.configure { Options.empty with maxRows := some 1 }, world narrow)]
    ∃ start, Created start ∧ Agrees start steps (start.runIn steps) ∧
      (start.runIn steps).isQuery = true ∧
      ∃ row s w, Statement.fetch .next (start.runIn steps, world narrow) = .ok (some row) (s, w) ∧
        row.labels = ["A", "B"] ∧ row.values = [.int32 2, .text "y"] := by
  intro sql wide narrow world steps
  have hruns : ∃ start, new .new .empty (world wide) = .ok start (world wide) ∧
      (start.runIn steps).isQuery = true ∧
      ∃ row s w, Statement.fetch .next (start.runIn steps, world narrow) = .ok (some row) (s, w) ∧
        row.labels = ["A", "B"] ∧ row.values = [.int32 2, .text "y"] :=
    ⟨_, by rfl, by cbv, _, _, _, by cbv, by cbv, by cbv⟩
  obtain ⟨start, hnew, hquery, hrow⟩ := hruns
  exact ⟨start, .direct hnew, agrees_of_run (.direct hnew) steps, hquery, hrow⟩

end Statement
end SqlClient
