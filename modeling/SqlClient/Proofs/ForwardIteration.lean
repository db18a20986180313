import SqlClient.Proofs.StatementLeases
import SqlClient.Proofs.WorkspaceRuns

/-! # Forward iteration

The execution of a query reports how many of the scripted rows its row limit leaves (`limited`).
The next rows that are then fetched are these rows in their order, and after them there is none
(`Forward`).  A row that does not decode is passed like any other.

A cursor that is moved to the next row `k` times stands `k` rows further, or after the last row
(`Cursor.Passed`); every fetch is a step of it.
-/
namespace SqlClient

open Scripted

namespace Scripted

/-- How many of `n` rows a limit leaves; zero is no limit. -/
def limited (limit n : Nat) : Nat := if limit = 0 then n else min n limit

theorem limited_le (limit n : Nat) : limited limit n ≤ n := by
  unfold limited
  split <;> omega

theorem Handle.rows_resultSet (settings : Settings) (result : Result) :
    (resultSet settings result).rows =
      result.rows.take (limited settings.maxRows result.rows.length) := by
  simp only [resultSet, ResultSet.new, limited]
  by_cases hlimit : settings.maxRows = 0
  · simp [hlimit]
  · rw [if_pos (Nat.pos_of_ne_zero hlimit), if_neg hlimit, List.take_eq_take_iff]
    omega

end Scripted

/-- What is fetched where there is a row: the row, or the error of decoding it. -/
def atRow {σ : Type} (after : σ) :
    EStateM.Result Error ClientWorld Row → EStateM.Result Error (σ × ClientWorld) (Option Row)
  | .ok row w => .ok (some row) (after, w)
  | .error e w => .error e (after, w)

@[simp] theorem leaves_atRow {σ : Type} (after : σ) (read : EStateM.Result Error ClientWorld Row) :
    (leaves (atRow after read)).1 = after := by
  cases read <;> rfl

namespace Cursor

variable {c c' : Cursor ResultSet} {k : Nat} {cells : List Cell}

/-- **A cursor that was moved to the next row `k` times**, and may have read on the way. -/
structure Passed (c : Cursor ResultSet) (k : Nat) (c' : Cursor ResultSet) : Prop where
  tracks : c'.Tracks
  elsewhere : Elsewhere c c'
  position : c'.rows.position = min k (c.rows.rows.length + 1)

theorem passed_zero (htracks : c.Tracks) (hstart : c.rows.position = 0) : Passed c 0 c :=
  ⟨htracks, .refl c, by rw [hstart, Nat.zero_min]⟩

theorem Elsewhere.rows_eq (h : Elsewhere c c') : c'.rows.rows = c.rows.rows := by
  obtain ⟨_, _, _, rfl⟩ := h
  rfl

theorem Elsewhere.columns_eq (h : Elsewhere c c') : c'.columns = c.columns := by
  obtain ⟨_, _, _, rfl⟩ := h
  rfl

/-- The move itself, before anything is read. -/
theorem Passed.moved (h : Passed c k c') : Passed c (k + 1) (c'.moved .next) where
  tracks := h.tracks.moved .next
  elsewhere := h.elsewhere.trans ⟨_, _, _, rfl⟩
  position := by
    have hle := h.tracks.position_le
    have hposition := h.position
    show ResultSet.destination c'.rows.rows.length c'.rows.position .next = _
    rw [ResultSet.destination_next hle]
    rw [h.elsewhere.rows_eq] at hle ⊢
    omega

theorem Passed.withBuffer (h : Passed c k c') (buffer : Buffer) :
    Passed c k { c' with buffer } where
  tracks := ⟨h.tracks.isOpen, h.tracks.rowsOpen, h.tracks.position_le, h.tracks.means⟩
  elsewhere := h.elsewhere.trans ⟨c'.rows.position, buffer, c'.standing, rfl⟩
  position := h.position

/-- The next row can be moved to in every scroll mode. -/
theorem seek_next (h : Passed c k c') (w : ClientWorld) :
    seek .next (c', w) =
      .ok (if (c'.moved .next).standing = .onRow then .onRow else .pastEdge)
        (c'.moved .next, w) := by
  rw [seek_of_open h.tracks.rowsOpen, if_neg (by simp)]
  cases hrow : (c'.rows.moved .next).onRow with
  | true => simp [Cursor.moved, hrow]
  | false => simp [Cursor.moved, hrow, Seek.edge]

/-- **A fetch comes to the row that is next**, whether it decodes or not. -/
theorem Passed.fetch_row (h : Passed c k c') (hcells : c.rows.rows[k]? = some cells)
    (w : ClientWorld) :
    ∃ c'', Passed c (k + 1) c'' ∧ c''.standing = .onRow ∧
      fetch .next (c', w) = atRow c'' (decodeRowOf c.columns cells w) := by
  have hlt : k < c.rows.rows.length := (List.getElem?_eq_some_iff.mp hcells).1
  have hmoved := h.moved
  have hposition : (c'.moved .next).rows.position = k + 1 := by
    rw [hmoved.position]
    omega
  have hrow : (c'.moved .next).standing = .onRow := by
    rw [hmoved.tracks.means.onRow_iff, hmoved.elsewhere.rows_eq]
    omega
  have hseek := seek_next h w
  rw [if_pos hrow] at hseek
  obtain ⟨cells', buffer, hcells', hcurrent⟩ := hmoved.tracks.current hrow w
  rw [hposition, Nat.add_sub_cancel, hmoved.elsewhere.rows_eq, hcells] at hcells'
  cases hcells'
  rw [hmoved.elsewhere.columns_eq] at hcurrent
  refine ⟨{ c'.moved .next with buffer }, hmoved.withBuffer buffer, hrow, ?_⟩
  rw [fetch, run_bind_ok hseek]
  refine hcurrent.trans ?_
  cases hread : decodeRowOf c.columns cells w with
  | ok row w' =>
    rw [run_bind_ok hread]
    rfl
  | error e w' =>
    rw [run_bind_error hread]
    rfl

/-- **After the last row there is none**, and reading changes nothing. -/
theorem Passed.fetch_none (h : Passed c k c') (hend : c.rows.rows.length ≤ k) (w : ClientWorld) :
    ∃ c'', Passed c (k + 1) c'' ∧ c''.standing = .afterLast ∧
      fetch .next (c', w) = .ok none (c'', w) := by
  have hmoved := h.moved
  have hposition : (c'.moved .next).rows.position = c.rows.rows.length + 1 := by
    rw [hmoved.position]
    omega
  have hafter : (c'.moved .next).standing = .afterLast := by
    have hmeans := hmoved.tracks.means
    rw [hmoved.elsewhere.rows_eq, hposition] at hmeans
    cases hstanding : (c'.moved .next).standing with
    | afterLast => rfl
    | onRow | beforeFirst | unpositioned =>
      rw [hstanding] at hmeans
      simp only [Standing.Means] at hmeans
      omega
  have hseek := seek_next h w
  rw [hafter, if_neg (by simp)] at hseek
  refine ⟨c'.moved .next, hmoved, hafter, ?_⟩
  rw [fetch, run_bind_ok hseek]
  rfl

/-- A fetch of the next row is a step, whatever it comes to. -/
theorem Passed.fetch (h : Passed c k c') (w : ClientWorld) :
    Passed c (k + 1) (leaves (Cursor.fetch .next (c', w))).1 := by
  cases hcells : c.rows.rows[k]? with
  | some cells =>
    obtain ⟨c'', hpassed, -, hfetch⟩ := h.fetch_row hcells w
    rw [hfetch, leaves_atRow]
    exact hpassed
  | none =>
    obtain ⟨c'', hpassed, -, hfetch⟩ := h.fetch_none (List.getElem?_eq_none_iff.mp hcells) w
    rw [hfetch]
    exact hpassed

end Cursor

namespace Statement

/-- Where the cursor of a statement stands. -/
def standing? (s : Statement) : Option Standing := s.cursor.map (·.standing)

/-- The statement after the next row was fetched `k` times, each time in a world of its own. -/
inductive Fetched (s : Statement) : Nat → Statement → Prop where
  | start : Fetched s 0 s
  | next {k : Nat} {s' : Statement} (before : Fetched s k s') (w : ClientWorld) :
    Fetched s (k + 1) (leaves (fetch .next (s', w))).1

/-- **The first `count` of the rows come one after the other, and then no more.** -/
structure Forward (rows : List (List Cell)) (columns : List Column) (count : Nat)
    (s : Statement) : Prop where
  /-- Row number `k + 1` comes after `k` fetches, of which any may have failed. -/
  row : ∀ k s' w, k < count → Fetched s k s' → ∃ cells s'', rows[k]? = some cells ∧
    fetch .next (s', w) = atRow s'' (decodeRowOf columns cells w) ∧
    s''.rowNumber = k + 1 ∧ s''.standing? = some .onRow
  none : ∀ k s' w, count ≤ k → Fetched s k s' → ∃ s'', fetch .next (s', w) = .ok none (s'', w) ∧
    s''.rowNumber = 0 ∧ s''.standing? = some .afterLast

variable {s s' : Statement} {c c' : Cursor ResultSet} {k : Nat} {h : Handle} {ps : Parameters}
  {sql : String} {script : Script} {result : Result} {columns : List Column}
  {settings : Settings} {w : ClientWorld} {cells : List Cell}

/-- Every fetch of a statement is one of its cursor. -/
theorem Fetched.passed (hfetched : Fetched { s with cursor := some c } k s') (htracks : c.Tracks)
    (hstart : c.rows.position = 0) : ∃ c', s' = { s with cursor := some c' } ∧ c.Passed k c' := by
  induction hfetched with
  | start => exact ⟨c, rfl, Cursor.passed_zero htracks hstart⟩
  | next _ w ih =>
    obtain ⟨c', rfl, hpassed⟩ := ih
    refine ⟨_, ?_, hpassed.fetch w⟩
    rw [fetch, leaves_onCursor]

/-- **A cursor before its first row goes forward over all its rows.** -/
theorem forward_of_tracks (htracks : c.Tracks) (hstart : c.rows.position = 0) (s : Statement) :
    Forward c.rows.rows c.columns c.rows.rows.length { s with cursor := some c } where
  row := by
    intro k s' w hk hfetched
    obtain ⟨c', rfl, hpassed⟩ := hfetched.passed htracks hstart
    have hcells := List.getElem?_eq_getElem hk
    obtain ⟨c'', hpassed', hrow, hfetch⟩ := hpassed.fetch_row hcells w
    refine ⟨_, { s with cursor := some c'' }, hcells, ?_, ?_, congrArg some hrow⟩
    · simp only [fetch, onCursor, hfetch]
      cases decodeRowOf c.columns c.rows.rows[k] w <;> rfl
    · have hnumber := hpassed'.tracks.rowNumber
      rw [if_pos hrow, hpassed'.position] at hnumber
      refine hnumber.trans ?_
      omega
  none := by
    intro k s' w hk hfetched
    obtain ⟨c', rfl, hpassed⟩ := hfetched.passed htracks hstart
    obtain ⟨c'', hpassed', hafter, hfetch⟩ := hpassed.fetch_none hk w
    refine ⟨{ s with cursor := some c'' }, ?_, ?_, congrArg some hafter⟩
    · simp only [fetch, onCursor, hfetch]
    · have hnumber := hpassed'.tracks.rowNumber
      rwa [hafter, if_neg (by simp)] at hnumber

/-- Rows behind the last that comes do not matter. -/
theorem Forward.of_take {rows : List (List Cell)} {count : Nat} (hcount : count ≤ rows.length)
    (hforward : Forward (rows.take count) columns (rows.take count).length s) :
    Forward rows columns count s := by
  rw [List.length_take_of_le hcount] at hforward
  refine ⟨fun k s' w hk hfetched => ?_, hforward.none⟩
  obtain ⟨cells, s'', hcells, hfetch⟩ := hforward.row k s' w hk hfetched
  rw [List.getElem?_take_of_lt hk] at hcells
  exact ⟨cells, s'', hcells, hfetch⟩

/-! ## Executing a query -/

/-- The script is a query with columns, all of them of known types. -/
structure Queries (script : Script) (result : Result) (columns : List Column) : Prop where
  action : script.action = .query result
  types : Column.ofDescriptions result.columns = .ok columns
  columns : columns ≠ []

theorem Queries.answer (hquery : Queries script result columns) (settings : Settings)
    (inputs : List Value) : script.answer settings inputs =
      .ok (.query (Handle.resultSet settings result), []) := by
  rw [Script.answer, hquery.action]

/-- A cursor that was just opened over the rows of a query. -/
def opened (settings : Settings) (result : Result) (columns : List Column) : Cursor ResultSet :=
  ⟨Handle.resultSet settings result, columns, .new (Cursor.widest columns), .unpositioned, false⟩

theorem forward_opened (settings : Settings) (result : Result) (columns : List Column)
    (s : Statement) :
    Forward result.rows columns (limited settings.maxRows result.rows.length)
      { s with cursor := some (opened settings result columns) } := by
  have htracks : (opened settings result columns).Tracks := ⟨rfl, rfl, Nat.zero_le _, rfl⟩
  have hforward := forward_of_tracks htracks rfl s
  have hrows : (opened settings result columns).rows.rows = _ :=
    Handle.rows_resultSet settings result
  rw [hrows] at hforward
  exact hforward.of_take (limited_le ..)

/-- A query has a cursor over the rows that the limit leaves, which are counted. -/
theorem takeResult_query (hquery : Queries script result columns) (settings : Settings)
    (s : Statement) (w : ClientWorld) :
    ∃ w', takeResult (.query (Handle.resultSet settings result)) (s, w) =
      .ok (limited settings.maxRows result.rows.length)
        ({ s with cursor := some (opened settings result columns) }, w') := by
  obtain ⟨-, htypes, hne⟩ := hquery
  obtain ⟨column, rest, rfl⟩ := List.exists_cons_of_ne_nil hne
  have hcolumns : (Handle.resultSet settings result).columns = result.columns := rfl
  have hcount : (opened settings result (column :: rest)).rowCount =
      limited settings.maxRows result.rows.length := by
    show ((Handle.resultSet settings result).rows.length : Int) = _
    rw [Handle.rows_resultSet, List.length_take_of_le (limited_le ..)]
  refine ⟨{ w with server := tuned s.options w.server }, ?_⟩
  rw [takeResult, openCursor_of_open s.options rfl, hcolumns, htypes]
  simp only [← hcount]
  rfl

theorem execute_of_query (hlive : h.isReleased = false) (server : Server)
    (hscript : server.script? sql = .ok script) (hquery : Queries script result columns) :
    ∃ state, Handle.execute sql (h, server) =
      .ok (.query (Handle.resultSet h.settings result)) state := by
  have hexecute := Handle.execute_eq hlive sql server
  simp only [Server.called, hscript, Except.map, Handle.replyTo, hquery.answer] at hexecute
  exact ⟨_, hexecute⟩

/-- **A direct query** counts the rows that come. -/
theorem execute_query (hlink : s.link = some ⟨h, none⟩) (hlive : h.isReleased = false)
    (hscript : w.server.script? sql = .ok script) (hquery : Queries script result columns) :
    ∃ s' w', execute sql (s, w) =
        .ok (limited (s.options.applyTo h.settings).maxRows result.rows.length) (s', w') ∧
      Forward result.rows columns
        (limited (s.options.applyTo h.settings).maxRows result.rows.length) s' := by
  obtain ⟨w₁, hcloses, hrefresh⟩ := refresh_of_live hlink hlive w
  have hscript₁ := (hcloses.unasked.script? sql).trans hscript
  obtain ⟨state, hexecute⟩ :=
    execute_of_query (h := h.given s.options) hlive w₁.server hscript₁ hquery
  have honHandle : onHandle (Handle.execute sql)
      ({ s with link := some ⟨h.given s.options, none⟩, cursor := none }, w₁) =
        .ok (.query (Handle.resultSet (h.given s.options).settings result))
          ({ s with link := some ⟨state.1, none⟩, cursor := none }, { w₁ with server := state.2 }) := by
    simp only [onHandle, hexecute]
  obtain ⟨w', htake⟩ := takeResult_query hquery (h.given s.options).settings
    { s with link := some ⟨state.1, none⟩, cursor := none } { w₁ with server := state.2 }
  rw [execute_of_direct hlink, run_bind_ok hrefresh, run_bind_ok honHandle, htake]
  exact ⟨_, w', rfl, forward_opened ..⟩

/-- Without parameters there is nothing to bind. -/
theorem bind_of_items_nil (hitems : ps.items = []) (hnamed : ps.named = false) {args : Arguments}
    (hargs : args.size = 0) : Parameters.bind args ps = .ok () { ps with slots := [] } := by
  have hslots : ps.slotsFor args = .ok [] := by
    have hsize : ¬ args.size ≠ ps.size := by simp [Parameters.size, hitems, hargs]
    cases args with
    | positional vs =>
      simp only [Parameters.slotsFor, if_neg hsize]
      simp [hnamed, Parameters.size, hitems]
    | named entries =>
      obtain rfl : entries = [] := by simpa [Arguments.size, Arguments.values] using hargs
      simp only [Parameters.slotsFor, if_neg hsize, hitems]
      rfl
  simp only [Parameters.bind, hslots, hitems]
  rfl

/-- Without parameters there is nothing to write back. -/
theorem writeBack_of_items_nil (hps : s.parameters? = some ps) (hitems : ps.items = [])
    (args : Arguments) (w : ClientWorld) : writeBack (args, s, w) = .ok () (args, s, w) := by
  have houtputs : ps.outputs = .ok [] := by
    rw [Parameters.outputs, hitems]
    rfl
  simp only [writeBack, hps, houtputs]
  rfl

theorem serve_of_query (hlive : h.isReleased = false) (hprepared : h.prepared = some sql)
    {server : Server} (hscript : server.script? sql = .ok script)
    (hparameters : script.parameters = []) (hquery : Queries script result columns) :
    h.serve server [] = .ok (.query (Handle.resultSet h.settings result)) [] := by
  have haccept : h.accept [] server = .ok (script, []) :=
    Handle.accept_eq_ok_iff.mpr ⟨hlive, ⟨sql, hprepared, hscript⟩, by simp [hparameters], rfl⟩
  exact Handle.serve_eq_ok_iff.mpr
    ⟨[], Handle.reply_eq_ok_iff.mpr ⟨script, [], haccept, hquery.answer ..⟩, rfl⟩

/-- The execution of a prepared query without parameters, up to its result. -/
theorem perform_query (hlink : s.link = some ⟨h, some ps⟩) (hlive : h.isReleased = false)
    (hprepared : h.prepared = some sql) (hitems : ps.items = []) (hnamed : ps.named = false)
    (hscript : w.server.script? sql = .ok script) (hparameters : script.parameters = [])
    (hquery : Queries script result columns) {args : Arguments} (hargs : args.size = 0) :
    ∃ s' w', perform args (s, w) =
        .ok (limited (s.options.applyTo h.settings).maxRows result.rows.length) (s', w') ∧
      (∃ ps', s'.parameters? = some ps' ∧ ps'.items = []) ∧
      Forward result.rows columns
        (limited (s.options.applyTo h.settings).maxRows result.rows.length) s' := by
  obtain ⟨w₁, hcloses, hrefresh⟩ := refresh_of_live hlink hlive w
  have hscript₁ := (hcloses.unasked.script? sql).trans hscript
  have hbind := bind_eq
    (s := { s with link := some ⟨h.given s.options, some ps⟩, cursor := none }) rfl args w₁
  rw [bind_of_items_nil hitems hnamed hargs] at hbind
  obtain ⟨-, serials, w₂, -, -, hexecute⟩ := executeBound_eq (s := { s with
    link := some ⟨h.given s.options, some { ps with slots := [] }⟩, cursor := none }) rfl w₁
  have hbindings : Parameters.bindings { ps with slots := [] } = [] := by
    simp [Parameters.bindings, hitems]
  rw [hbindings, serve_of_query (h := h.given s.options) hlive hprepared hscript₁ hparameters
    hquery] at hexecute
  obtain ⟨w₃, htake⟩ := takeResult_query hquery (h.given s.options).settings
    { s with
      link := some ⟨{ h.given s.options with serials },
        some (Parameters.withBindings { ps with slots := [] } [])⟩
      cursor := none } w₂
  rw [perform, run_bind_ok hrefresh, run_bind_ok hbind, run_bind_ok hexecute, htake]
  exact ⟨_, w₃, rfl, ⟨_, rfl, by simp [Parameters.withBindings]⟩, forward_opened ..⟩

/-- **A prepared query without parameters** counts the rows that come, and keeps the arguments. -/
theorem executeWith_query (hlink : s.link = some ⟨h, some ps⟩) (hlive : h.isReleased = false)
    (hprepared : h.prepared = some sql) (hitems : ps.items = []) (hnamed : ps.named = false)
    (hscript : w.server.script? sql = .ok script) (hparameters : script.parameters = [])
    (hquery : Queries script result columns) {args : Arguments} (hargs : args.size = 0) :
    ∃ s' w', executeWith (args, s, w) =
        .ok (limited (s.options.applyTo h.settings).maxRows result.rows.length) (args, s', w') ∧
      Forward result.rows columns
        (limited (s.options.applyTo h.settings).maxRows result.rows.length) s' := by
  obtain ⟨s', w', hperform, ⟨ps', hps', hitems'⟩, hforward⟩ :=
    perform_query hlink hlive hprepared hitems hnamed hscript hparameters hquery hargs
  refine ⟨s', w', ?_, hforward⟩
  rw [executeWith_of_result hlink hperform,
    run_bind_ok (writeBack_of_items_nil hps' hitems' args w')]
  rfl

/-! ## Any statement of a program -/

/-- The limit of a sound statement is that of its options, if they have one. -/
theorem Sound.limit_eq (hs : s.Sound) {link : Link} (hlink : s.link = some link) :
    (s.options.applyTo link.handle.settings).maxRows = s.options.maxRows.getD 0 := by
  cases hrows : s.options.maxRows with
  | none => simpa [Options.applyTo, hrows] using hs.maxRows link hlink hrows
  | some rows => simp [Options.applyTo, hrows]

/-- **Forward iteration is exact.**  A query is executed by any statement that a program comes to,
in any world.  The result is the number of rows that the row limit leaves, and these rows come one
after the other, each at its own number, whether it decodes or not; then no more rows come.  A
prepared query without parameters is executed alike. -/
theorem forward_of_run (server : Server) (commands : List Command) {name : String}
    (hrun : ((Workspace.new server).run commands).2.statements.get? name = some s)
    {link : Link} (hlink : s.link = some link) (hlive : link.handle.isReleased = false)
    (hscript : w.server.script? sql = .ok script) (hquery : Queries script result columns) :
    let count := limited (s.options.maxRows.getD 0) result.rows.length
    (link.parameters = none →
      ∃ s' w', execute sql (s, w) = .ok count (s', w') ∧ Forward result.rows columns count s') ∧
    (∀ ps args, link.parameters = some ps → link.handle.prepared = some sql → ps.items = [] →
      script.parameters = [] → args.size = 0 →
      ∃ s' w', executeWith (args, s, w) = .ok count (args, s', w') ∧
        Forward result.rows columns count s') := by
  have hs : s.Sound := ((Workspace.orderly_new server).run commands).sound_of_get? hrun
  rw [← hs.limit_eq hlink]
  obtain ⟨h, parameters⟩ := link
  constructor
  · rintro rfl
    exact execute_query hlink hlive hscript hquery
  · rintro ps args rfl hprepared hitems hparameters hargs
    have hnamed := hs.named ps (by simp [parameters?, hlink]) hitems
    exact executeWith_query hlink hlive hprepared hitems hnamed hscript hparameters hquery hargs

/-- Of three rows, the second of which does not decode, two come for a statement with a limit, and
all of them for a prepared one without. -/
theorem forward_of_run_limited :
    let sql := "SELECT N FROM T"
    let result : Result :=
      ⟨[.ofLength "N" SqlType.integer.code 10], [[.int 5], [.text "seven"], [.int 9]]⟩
    let script : Script := ⟨.query result, [], none⟩
    let commands : List Command :=
      [.register sql script, .create "a" .empty false,
        .configure "a" { Options.empty with maxRows := some 2 }, .prepare "b" sql .empty false]
    let ws := ((Workspace.new .empty).run commands).2
    let w : ClientWorld := .new (Server.empty.register sql script)
    ∃ a b columns, ws.statements.get? "a" = some a ∧ ws.statements.get? "b" = some b ∧
      Column.ofDescriptions result.columns = .ok columns ∧
      (∃ a' w', execute sql (a, w) = .ok 2 (a', w') ∧ Forward result.rows columns 2 a') ∧
      ∃ b' w', executeWith (.positional [], b, w) = .ok 3 (.positional [], b', w') ∧
        Forward result.rows columns 3 b' := by
  intro sql result script commands ws w
  have ha : ws.statements.get? "a" =
      some ⟨some ⟨.new, none⟩, none, { Options.empty with maxRows := some 2 }⟩ := by
    decide +kernel
  have hb : ws.statements.get? "b" =
      some ⟨some ⟨{ Handle.new with prepared := some sql }, some ⟨[], false, []⟩⟩, none,
        .empty⟩ := by
    decide +kernel
  have hcolumns : ∃ columns, Column.ofDescriptions result.columns = .ok columns ∧ columns ≠ [] :=
    ⟨_, rfl, by simp⟩
  obtain ⟨columns, hcolumns, hne⟩ := hcolumns
  have hscript : w.server.script? sql = .ok script := rfl
  have hquery : Queries script result columns := ⟨rfl, hcolumns, hne⟩
  have hdirect := (forward_of_run .empty commands ha rfl rfl hscript hquery).1 rfl
  have hprepared := (forward_of_run .empty commands hb rfl rfl hscript hquery).2 ⟨[], false, []⟩
    (.positional []) rfl rfl rfl rfl rfl
  exact ⟨_, _, columns, ha, hb, hcolumns, hdirect, hprepared⟩

end Statement
end SqlClient
