import SqlClient.Proofs.OutputWriteBack
import SqlClient.Proofs.PreparedExecution
import SqlClient.Proofs.RowDecoding
import SqlClient.Statement

/-! # Executing a prepared statement

`Statement.executeWith` passes through the statement, its handle and its cursor, through the
server, and through the large objects of the world.  For what the caller sees little of this
counts.  `Parameters.transact` is that little: arguments are bound, the server serves the
bindings, the result is counted, and outputs are written back.  It is a function of the
parameters, the options, the handle and the scripts of the server.

`executeWith_eq` puts an execution together from it.  What else changes is the cursor, the books of
the server (`Server.Noted`) and the serial keys of the handle (`Handle.Alike`).
-/
namespace SqlClient

open Scripted

/-! ## Options reach the handle -/

namespace Options

/-- The settings of a handle that was given options. -/
def applyTo (options : Options) (settings : Settings) : Settings where
  cursorName := options.cursorName <|> settings.cursorName
  maxRows := options.maxRows.getD settings.maxRows
  scrollMode := options.scrollMode.getD settings.scrollMode
  concurrency := options.concurrency.getD settings.concurrency
  fetchSize := settings.fetchSize

/-- The handle is told of an option.  The fetch size is none of its business. -/
def concernHandle (options : Options) : Bool :=
  options.cursorName.isSome || options.maxRows.isSome || options.scrollMode.isSome ||
    options.concurrency.isSome

/-- Options that were given once may be given again. -/
@[simp] theorem applyTo_applyTo (options : Options) (settings : Settings) :
    options.applyTo (options.applyTo settings) = options.applyTo settings := by
  unfold applyTo
  cases options.cursorName <;> cases options.maxRows <;> cases options.scrollMode <;>
    cases options.concurrency <;> rfl

end Options

namespace Scripted.Handle

/-- The handle after it was given options. -/
def given (h : Handle) (options : Options) : Handle :=
  { h with settings := options.applyTo h.settings }

/-- Two states of a handle between executions with these options. -/
structure Alike (options : Options) (h h' : Handle) : Prop where
  prepared : h'.prepared = h.prepared
  isReleased : h'.isReleased = h.isReleased
  settings : options.applyTo h'.settings = options.applyTo h.settings

theorem Alike.refl (options : Options) (h : Handle) : h.Alike options h := ⟨rfl, rfl, rfl⟩

theorem Alike.trans {options : Options} {h h' h'' : Handle} (hfirst : h.Alike options h')
    (hnext : h'.Alike options h'') : h.Alike options h'' :=
  ⟨hnext.prepared.trans hfirst.prepared, hnext.isReleased.trans hfirst.isReleased,
    hnext.settings.trans hfirst.settings⟩

theorem alike_given (options : Options) (h : Handle) (serials : Option (Int × Int)) :
    h.Alike options { h.given options with serials } :=
  ⟨rfl, rfl, options.applyTo_applyTo h.settings⟩

theorem applyOptions_eq (options : Options) (h : Handle) (s : Server) :
    applyOptions options (h, s) =
      if h.isReleased && options.concernHandle then .error (.refused .released) (h, s)
      else .ok () (h.given options, s) := by
  obtain ⟨prepared, settings, serials, isReleased⟩ := h
  obtain ⟨cursorName, maxRows, scrollMode, concurrency, fetchSize⟩ := options
  cases isReleased <;> cases cursorName <;> cases maxRows <;> cases scrollMode <;>
    cases concurrency <;> rfl

end Scripted.Handle

/-- The result of an execution for the caller.  The result set of a query needs columns of known
types, and is still open when the fetch size is set. -/
def Scripted.Execution.count (options : Options) : Execution → Except Error Int
  | .update rowsAffected => .ok rowsAffected
  | .query rows =>
    match Column.ofDescriptions rows.columns with
    | .error e => .error e
    | .ok [] => .error .noColumns
    | .ok _ =>
      if options.fetchSize.isSome && rows.isClosed then .error (.refused .resultSetClosed)
      else .ok rows.rows.length

namespace Parameters

/-- **The exchange of values** in an execution: arguments are bound, and the server serves the
bindings. -/
def exchange (args : Arguments) (h : Handle) (server : Server) :
    EStateM Error Parameters Execution := fun ps =>
  match bind args ps with
  | .error e ps => .error e ps
  | .ok () ps =>
    match h.serve server ps.bindings with
    | .error e bindings => .error e (ps.withBindings bindings)
    | .ok execution bindings => .ok execution (ps.withBindings bindings)

/-- An execution up to its result. -/
def perform (args : Arguments) (options : Options) (h : Handle) (server : Server) :
    EStateM Error Parameters Int := fun ps =>
  if h.isReleased && options.concernHandle then .error (.refused .released) ps
  else
    match exchange args (h.given options) server ps with
    | .error e ps => .error e ps
    | .ok execution ps =>
      match execution.count options with
      | .error e => .error e ps
      | .ok count => .ok count ps

/-- A whole execution: the result, and the arguments with the outputs. -/
def transact (args : Arguments) (options : Options) (h : Handle) (server : Server) :
    EStateM Error Parameters (Int × Arguments) := fun ps =>
  match perform args options h server ps with
  | .error e ps => .error e ps
  | .ok count ps =>
    match ps.writeBack args with
    | .error e => .error e ps
    | .ok args => .ok (count, args) ps

/-- What the caller sees of it.  After a failure the arguments are as they were. -/
def seen (args : Arguments) :
    EStateM.Result Error Parameters (Int × Arguments) → Except Error Int × Arguments
  | .ok (count, args) _ => (.ok count, args)
  | .error e _ => (.error e, args)

variable {args args' : Arguments} {options : Options} {h : Handle} {server : Server}
  {ps ps' : Parameters} {count : Int}

/-- **The steps of an execution that has a result**: arguments are bound, the server answers, and
the bindings receive the outputs. -/
structure Performed (args : Arguments) (options : Options) (h : Handle) (server : Server)
    (ps bound : Parameters) (outputs : List Value) (count : Int) (ps' : Parameters) : Prop where
  bind : Parameters.bind args ps = .ok () bound
  answer : ∃ execution, (h.given options).reply bound.bindings server = .ok (execution, outputs) ∧
    execution.count options = .ok count
  receive : ∃ bindings, Handle.fillOutputs bound.bindings outputs = .ok () bindings ∧
    ps' = bound.withBindings bindings

theorem exchange_eq_ok {execution : Execution}
    (hexchange : exchange args h server ps = .ok execution ps') :
    ∃ bound bindings, bind args ps = .ok () bound ∧
      h.serve server bound.bindings = .ok execution bindings ∧
      ps' = bound.withBindings bindings := by
  unfold exchange at hexchange
  split at hexchange
  · cases hexchange
  · rename_i bound hbound
    split at hexchange
    · cases hexchange
    · rename_i execution' bindings hserve
      cases hexchange
      exact ⟨bound, bindings, hbound, hserve, rfl⟩

theorem perform_eq_ok_iff : perform args options h server ps = .ok count ps' ↔
    ∃ bound outputs, Performed args options h server ps bound outputs count ps' := by
  unfold perform
  constructor
  · intro hperform
    split at hperform
    · cases hperform
    split at hperform
    · cases hperform
    rename_i execution ps₁ hexchange
    split at hperform
    · cases hperform
    rename_i count' hcount
    cases hperform
    obtain ⟨bound, bindings, hbound, hserve, rfl⟩ := exchange_eq_ok hexchange
    obtain ⟨outputs, hreply, hfill⟩ := Handle.serve_eq_ok_iff.mp hserve
    exact ⟨bound, outputs, hbound, ⟨execution, hreply, hcount⟩, ⟨bindings, hfill, rfl⟩⟩
  · rintro ⟨bound, outputs, hbound, ⟨execution, hreply, hcount⟩, ⟨bindings, hfill, rfl⟩⟩
    -- the server has answered, so the handle was not released
    obtain ⟨script, inputs, haccept, -⟩ := Handle.reply_eq_ok_iff.mp hreply
    have hlive : h.isReleased = false := (Handle.accept_eq_ok_iff.mp haccept).1
    have hserve := Handle.serve_eq_ok_iff.mpr ⟨outputs, hreply, hfill⟩
    simp [exchange, hlive, hbound, hserve, hcount]

/-- The only entry is the list of inputs that the bound arguments make. -/
def InputsNoted (args : Arguments) (ps : Parameters) (entries : List (List Value)) : Prop :=
  ∃ bound inputs, bind args ps = .ok () bound ∧ Handle.inputsOf bound.bindings = .ok inputs ∧
    entries = [inputs]

/-! ## An execution keeps the shape -/

theorem shape_zipWith {items : List Parameter} {bindings : List Binding}
    (hshape : bindings.map Binding.shape = items.map fun p => p.binding.shape) :
    (items.zipWith (fun p binding => { p with binding }) bindings).map Parameter.shape =
      items.map Parameter.shape := by
  induction items generalizing bindings with
  | nil => rfl
  | cons p items ih =>
    cases bindings with
    | nil => cases hshape
    | cons b bindings =>
      obtain ⟨hb, hrest⟩ := List.cons.inj hshape
      have hp : ({ p with binding := b } : Parameter).shape = p.shape :=
        congrArg (fun binding => { p with binding }) hb
      rw [List.zipWith_cons_cons, List.map_cons, List.map_cons, hp, ih hrest]

theorem shape_withBindings (ps : Parameters) {bindings : List Binding}
    (hshape : bindings.map Binding.shape = ps.bindings.map Binding.shape) :
    SameShape (ps.withBindings bindings) ps :=
  ⟨shape_zipWith (hshape.trans (List.map_map ..)), rfl⟩

theorem shape_exchange (args : Arguments) (h : Handle) (server : Server) (ps : Parameters) :
    SameShape (leaves (exchange args h server ps)) ps := by
  have hshape := shape_bind args ps
  unfold exchange
  cases hbound : bind args ps with
  | error e bound =>
    rw [hbound] at hshape
    exact hshape
  | ok _ bound =>
    rw [hbound] at hshape
    have hserve := Handle.shape_serve h server bound.bindings
    simp only
    cases hserved : h.serve server bound.bindings with
    | error e bindings | ok execution bindings =>
      rw [hserved] at hserve
      exact (shape_withBindings bound hserve).trans hshape

theorem shape_perform (args : Arguments) (options : Options) (h : Handle) (server : Server)
    (ps : Parameters) : SameShape (leaves (perform args options h server ps)) ps := by
  have hshape := shape_exchange args (h.given options) server ps
  unfold perform
  split
  · exact .refl ps
  · cases hexchanged : exchange args (h.given options) server ps with
    | error e ps' =>
      rw [hexchanged] at hshape
      exact hshape
    | ok execution ps' =>
      rw [hexchanged] at hshape
      simp only
      cases execution.count options <;> exact hshape

/-- **An execution keeps the shape of the parameters**, whatever becomes of it. -/
theorem shape_transact (args : Arguments) (options : Options) (h : Handle) (server : Server)
    (ps : Parameters) : SameShape (leaves (transact args options h server ps)) ps := by
  have hshape := shape_perform args options h server ps
  unfold transact
  cases hperform : perform args options h server ps with
  | error e ps' =>
    rw [hperform] at hshape
    exact hshape
  | ok count ps' =>
    rw [hperform] at hshape
    simp only
    cases ps'.writeBack args <;> exact hshape

theorem Performed.shape {bound : Parameters} {outputs : List Value}
    (hperformed : Performed args options h server ps bound outputs count ps') :
    SameShape ps' ps := by
  have hshape := shape_perform args options h server ps
  rwa [perform_eq_ok_iff.mpr ⟨bound, outputs, hperformed⟩] at hshape

theorem transact_eq_ok {result : Int × Arguments}
    (htransact : transact args options h server ps = .ok result ps') :
    perform args options h server ps = .ok result.1 ps' ∧ ps'.writeBack args = .ok result.2 := by
  unfold transact at htransact
  split at htransact
  · cases htransact
  · rename_i count' ps₁ hperform
    split at htransact
    · cases htransact
    · rename_i args₁ hback
      cases htransact
      exact ⟨hperform, hback⟩

end Parameters

/-! ## Result sets that are given back -/

/-- **Result sets were given back**, and nothing else has changed. -/
def World.Closes (w w' : ClientWorld) : Prop :=
  ∃ closedResultSets, w' = { w with server := { w.server with closedResultSets } }

theorem World.Closes.refl (w : ClientWorld) : w.Closes w := ⟨_, rfl⟩

/-- Result sets are noted in no book. -/
theorem World.Closes.noted {w w' : ClientWorld} (h : w.Closes w') :
    w.server.Noted [] w'.server := by
  obtain ⟨_, rfl⟩ := h
  exact .none rfl rfl

theorem World.closes_closeRows (w : ClientWorld) (rows : ResultSet) :
    w.Closes { w with server := (ResultSet.close (rows, w.server)).2 } := by
  rw [ResultSet.close]
  split <;> exact ⟨_, rfl⟩

theorem Cursor.closes_close (c : Cursor ResultSet) (w : ClientWorld) :
    w.Closes (Cursor.close (c, w)).2 := by
  rw [Cursor.close]
  split
  · exact .refl w
  · exact w.closes_closeRows c.rows

namespace Statement

variable {s s' : Statement} {h : Handle} {ps : Parameters} {p : Option Parameters}

/-! ## One step after the other -/

theorem closeCursor_eq (s : Statement) (w : ClientWorld) :
    ∃ w', w.Closes w' ∧ closeCursor (s, w) = ({ s with cursor := none }, w') := by
  obtain ⟨link, cursor, options⟩ := s
  cases cursor with
  | none => exact ⟨w, .refl w, rfl⟩
  | some c => exact ⟨_, c.closes_close w, rfl⟩

/-- A closed statement has no handle to run an operation on. -/
theorem onHandle_of_closed {α : Type} (hlink : s.link = none)
    (op : EStateM Error (Handle × Server) α) (w : ClientWorld) :
    onHandle op (s, w) = .error .statementClosed (s, w) := by
  simp only [onHandle, hlink]

/-- **An operation on the handle** leaves the statement and the world as they were, but for the
handle and the server. -/
theorem leaves_onHandle {α : Type} {link : Link} (hlink : s.link = some link)
    (op : EStateM Error (Handle × Server) α) (w : ClientWorld) :
    leaves (onHandle op (s, w)) =
      ({ s with link := some { link with handle := (leaves (op (link.handle, w.server))).1 } },
        { w with server := (leaves (op (link.handle, w.server))).2 }) := by
  simp only [onHandle, hlink]
  cases op (link.handle, w.server) <;> rfl

/-- The cursor is closed and the handle is given the options. -/
theorem refresh_eq (hlink : s.link = some ⟨h, p⟩) (w : ClientWorld) :
    ∃ w', w.Closes w' ∧ refresh (s, w) =
      if h.isReleased && s.options.concernHandle then
        .error (.refused .released) ({ s with cursor := none }, w')
      else .ok () ({ s with link := some ⟨h.given s.options, p⟩, cursor := none }, w') := by
  obtain ⟨w', hcloses, hclose⟩ := closeCursor_eq s w
  refine ⟨w', hcloses, ?_⟩
  rw [refresh, run_bind_modify, hclose, run_bind_get]
  simp only [onHandle, hlink, Handle.applyOptions_eq]
  by_cases hrefused : (h.isReleased && s.options.concernHandle) = true
  · simp [hrefused]
  · simp [hrefused]

/-- Arguments are bound where the parameters are. -/
theorem bind_eq (hlink : s.link = some ⟨h, some ps⟩) (args : Arguments) (w : ClientWorld) :
    bind args (s, w) =
      match Parameters.bind args ps with
      | .ok () ps => .ok () ({ s with link := some ⟨h, some ps⟩ }, w)
      | .error e ps => .error e ({ s with link := some ⟨h, some ps⟩ }, w) := by
  cases hbound : Parameters.bind args ps <;> simp only [bind, hlink, hbound]

theorem executeBound_eq (hlink : s.link = some ⟨h, some ps⟩) (w : ClientWorld) :
    ∃ entries serials w', w.server.Noted entries w'.server ∧
      (∀ execution bindings, h.serve w.server ps.bindings = .ok execution bindings →
        ∃ inputs, Handle.inputsOf ps.bindings = .ok inputs ∧ entries = [inputs]) ∧
      executeBound (s, w) =
        match h.serve w.server ps.bindings with
        | .ok execution bindings => .ok execution
          ({ s with link := some ⟨{ h with serials }, some (ps.withBindings bindings)⟩ }, w')
        | .error e bindings => .error e
          ({ s with link := some ⟨{ h with serials }, some (ps.withBindings bindings)⟩ }, w') := by
  obtain ⟨hscripts, hbound⟩ := Handle.noted_entered ps.bindings h w.server
  let accepted := Handle.accept ps.bindings h w.server
  let server : Server :=
    { w.server.entered h (Handle.entriesOf accepted) with
      openedResultSets := w.server.openedResultSets +
        Handle.resultSetsGiven (Handle.reply ps.bindings h w.server) }
  refine ⟨Handle.entriesOf accepted, h.keysAfter accepted, { w with server },
    ⟨hscripts, hbound⟩, ?_, ?_⟩
  · intro execution bindings hserve
    obtain ⟨outputs, hreply, -⟩ := Handle.serve_eq_ok_iff.mp hserve
    obtain ⟨script, inputs, haccept, -⟩ := Handle.reply_eq_ok_iff.mp hreply
    obtain ⟨-, -, -, hinputs⟩ := Handle.accept_eq_ok_iff.mp haccept
    exact ⟨inputs, hinputs, by simp only [accepted, haccept, Handle.entriesOf]⟩
  · simp only [executeBound, hlink, Handle.executePrepared_eq]
    cases h.serve w.server ps.bindings <;> rfl

/-- A result set describes its columns and stays as it is. -/
theorem describe_eq (rows : ResultSet) (server : Server) :
    Cursor.describe (rows, server) =
      match Column.ofDescriptions rows.columns with
      | .error e => .error e (rows, server)
      | .ok [] => .error .noColumns (rows, server)
      | .ok columns => .ok columns (rows, server) := by
  rw [Cursor.describe, run_bind_ok (rfl : RemoteRows.describe (rows, server) = .ok rows.columns _)]
  rcases Column.ofDescriptions rows.columns with _ | (_ | ⟨c, columns⟩) <;> rfl

theorem setFetchSize_of_open {rows : ResultSet} (hopen : rows.isClosed = false) (size : Nat)
    (server : Server) :
    RemoteRows.setFetchSize size (rows, server) =
      .ok () (rows, { server with settings := { server.settings with fetchSize := some size } }) :=
  if_neg (by simp [hopen])

theorem setFetchSize_of_closed {rows : ResultSet} (hclosed : rows.isClosed = true) (size : Nat)
    (server : Server) :
    RemoteRows.setFetchSize size (rows, server) =
      .error (.refused .resultSetClosed) (rows, server) :=
  if_pos hclosed

theorem openCursor_eq (options : Options) (rows : ResultSet) (w : ClientWorld) :
    ∃ w', w.server.Noted [] w'.server ∧
      ((∃ e, (Execution.query rows).count options = .error e ∧
        openCursor options rows w = .error e w') ∨
      ∃ cursor, (Execution.query rows).count options = .ok (Cursor.rowCount cursor) ∧
        openCursor options rows w = .ok cursor w') := by
  have hdescribe := describe_eq rows w.server
  cases hcolumns : Column.ofDescriptions rows.columns with
  | error e =>
    simp only [openCursor, Cursor.openOn, Execution.count, hdescribe, hcolumns]
    exact ⟨_, (w.closes_closeRows rows).noted, Or.inl ⟨e, rfl, rfl⟩⟩
  | ok columns =>
    cases columns with
    | nil =>
      simp only [openCursor, Cursor.openOn, Execution.count, hdescribe, hcolumns]
      exact ⟨_, (w.closes_closeRows rows).noted, Or.inl ⟨.noColumns, rfl, rfl⟩⟩
    | cons c columns =>
      simp only [openCursor, Cursor.openOn, Execution.count, hdescribe, hcolumns]
      cases options.fetchSize with
      | none => exact ⟨_, .none rfl rfl, Or.inr ⟨_, rfl, rfl⟩⟩
      | some size =>
        cases hclosed : rows.isClosed with
        | false =>
          simp only [Cursor.setFetchSize, Cursor.onServer, setFetchSize_of_open hclosed]
          exact ⟨{ w with server := { w.server with
              settings := { w.server.settings with fetchSize := some size } } },
            .none rfl rfl, Or.inr ⟨_, rfl, rfl⟩⟩
        | true =>
          simp only [Cursor.setFetchSize, Cursor.onServer, setFetchSize_of_closed hclosed]
          exact ⟨_, (Cursor.closes_close _ w).noted, Or.inl ⟨_, rfl, rfl⟩⟩

theorem takeResult_eq (execution : Execution) (s : Statement) (w : ClientWorld) :
    ∃ cursor w', w.server.Noted [] w'.server ∧ takeResult execution (s, w) =
      match execution.count s.options with
      | .ok count => .ok count ({ s with cursor }, w')
      | .error e => .error e ({ s with cursor }, w') := by
  cases execution with
  | update rowsAffected => exact ⟨s.cursor, w, .none rfl rfl, rfl⟩
  | query rows =>
    obtain ⟨w', hnoted, ⟨e, hcount, hopen⟩ | ⟨cursor, hcount, hopen⟩⟩ :=
      openCursor_eq s.options rows w
    · exact ⟨s.cursor, w', hnoted, by simp only [takeResult, hopen, hcount]⟩
    · exact ⟨some cursor, w', hnoted, by simp only [takeResult, hopen, hcount]⟩

theorem noted_releaseAll (w : ClientWorld) (vs : List Value) :
    w.server.Noted [] (w.releaseAll vs).server := by
  obtain ⟨_, _, heq⟩ := w.onlyLobs_releaseAll vs
  rw [heq]
  exact .none rfl rfl

/-- Outputs are written back all together or not at all.  What they are written over is dropped, in
the order of the parameters. -/
theorem writeBack_eq (hlink : s.link = some ⟨h, some ps⟩) (args : Arguments) (w : ClientWorld) :
    writeBack (args, s, w) =
      match ps.writeBack args with
      | .ok args' => .ok () (args', s, w.releaseAll (ps.replaced args))
      | .error e => .error e (args, s, w) := by
  have hps : s.parameters? = some ps := by simp [parameters?, hlink]
  simp only [writeBack, hps, Parameters.writeBack]
  cases houtputs : ps.outputs with
  | error e => rfl
  | ok written =>
    simp only [Except.bind, Parameters.replaced_of_outputs houtputs]
    cases Parameters.assign args written <;> rfl

/-! ## All steps together -/

/-- The steps of an execution up to the answer of the server. -/
def exchange (args : Arguments) : EStateM Error (Statement × ClientWorld) Execution := do
  refresh
  bind args
  executeBound

/-- The steps of an execution up to its result; nothing is written back yet. -/
def perform (args : Arguments) : EStateM Error (Statement × ClientWorld) Int := do
  refresh
  bind args
  takeResult (← executeBound)

theorem perform_eq_bind (args : Arguments) : perform args = exchange args >>= takeResult := by
  simp only [perform, exchange, bind_assoc]

/-- The cursor is closed, arguments are bound, and the server answers.  There is no cursor until the
answer is looked at. -/
theorem exchange_eq (hlink : s.link = some ⟨h, some ps⟩)
    (hgiven : (h.isReleased && s.options.concernHandle) = false) (args : Arguments)
    (w : ClientWorld) :
    ∃ entries h' w', h.Alike s.options h' ∧ w.server.Noted entries w'.server ∧
      (∀ execution ps', Parameters.exchange args (h.given s.options) w.server ps =
        .ok execution ps' → Parameters.InputsNoted args ps entries) ∧
      exchange args (s, w) =
        match Parameters.exchange args (h.given s.options) w.server ps with
        | .ok execution ps =>
          .ok execution ({ s with link := some ⟨h', some ps⟩, cursor := none }, w')
        | .error e ps => .error e ({ s with link := some ⟨h', some ps⟩, cursor := none }, w') := by
  obtain ⟨w₁, hcloses, hrefresh⟩ := refresh_eq hlink w
  have hw₁ := hcloses.noted
  rw [hgiven, if_neg Bool.false_ne_true] at hrefresh
  rw [exchange, run_bind_ok hrefresh]
  unfold Parameters.exchange
  have hbind := bind_eq
    (s := { s with link := some ⟨h.given s.options, some ps⟩, cursor := none }) rfl args w₁
  cases hbound : Parameters.bind args ps with
  | error e ps₁ =>
    rw [hbound] at hbind
    rw [run_bind_error hbind]
    exact ⟨[], _, w₁, Handle.alike_given s.options h h.serials, hw₁, nofun, rfl⟩
  | ok _ ps₁ =>
    rw [hbound] at hbind
    rw [run_bind_ok hbind]
    obtain ⟨entries, serials, w₂, hw₂, hentries, hexecute⟩ := executeBound_eq
      (s := { s with link := some ⟨h.given s.options, some ps₁⟩, cursor := none }) rfl w₁
    -- closing the cursor has left the scripts as they were
    rw [Handle.serve_eq_of_scripts_eq hw₁.scripts] at hentries hexecute
    refine ⟨entries, _, w₂, Handle.alike_given s.options h serials, hw₁.trans hw₂, ?_, ?_⟩
    · intro execution ps' hexchange
      cases hserve : (h.given s.options).serve w.server ps₁.bindings with
      | error e bindings => simp [hserve] at hexchange
      | ok execution' bindings =>
        obtain ⟨inputs, hinputs, rfl⟩ := hentries execution' bindings hserve
        exact ⟨ps₁, inputs, hbound, hinputs, rfl⟩
    · simp only [hexecute]
      cases (h.given s.options).serve w.server ps₁.bindings <;> rfl

/-- An execution up to its result, with all that it passes through. -/
theorem perform_eq (hlink : s.link = some ⟨h, some ps⟩) (args : Arguments) (w : ClientWorld) :
    ∃ entries h' cursor w', h.Alike s.options h' ∧ w.server.Noted entries w'.server ∧
      (∀ count ps', Parameters.perform args s.options h w.server ps = .ok count ps' →
        Parameters.InputsNoted args ps entries) ∧
      perform args (s, w) =
        match Parameters.perform args s.options h w.server ps with
        | .ok count ps => .ok count ({ s with link := some ⟨h', some ps⟩, cursor }, w')
        | .error e ps => .error e ({ s with link := some ⟨h', some ps⟩, cursor }, w') := by
  unfold Parameters.perform
  cases hrefused : h.isReleased && s.options.concernHandle with
  | true =>
    obtain ⟨w₁, hcloses, hrefresh⟩ := refresh_eq hlink w
    rw [hrefused, if_pos rfl] at hrefresh
    rw [if_pos rfl, perform, run_bind_error hrefresh, hlink]
    exact ⟨[], h, none, w₁, .refl _ h, hcloses.noted, nofun, rfl⟩
  | false =>
    obtain ⟨entries, h', w₁, halike, hw₁, hentries, hexchanged⟩ :=
      exchange_eq hlink hrefused args w
    rw [if_neg Bool.false_ne_true, perform_eq_bind]
    cases hexchange : Parameters.exchange args (h.given s.options) w.server ps with
    | error e ps' =>
      rw [hexchange] at hexchanged
      rw [run_bind_error hexchanged]
      exact ⟨entries, h', none, w₁, halike, hw₁, nofun, rfl⟩
    | ok execution ps' =>
      rw [hexchange] at hexchanged
      obtain ⟨cursor, w₂, hw₂, htake⟩ := takeResult_eq execution
        { s with link := some ⟨h', some ps'⟩, cursor := none } w₁
      rw [run_bind_ok hexchanged, htake]
      refine ⟨entries, h', cursor, w₂, halike, by simpa using hw₁.trans hw₂,
        fun _ _ _ => hentries execution ps' hexchange, ?_⟩
      simp only
      cases execution.count s.options <;> rfl

theorem besideArguments_ok {α : Type} {op : EStateM Error (Statement × ClientWorld) α} {a : α}
    {state state' : Statement × ClientWorld} (hop : op state = .ok a state') (args : Arguments) :
    besideArguments op (args, state) = .ok a (args, state') := by
  rw [besideArguments, hop]

theorem besideArguments_error {α : Type} {op : EStateM Error (Statement × ClientWorld) α}
    {e : Error} {state state' : Statement × ClientWorld} (hop : op state = .error e state')
    (args : Arguments) : besideArguments op (args, state) = .error e (args, state') := by
  rw [besideArguments, hop]

/-! ## The form of a statement -/

theorem execute_of_closed (hlink : s.link = none) (sql : String) (w : ClientWorld) :
    execute sql (s, w) = .error .statementClosed (s, w) := by
  rw [execute, run_bind_get]
  simp only [hlink, run_throw]

theorem execute_of_prepared (hlink : s.link = some ⟨h, some ps⟩) (sql : String) (w : ClientWorld) :
    execute sql (s, w) = .error (.wrongForm .executeNeedsDirect) (s, w) := by
  rw [execute, run_bind_get]
  simp only [hlink, run_throw]

theorem execute_of_direct (hlink : s.link = some ⟨h, none⟩) (sql : String) (w : ClientWorld) :
    execute sql (s, w) = (do refresh; takeResult (← onHandle (Handle.execute sql)) :
      EStateM Error (Statement × ClientWorld) Int) (s, w) := by
  rw [execute, run_bind_get]
  simp only [hlink]

theorem executeWith_of_closed (hlink : s.link = none) (args : Arguments) (w : ClientWorld) :
    executeWith (args, s, w) = .error .statementClosed (args, s, w) := by
  rw [executeWith, run_bind_get]
  simp only [hlink, run_throw]

theorem executeWith_of_direct (hlink : s.link = some ⟨h, none⟩) (args : Arguments)
    (w : ClientWorld) :
    executeWith (args, s, w) = .error (.wrongForm .executeWithNeedsPrepared) (args, s, w) := by
  rw [executeWith, run_bind_get]
  simp only [hlink, run_throw]

theorem executeWith_of_prepared (hlink : s.link = some ⟨h, some ps⟩) (args : Arguments)
    (w : ClientWorld) :
    executeWith (args, s, w) = (do
      let count ← besideArguments (perform args)
      writeBack
      return count : EStateM Error (Arguments × Statement × ClientWorld) Int) (args, s, w) := by
  rw [executeWith, run_bind_get]
  simp only [hlink, perform]

/-- An execution ends at the step that fails, and has changed no argument by then. -/
theorem executeWith_of_error {args : Arguments} {w w' : ClientWorld} {e : Error}
    (hlink : s.link = some ⟨h, some ps⟩)
    (hperform : perform args (s, w) = .error e (s', w')) :
    executeWith (args, s, w) = .error e (args, s', w') := by
  rw [executeWith_of_prepared hlink, run_bind_error (besideArguments_error hperform args)]

/-- An execution that has its result writes back. -/
theorem executeWith_of_result {args : Arguments} {w w' : ClientWorld} {count : Int}
    (hlink : s.link = some ⟨h, some ps⟩)
    (hperform : perform args (s, w) = .ok count (s', w')) :
    executeWith (args, s, w) = (do
      writeBack
      return count : EStateM Error (Arguments × Statement × ClientWorld) Int) (args, s', w') := by
  rw [executeWith_of_prepared hlink, run_bind_ok (besideArguments_ok hperform args)]

/-- **An execution with arguments is what the caller sees of it.** -/
theorem executeWith_eq (hlink : s.link = some ⟨h, some ps⟩) (args : Arguments) (w : ClientWorld) :
    ∃ entries h' cursor w', h.Alike s.options h' ∧ w.server.Noted entries w'.server ∧
      (∀ count ps', Parameters.perform args s.options h w.server ps = .ok count ps' →
        Parameters.InputsNoted args ps entries) ∧
      executeWith (args, s, w) =
        match Parameters.transact args s.options h w.server ps with
        | .ok (count, args) ps =>
          .ok count (args, { s with link := some ⟨h', some ps⟩, cursor }, w')
        | .error e ps => .error e (args, { s with link := some ⟨h', some ps⟩, cursor }, w') := by
  obtain ⟨entries, h', cursor, w', halike, hw', hentries, hperform⟩ := perform_eq hlink args w
  unfold Parameters.transact
  cases hresult : Parameters.perform args s.options h w.server ps with
  | error e ps' =>
    rw [hresult] at hperform
    simp only [executeWith_of_error hlink hperform]
    exact ⟨entries, h', cursor, w', halike, hw', nofun, rfl⟩
  | ok count ps' =>
    rw [hresult] at hperform
    simp only [executeWith_of_result hlink hperform]
    have hwrite := writeBack_eq
      (s := { s with link := some ⟨h', some ps'⟩, cursor }) rfl args w'
    cases hback : ps'.writeBack args with
    | error e =>
      rw [hback] at hwrite
      rw [run_bind_error hwrite]
      exact ⟨entries, h', cursor, w', halike, hw', fun _ _ _ => hentries count ps' hresult, rfl⟩
    | ok args' =>
      rw [hback] at hwrite
      rw [run_bind_ok hwrite]
      have hdropped := noted_releaseAll w' (ps'.replaced args)
      exact ⟨entries, h', cursor, _, halike, by simpa using hw'.trans hdropped,
        fun _ _ _ => hentries count ps' hresult, rfl⟩

/-- **What the caller sees of an execution**: its result, and the arguments after it. -/
def outcome : EStateM.Result Error (Arguments × Statement × ClientWorld) Int →
    Except Error Int × Arguments
  | .ok count (args, _) => (.ok count, args)
  | .error e (args, _) => (.error e, args)

theorem outcome_executeWith (hlink : s.link = some ⟨h, some ps⟩) (args : Arguments)
    (w : ClientWorld) :
    outcome (executeWith (args, s, w)) =
      Parameters.seen args (Parameters.transact args s.options h w.server ps) := by
  obtain ⟨entries, h', cursor, w', -, -, -, hexecute⟩ := executeWith_eq hlink args w
  rw [hexecute]
  cases Parameters.transact args s.options h w.server ps <;> rfl

/-- What an execution leaves of the statement. -/
theorem leaves_executeWith (hlink : s.link = some ⟨h, some ps⟩) (args : Arguments)
    (w : ClientWorld) :
    ∃ h' cursor, h.Alike s.options h' ∧ (leaves (executeWith (args, s, w))).2.1 =
      { s with
        link := some ⟨h', some (leaves (Parameters.transact args s.options h w.server ps))⟩
        cursor } := by
  obtain ⟨entries, h', cursor, w', halike, -, -, hexecute⟩ := executeWith_eq hlink args w
  refine ⟨h', cursor, halike, ?_⟩
  rw [hexecute]
  cases Parameters.transact args s.options h w.server ps <;> rfl

end Statement
end SqlClient
