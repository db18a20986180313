import SqlClient.Proofs.StatementLeases

/-! # Options in effect

The options of a statement pile up: each configuration is merged over those before it, and before
every execution all of them are given to a handle that has older ones already.  So it has to be
said which are in effect.  For each option that is the value of the last configuration that set it,
and the default of the handle if there is none (`settingsInEffect`).

A merged configuration does to a handle what its parts do one after the other
(`applyOptions_merge`).  From this follows what every operation keeps (`InForce`): the options are
those of all configurations merged, and given to the handle they come to the same as given to a
fresh one.  What an execution writes down are then the settings in effect (`Executed`).
-/
namespace SqlClient

open Scripted

/-! ## Configurations in order -/

namespace Options

/-- All configurations, each merged over those before it. -/
def mergeAll (configs : List Options) : Options := configs.foldl merge empty

/-- The value of the last configuration that sets an option. -/
def lastSet {α : Type} (option : Options → Option α) (configs : List Options) : Option α :=
  (configs.filterMap option).getLast?

theorem mergeAll_concat (configs : List Options) (later : Options) :
    mergeAll (configs ++ [later]) = (mergeAll configs).merge later := by
  rw [mergeAll, List.foldl_concat, mergeAll]

/-- **A merge lets the last setting win.** -/
theorem mergeAll_eq_lastSet {α : Type} (option : Options → Option α)
    (hmerge : ∀ a b, option (merge a b) = (option b <|> option a)) (hempty : option empty = none)
    (configs : List Options) : option (mergeAll configs) = lastSet option configs := by
  induction configs using List.reverseRecOn with
  | nil => exact hempty
  | append_singleton configs later ih =>
    rw [mergeAll_concat, hmerge, ih, lastSet, lastSet, List.filterMap_append]
    cases hlater : option later with
    | none => simp [List.filterMap_cons_none hlater]
    | some a => simp [List.filterMap_cons_some hlater]

/-- Options that are merged are given one after the other. -/
theorem applyTo_merge (options later : Options) (settings : Settings) :
    (options.merge later).applyTo settings = later.applyTo (options.applyTo settings) := by
  obtain ⟨cursorName, maxRows, scrollMode, concurrency, fetchSize⟩ := later
  cases cursorName <;> cases maxRows <;> cases scrollMode <;> cases concurrency <;> rfl

theorem concernHandle_merge (options later : Options) :
    (options.merge later).concernHandle = (options.concernHandle || later.concernHandle) := by
  simp only [concernHandle, merge, Option.orElse_eq_orElse, Option.orElse_eq_or, Option.isSome_or]
  ac_rfl

end Options

namespace Scripted.Handle

/-- A handle is as it was after options that it is not told of. -/
theorem given_of_unconcerned {options : Options} (h : options.concernHandle = false)
    (handle : Handle) : handle.given options = handle := by
  obtain ⟨cursorName, maxRows, scrollMode, concurrency, fetchSize⟩ := options
  cases cursorName <;> cases maxRows <;> cases scrollMode <;> cases concurrency <;>
    first | rfl | cases h

/-- **A merged configuration does what its parts do** one after the other, also to a released
handle. -/
theorem applyOptions_merge (options later : Options) :
    applyOptions (options.merge later) = (do applyOptions options; applyOptions later) := by
  funext ⟨h, s⟩
  have hgiven : h.given (options.merge later) = (h.given options).given later := by
    simp [given, Options.applyTo_merge]
  rw [applyOptions_eq, Options.concernHandle_merge, hgiven]
  cases hoptions : h.isReleased && options.concernHandle with
  | true =>
    have hfirst : applyOptions options (h, s) = .error (.refused .released) (h, s) := by
      rw [applyOptions_eq, if_pos hoptions]
    rw [run_bind_error hfirst, if_pos]
    rw [Bool.and_or_distrib_left, hoptions, Bool.true_or]
  | false =>
    have hfirst : applyOptions options (h, s) = .ok () (h.given options, s) := by
      rw [applyOptions_eq, if_neg (by simp [hoptions])]
    rw [run_bind_ok hfirst, applyOptions_eq, Bool.and_or_distrib_left, hoptions, Bool.false_or]
    cases hlater : h.isReleased && later.concernHandle with
    | false => rw [if_neg Bool.false_ne_true]; exact (if_neg (by simp [given, hlater])).symm
    | true =>
      -- a released handle that came so far was told nothing
      have hreleased : h.isReleased = true := (Bool.and_eq_true_iff.mp hlater).1
      have hunconcerned : options.concernHandle = false := by simpa [hreleased] using hoptions
      rw [given_of_unconcerned hunconcerned, hlater]

/-- **All configurations merged do what they do one after the other.** -/
theorem applyOptions_mergeAll (configs : List Options) :
    applyOptions (.mergeAll configs) = forM configs applyOptions := by
  have hfold (options : Options) : applyOptions (configs.foldl Options.merge options) =
      (do applyOptions options; forM configs applyOptions) := by
    induction configs generalizing options with
    | nil => exact (bind_pure_unit (x := applyOptions options)).symm
    | cons first rest ih =>
      rw [List.foldl_cons, ih, applyOptions_merge, bind_assoc, List.forM_cons]
  exact hfold .empty

end Scripted.Handle

/-! ## What is written down -/

namespace Scripted

/-- No execution was written down, and no result set was given out. -/
structure Server.SameLog (s s' : Server) : Prop where
  executed : s'.executed = s.executed
  settings : s'.settings = s.settings
  opened : s'.openedResultSets = s.openedResultSets

/-- One execution was written down, with these settings; the fetch size is not known yet. -/
structure Server.Records (settings : Settings) (s s' : Server) : Prop where
  executed : ∃ sql, s'.executed = s.executed ++ [sql]
  settings : s'.settings = { settings with fetchSize := none }

namespace Server.SameLog

variable {s s' s'' : Server}

theorem refl (s : Server) : s.SameLog s := ⟨rfl, rfl, rfl⟩

theorem trans (hfirst : s.SameLog s') (hnext : s'.SameLog s'') : s.SameLog s'' :=
  ⟨hnext.executed.trans hfirst.executed, hnext.settings.trans hfirst.settings,
    hnext.opened.trans hfirst.opened⟩

/-- What was written down after nothing was. -/
theorem records {settings : Settings} (h : s.SameLog s') (hrecords : s'.Records settings s'') :
    s.Records settings s'' :=
  ⟨by rw [← h.executed]; exact hrecords.executed, hrecords.settings⟩

end Server.SameLog

namespace Handle

variable {h : Handle} {s s' : Server}

/-- **An execution is written down under the settings of the handle**, before its script is looked
up; only a released handle fails before. -/
theorem records_execute (sql : String) (h : Handle) (s : Server) :
    (∃ e, execute sql (h, s) = .error e (h, s)) ∨
      s.Records h.settings (leaves (execute sql (h, s))).2 := by
  cases hreleased : h.isReleased with
  | true => exact .inl ⟨_, execute_of_released hreleased sql s⟩
  | false =>
    rw [leaves_execute hreleased]
    exact .inr ⟨⟨sql, rfl⟩, rfl⟩

/-- A prepared execution is written down alike, after it was found that the handle is prepared. -/
theorem records_executePrepared (bindings : List Binding) (h : Handle) (s : Server) :
    (∃ e, executePrepared (bindings, h, s) = .error e (bindings, h, s)) ∨
      s.Records h.settings (leaves (executePrepared (bindings, h, s))).2.2 := by
  have hrefused {e : Error} (haccept : accept bindings h s = .error e)
      (hentered : s.entered h [] = s) :
      executePrepared (bindings, h, s) = .error e (bindings, h, s) := by
    rw [executePrepared_eq, serve, reply, haccept, entriesOf, hentered]
    rfl
  cases hreleased : h.isReleased with
  | true =>
    exact .inl ⟨_, hrefused (by simp only [accept, hreleased, if_true]; rfl)
      (by simp [Server.entered, hreleased])⟩
  | false =>
    cases hprepared : h.prepared with
    | none =>
      exact .inl ⟨_, hrefused (by simp only [accept, hreleased, hprepared]; rfl)
        (by simp [Server.entered, hreleased, hprepared])⟩
    | some sql =>
      rw [leaves_executePrepared]
      refine .inr ⟨⟨sql, ?_⟩, ?_⟩ <;> simp [Server.entered, hreleased, hprepared, Server.record]

end Handle
end Scripted

theorem World.Closes.sameLog {w w' : ClientWorld} (h : w.Closes w') :
    w.server.SameLog w'.server := by
  obtain ⟨_, rfl⟩ := h
  exact ⟨rfl, rfl, rfl⟩

theorem World.sameLog_releaseAll (w : ClientWorld) (vs : List Value) :
    w.server.SameLog (w.releaseAll vs).server := by
  obtain ⟨_, _, heq⟩ := w.onlyLobs_releaseAll vs
  rw [heq]
  exact ⟨rfl, rfl, rfl⟩

namespace Statement

variable {s : Statement} {w : ClientWorld} {x y : Statement × ClientWorld} {h : Handle}
  {p : Option Parameters} {settings : Settings}

theorem sameLog_writeBack (args : Arguments) (s : Statement) (w : ClientWorld) :
    w.server.SameLog (leaves (writeBack (args, s, w))).2.2.server := by
  simp only [writeBack]
  split
  · exact .refl w.server
  · split
    · exact .refl w.server
    · split
      · exact .refl w.server
      · exact w.sameLog_releaseAll _

/-- **An execution was written down** with these settings and, if its result set is the current one,
with the fetch size of the options. -/
structure Executed (options : Options) (settings : Settings) (w : ClientWorld)
    (y : Statement × ClientWorld) : Prop where
  executed : ∃ sql, y.2.server.executed = w.server.executed ++ [sql]
  settings : y.2.server.settings =
    { settings with fetchSize := if y.1.isQuery then options.fetchSize else none }
  opened : y.1.isQuery = true → y.2.server.openedResultSets = w.server.openedResultSets + 1

/-- Without a current result set the fetch size is not set. -/
theorem Executed.of_noCursor {options : Options} (hrecords : w.server.Records settings y.2.server)
    (hcursor : y.1.cursor = none) : Executed options settings w y where
  executed := hrecords.executed
  settings := by rw [isQuery, hcursor]; exact hrecords.settings
  opened := by simp [isQuery, hcursor]

theorem settings_tuned (options : Options) (s : Server) (hnone : s.settings.fetchSize = none) :
    (tuned options s).settings = { s.settings with fetchSize := options.fetchSize } := by
  unfold tuned
  cases options.fetchSize with
  | none =>
    show s.settings = { s.settings with fetchSize := none }
    rw [← hnone]
  | some size => rfl

/-- **The result set of an execution gets the fetch size** when it becomes the current one. -/
theorem executed_takeResult {execution : Execution}
    (hrecords : w.server.Records settings y.2.server)
    (hsupplied : Supplied x execution.rows? y) (hcursor : x.1.cursor = none)
    (hopened : x.2.server.openedResultSets = w.server.openedResultSets) :
    Executed y.1.options settings w (leaves (takeResult execution y)) := by
  obtain ⟨s, w'⟩ := y
  have hnone : s.cursor = none := hsupplied.cursor.trans hcursor
  cases execution with
  | update rowsAffected => exact .of_noCursor hrecords hnone
  | query rows =>
    obtain ⟨hopen, -⟩ := hsupplied.fresh rows rfl
    simp only [takeResult, openCursor_of_open s.options hopen]
    rcases Column.ofDescriptions rows.columns with e | (_ | ⟨column, columns⟩)
    · exact .of_noCursor ⟨hrecords.executed, hrecords.settings⟩ hnone
    · exact .of_noCursor ⟨hrecords.executed, hrecords.settings⟩ hnone
    · have hfetch : w'.server.settings.fetchSize = none :=
        congrArg Settings.fetchSize hrecords.settings
      have htuned : (tuned s.options w'.server).executed = w'.server.executed ∧
          (tuned s.options w'.server).openedResultSets = w'.server.openedResultSets := by
        unfold tuned
        split <;> exact ⟨rfl, rfl⟩
      have hset := settings_tuned s.options w'.server hfetch
      rw [show w'.server.settings = _ from hrecords.settings] at hset
      refine ⟨?_, hset, fun _ => ?_⟩
      · obtain ⟨sql, hsql⟩ := hrecords.executed
        exact ⟨sql, htuned.1.trans hsql⟩
      · exact htuned.2.trans (hsupplied.opened.trans (congrArg (· + 1) hopened))

/-- A step writes nothing down and fails, or writes an execution down. -/
def Answers (settings : Settings) (run : EStateM Error (Statement × ClientWorld) Execution)
    (x : Statement × ClientWorld) : Prop :=
  x.2.server.SameLog (leaves (run x)).2.server ∧ result? (run x) = none ∨
    x.2.server.Records settings (leaves (run x)).2.server

theorem answers_execute (hlink : s.link = some ⟨h, p⟩) (sql : String) (w : ClientWorld) :
    Answers h.settings (onHandle (Handle.execute sql)) (s, w) := by
  simp only [Answers, onHandle, hlink]
  rcases Handle.records_execute sql h w.server with ⟨e, herror⟩ | hrecords
  · rw [herror]
    exact .inl ⟨.refl w.server, rfl⟩
  · refine .inr ?_
    cases hresult : Handle.execute sql (h, w.server) <;> rw [hresult] at hrecords <;>
      exact hrecords

theorem answers_executeBound {ps : Parameters} (hlink : s.link = some ⟨h, some ps⟩)
    (w : ClientWorld) : Answers h.settings executeBound (s, w) := by
  simp only [Answers, executeBound, hlink]
  rcases Handle.records_executePrepared ps.bindings h w.server with ⟨e, herror⟩ | hrecords
  · rw [herror]
    exact .inl ⟨.refl w.server, rfl⟩
  · refine .inr ?_
    cases hresult : Handle.executePrepared (ps.bindings, h, w.server) <;>
      rw [hresult] at hrecords <;> exact hrecords

/-- What comes of the answer of the server, in a state where nothing was written down yet. -/
theorem executed_finish {run : EStateM Error (Statement × ClientWorld) Execution}
    (hlog : w.server.SameLog x.2.server) (hrun : Answers settings run x)
    (hsupplied : Supplied x ((result? (run x)).bind Execution.rows?) (leaves (run x)))
    (hoptions : (leaves (run x)).1.options = x.1.options) (hcursor : x.1.cursor = none) :
    w.server.SameLog (leaves ((do takeResult (← run)) x)).2.server ∨
      Executed x.1.options settings w (leaves ((do takeResult (← run)) x)) := by
  unfold Answers at hrun
  cases hresult : run x with
  | error e y =>
    rw [hresult] at hrun hsupplied
    rw [run_bind_error hresult]
    rcases hrun with ⟨hsame, -⟩ | hrecords
    · exact .inl (hlog.trans hsame)
    · exact .inr (.of_noCursor (hlog.records hrecords) (hsupplied.cursor.trans hcursor))
  | ok execution y =>
    rw [hresult] at hrun hsupplied hoptions
    rw [run_bind_ok hresult, ← hoptions]
    rcases hrun with ⟨-, hnone⟩ | hrecords
    · cases hnone
    · exact .inr (executed_takeResult (hlog.records hrecords) hsupplied hcursor hlog.opened)

theorem options_onHandle {α : Type} (op : EStateM Error (Handle × Server) α) (s : Statement)
    (w : ClientWorld) : (leaves (onHandle op (s, w))).1.options = s.options := by
  cases hlink : s.link with
  | none =>
    rw [onHandle_of_closed hlink]
    rfl
  | some link => rw [leaves_onHandle hlink]

theorem options_executeBound (s : Statement) (w : ClientWorld) :
    (leaves (executeBound (s, w))).1.options = s.options := by
  simp only [executeBound]
  split
  · split <;> rfl
  · rfl

/-- **A direct execution** is written down with the options given to the handle. -/
theorem executed_execute (hlink : s.link = some ⟨h, none⟩) (sql : String) (w : ClientWorld) :
    w.server.SameLog (leaves (execute sql (s, w))).2.server ∨
      Executed s.options (s.options.applyTo h.settings) w (leaves (execute sql (s, w))) := by
  obtain ⟨w₁, hcloses, hrefresh⟩ := refresh_eq hlink w
  have hlog := hcloses.sameLog
  rw [execute_of_direct hlink]
  by_cases hrefused : (h.isReleased && s.options.concernHandle) = true
  · rw [if_pos hrefused] at hrefresh
    rw [run_bind_error hrefresh]
    exact .inl hlog
  · rw [if_neg hrefused] at hrefresh
    rw [run_bind_ok hrefresh]
    have hanswers := answers_execute (h := h.given s.options)
      (s := { s with link := some ⟨h.given s.options, none⟩, cursor := none }) rfl sql w₁
    exact executed_finish hlog hanswers (supplied_execute sql _ w₁) (options_onHandle _ _ w₁) rfl

/-- **An execution with arguments** is written down alike, up to its result. -/
theorem executed_perform {ps : Parameters} (hlink : s.link = some ⟨h, some ps⟩) (args : Arguments)
    (w : ClientWorld) :
    w.server.SameLog (leaves (perform args (s, w))).2.server ∨
      Executed s.options (s.options.applyTo h.settings) w (leaves (perform args (s, w))) := by
  obtain ⟨w₁, hcloses, hrefresh⟩ := refresh_eq hlink w
  have hlog := hcloses.sameLog
  rw [perform]
  by_cases hrefused : (h.isReleased && s.options.concernHandle) = true
  · rw [if_pos hrefused] at hrefresh
    rw [run_bind_error hrefresh]
    exact .inl hlog
  · rw [if_neg hrefused] at hrefresh
    rw [run_bind_ok hrefresh]
    have hbind := bind_eq
      (s := { s with link := some ⟨h.given s.options, some ps⟩, cursor := none }) rfl args w₁
    cases hbound : Parameters.bind args ps with
    | error e ps₁ =>
      rw [hbound] at hbind
      rw [run_bind_error hbind]
      exact .inl hlog
    | ok _ ps₁ =>
      rw [hbound] at hbind
      rw [run_bind_ok hbind]
      have hanswers := answers_executeBound (h := h.given s.options)
        (s := { s with link := some ⟨h.given s.options, some ps₁⟩, cursor := none }) rfl w₁
      exact executed_finish hlog hanswers (supplied_executeBound _ w₁) (options_executeBound _ w₁)
        rfl

theorem executed_executeWith {ps : Parameters} (hlink : s.link = some ⟨h, some ps⟩)
    (args : Arguments) (w : ClientWorld) :
    w.server.SameLog (leaves (executeWith (args, s, w))).2.2.server ∨
      Executed s.options (s.options.applyTo h.settings) w (leaves (executeWith (args, s, w))).2 := by
  have hperformed := executed_perform hlink args w
  cases hperform : perform args (s, w) with
  | error e state =>
    rw [hperform] at hperformed
    rw [executeWith_of_error hlink hperform]
    exact hperformed
  | ok count state =>
    obtain ⟨s', w'⟩ := state
    rw [hperform] at hperformed
    rw [executeWith_of_result hlink hperform, leaves_bind_pure]
    -- writing back leaves the statement alone, and what was written down
    have hsame := (sameResultSets_writeBack args s' w').1
    have hback := sameLog_writeBack args s' w'
    refine hperformed.imp (fun hlog => hlog.trans hback) fun hexecuted => ?_
    obtain ⟨⟨sql, hsql⟩, hsettings, hopened⟩ := hexecuted
    refine ⟨⟨sql, hback.executed.trans hsql⟩, ?_, ?_⟩
    · rw [hsame]
      exact hback.settings.trans hsettings
    · rw [hsame]
      exact fun hquery => hback.opened.trans (hopened hquery)

/-! ## Options in force -/

/-- **The options of all configurations are in force**: the statement has them merged, and given to
its handle they come to the same as given to a fresh one. -/
structure InForce (configs : List Options) (s : Statement) : Prop where
  options : s.options = .mergeAll configs
  settings : ∀ link, s.link = some link →
    s.options.applyTo link.handle.settings = s.options.applyTo Settings.initial

theorem InForce.of_follows {configs : List Options} (h : InForce configs x.1)
    (hfollows : Follows x y) : InForce configs y.1 where
  options := hfollows.options.trans h.options
  settings := by
    intro link' hlink'
    obtain ⟨link, hlink, heq⟩ := hfollows.settings link' hlink'
    rw [hfollows.options, heq]
    exact h.settings link hlink

/-- The configuration that an operation merges. -/
def Operation.configures : Operation → Option Options
  | .configure later => some later
  | _ => none

/-- **Every operation keeps the options in force**, with those that it merges. -/
theorem InForce.after {configs : List Options} (h : InForce configs s) (op : Operation)
    (w : ClientWorld) :
    InForce (configs ++ op.configures.toList) (Statement.after op (s, w)).1 := by
  have hfollows (hnone : op.configures = none)
      (hafter : Follows (s, w) (Statement.after op (s, w))) :
      InForce (configs ++ op.configures.toList) (Statement.after op (s, w)).1 := by
    rw [hnone, Option.toList_none, List.append_nil]
    exact h.of_follows hafter
  cases op with
  | configure later =>
    refine ⟨?_, fun link hlink => ?_⟩
    · show s.options.merge later = .mergeAll (configs ++ [later])
      rw [Options.mergeAll_concat, h.options]
    · show (s.options.merge later).applyTo _ = (s.options.merge later).applyTo _
      rw [Options.applyTo_merge, Options.applyTo_merge, h.settings link hlink]
  | execute sql => exact hfollows rfl (follows_execute sql s w)
  | executeWith args => exact hfollows rfl (follows_executeWith args s w)
  | batch sqls => exact hfollows rfl (follows_batch sqls s w)
  | serial choice => exact hfollows rfl (follows_serial choice s w)
  | cursor call =>
    refine hfollows rfl ?_
    rw [Statement.after, leaves_onCursor]
    cases s.cursor <;> exact .of_link rfl rfl
  | close =>
    rw [Statement.after, close_fst]
    refine ⟨?_, by simp⟩
    show s.options = .mergeAll (configs ++ [])
    rw [List.append_nil, h.options]

/-! ## Runs -/

/-- The statement was made on a fresh handle with these options, directly or for a SQL text. -/
inductive Opened (initial : Options) (s : Statement) : Prop
  | direct {w w' : ClientWorld} : new .new initial w = .ok s w' → Opened initial s
  | prepared {sql : String} {w w' : ClientWorld} : prepare .new sql initial w = .ok s w' →
      Opened initial s

/-- A statement after operations, each in the world that it finds. -/
def runIn (s : Statement) (steps : List (Operation × ClientWorld)) : Statement :=
  steps.foldl (fun s (op, w) => (after op (s, w)).1) s

/-- All configurations, the initial one first. -/
def configurations (initial : Options) (steps : List (Operation × ClientWorld)) : List Options :=
  initial :: steps.filterMap fun (op, _) => op.configures

/-- The handle of a statement that was opened was given its options, and nothing else. -/
theorem Opened.eq {initial : Options} (h : Opened initial s) :
    ∃ prepared parameters,
      s = ⟨some ⟨{ Handle.new.given initial with prepared }, parameters⟩, none, initial⟩ := by
  cases h with
  | @direct w w' hnew =>
    rw [new_of_live rfl] at hnew
    cases hnew
    exact ⟨none, none, rfl⟩
  | @prepared sql w w' hprepare =>
    obtain ⟨-, -, ps, -, heq⟩ := prepare_eq_ok hprepare
    exact ⟨some sql, some ps, heq⟩

theorem Opened.inForce {initial : Options} (h : Opened initial s) : InForce [initial] s := by
  obtain ⟨prepared, parameters, rfl⟩ := h.eq
  refine ⟨(Options.empty_merge initial).symm, ?_⟩
  rintro _ ⟨⟩
  exact Options.applyTo_applyTo ..

/-- **A run keeps the options of all its configurations in force.** -/
theorem InForce.runIn {configs : List Options} (h : InForce configs s)
    (steps : List (Operation × ClientWorld)) :
    InForce (configs ++ steps.filterMap fun (op, _) => op.configures) (s.runIn steps) := by
  induction steps generalizing configs s with
  | nil =>
    rw [List.filterMap_nil, List.append_nil]
    exact h
  | cons step rest ih =>
    obtain ⟨op, w⟩ := step
    have hconfigs : ((op, w) :: rest).filterMap (fun (op, _) => op.configures) =
        op.configures.toList ++ rest.filterMap fun (op, _) => op.configures := by
      cases hconfigures : op.configures <;> simp [hconfigures]
    rw [hconfigs, ← List.append_assoc]
    exact ih (h.after op w)

/-- **The settings in effect** after configurations: for each option the value of the last one that
set it, or the default of a fresh handle.  The fetch size is that of the current result set. -/
def settingsInEffect (configs : List Options) (isQuery : Bool) : Settings where
  cursorName := Options.lastSet Options.cursorName configs <|> Settings.initial.cursorName
  maxRows := (Options.lastSet Options.maxRows configs).getD Settings.initial.maxRows
  scrollMode := (Options.lastSet Options.scrollMode configs).getD Settings.initial.scrollMode
  concurrency := (Options.lastSet Options.concurrency configs).getD Settings.initial.concurrency
  fetchSize := if isQuery then Options.lastSet Options.fetchSize configs else none

/-- A fresh handle that is given all configurations has the settings in effect. -/
theorem applyTo_mergeAll (configs : List Options) (isQuery : Bool) :
    { (Options.mergeAll configs).applyTo Settings.initial with
      fetchSize := if isQuery then (Options.mergeAll configs).fetchSize else none } =
      settingsInEffect configs isQuery := by
  have hcursorName := Options.mergeAll_eq_lastSet Options.cursorName (fun _ _ => rfl) rfl configs
  have hmaxRows := Options.mergeAll_eq_lastSet Options.maxRows (fun _ _ => rfl) rfl configs
  have hscrollMode := Options.mergeAll_eq_lastSet Options.scrollMode (fun _ _ => rfl) rfl configs
  have hconcurrency := Options.mergeAll_eq_lastSet Options.concurrency (fun _ _ => rfl) rfl configs
  have hfetchSize := Options.mergeAll_eq_lastSet Options.fetchSize (fun _ _ => rfl) rfl configs
  rw [settingsInEffect, ← hcursorName, ← hmaxRows, ← hscrollMode, ← hconcurrency, ← hfetchSize]
  rfl

/-- Options in force are the settings in effect. -/
theorem InForce.settingsInEffect {configs : List Options} (h : InForce configs s) {link : Link}
    (hlink : s.link = some link) (isQuery : Bool) :
    { s.options.applyTo link.handle.settings with
      fetchSize := if isQuery then s.options.fetchSize else none } =
      settingsInEffect configs isQuery := by
  rw [h.settings link hlink, h.options]
  exact applyTo_mergeAll configs isQuery

/-- The operation executes the statement. -/
def Operation.executes : Operation → Bool
  | .execute _ | .executeWith _ => true
  | _ => false

/-- An execution that is written down is written down with the options given to the handle. -/
theorem executed_after {op : Operation} (hop : op.executes = true) (s : Statement)
    (w : ClientWorld) :
    w.server.SameLog (Statement.after op (s, w)).2.server ∨
      ∃ settings, Executed s.options settings w (Statement.after op (s, w)) ∧
        ∃ link, s.link = some link ∧ settings = s.options.applyTo link.handle.settings := by
  cases hlink : s.link with
  | none =>
    refine .inl ?_
    cases op with
    | execute sql =>
      rw [Statement.after, execute_of_closed hlink]
      exact .refl w.server
    | executeWith args =>
      rw [Statement.after, executeWith_of_closed hlink]
      exact .refl w.server
    | configure | batch | serial | cursor | close => cases hop
  | some link =>
    obtain ⟨handle, parameters⟩ := link
    cases op with
    | execute sql =>
      cases parameters with
      | none =>
        exact (executed_execute hlink sql w).imp_right fun hexecuted =>
          ⟨_, hexecuted, _, rfl, rfl⟩
      | some ps =>
        rw [Statement.after, execute_of_prepared hlink]
        exact .inl (.refl w.server)
    | executeWith args =>
      cases parameters with
      | none =>
        rw [Statement.after, executeWith_of_direct hlink]
        exact .inl (.refl w.server)
      | some ps =>
        exact (executed_executeWith hlink args w).imp_right fun hexecuted =>
          ⟨_, hexecuted, _, rfl, rfl⟩
    | configure | batch | serial | cursor | close => cases hop

/-- An execution that is written down has the settings in effect. -/
theorem InForce.recorded {configs : List Options} (h : InForce configs s) {op : Operation}
    (hop : op.executes = true) (w : ClientWorld)
    (hrecorded : (Statement.after op (s, w)).2.server.executed ≠ w.server.executed) :
    (∃ sql, (Statement.after op (s, w)).2.server.executed = w.server.executed ++ [sql]) ∧
      (Statement.after op (s, w)).2.server.settings =
        Statement.settingsInEffect configs (Statement.after op (s, w)).1.isQuery ∧
      ((Statement.after op (s, w)).1.isQuery = true →
        (Statement.after op (s, w)).2.server.openedResultSets = w.server.openedResultSets + 1) := by
  rcases executed_after hop s w with hsame | ⟨_, hexecuted, link, hlink, rfl⟩
  · exact absurd hsame.executed hrecorded
  · refine ⟨hexecuted.executed, ?_, hexecuted.opened⟩
    rw [hexecuted.settings]
    exact h.settingsInEffect hlink _

/-- **What the configurations of a run mean for its next execution**, and for a handle. -/
structure OptionsInEffect (configs : List Options) (s : Statement) : Prop where
  /-- An execution that gets as far as being written down has the settings in effect.  If the
  statement has a result set then, it is the one that this execution was given. -/
  recorded : ∀ op w, op.executes = true →
    (after op (s, w)).2.server.executed ≠ w.server.executed →
    (∃ sql, (after op (s, w)).2.server.executed = w.server.executed ++ [sql]) ∧
      (after op (s, w)).2.server.settings =
        settingsInEffect configs (after op (s, w)).1.isQuery ∧
      ((after op (s, w)).1.isQuery = true →
        (after op (s, w)).2.server.openedResultSets = w.server.openedResultSets + 1)
  /-- The options are all configurations merged. -/
  merged : s.options = .mergeAll configs
  /-- Configurations that are merged do to any handle, live or released, what they do one after the
  other. -/
  applied : ∀ configs : List Options,
    Handle.applyOptions (.mergeAll configs) = forM configs Handle.applyOptions
  assoc : ∀ a b c : Options, (a.merge b).merge c = a.merge (b.merge c)
  identity : ∀ a : Options, a.merge .empty = a ∧ Options.empty.merge a = a

/-- **Options are in effect at every execution**, whatever was done with the statement before and
whatever happened in between. -/
theorem optionsInEffect_of_run {initial : Options} (hopened : Opened initial s)
    (steps : List (Operation × ClientWorld)) :
    OptionsInEffect (configurations initial steps) (s.runIn steps) := by
  have hforce : InForce (configurations initial steps) (s.runIn steps) :=
    hopened.inForce.runIn steps
  exact ⟨fun _ w hop hrecorded => hforce.recorded hop w hrecorded, hforce.options,
    Handle.applyOptions_mergeAll, Options.merge_assoc,
    fun a => ⟨Options.merge_empty a, Options.empty_merge a⟩⟩

/-- A statement with a row limit is told of a cursor name and a fetch size, and then of another
limit.  It has executed an unknown text in between. -/
theorem optionsInEffect_of_run_limited :
    let sql := "SELECT N FROM T"
    let result : Result := ⟨[.ofLength "N" SqlType.integer.code 10], [[.int 5], [.int 7]]⟩
    let w : ClientWorld := .new (Server.empty.register sql ⟨.query result, [], none⟩)
    let initial : Options := { Options.empty with maxRows := some 9, scrollMode := some .sensitive }
    let steps : List (Operation × ClientWorld) :=
      [(.configure { Options.empty with cursorName := some "C", fetchSize := some 3 }, w),
        (.execute "SELECT", w), (.configure { Options.empty with maxRows := some 1 }, w)]
    ∃ s, Opened initial s ∧ OptionsInEffect (configurations initial steps) (s.runIn steps) ∧
      (after (.execute sql) (s.runIn steps, w)).2.server.executed = [sql] ∧
      (after (.execute sql) (s.runIn steps, w)).2.server.settings =
        ⟨some "C", 1, .sensitive, .readOnly, some 3⟩ := by
  intro sql result w initial steps
  have hmade : ∃ s, new .new initial w = .ok s w := ⟨_, rfl⟩
  obtain ⟨s, hs⟩ := hmade
  have hopened : Opened initial s := .direct hs
  cases hs
  exact ⟨_, hopened, optionsInEffect_of_run hopened steps, by decide +kernel, by decide +kernel⟩

end Statement
end SqlClient
