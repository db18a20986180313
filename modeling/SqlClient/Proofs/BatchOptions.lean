import SqlClient.Proofs.OptionsInEffect

/-! # The options of a batch

A configuration is merged into the options of the statement at once, but its handle is given them
only before an execution.  A batch is run without that: its entries are written down under what the
handle has been given so far (`GivenTo.settings_batch`), which are the configurations up to the last
execution (`configurationsGiven`).

So a batch runs under the options in effect if there was an execution since the last configuration,
and otherwise exactly if the configurations since then have changed nothing that is in effect
(`batchOptions_of_run`).
-/
namespace SqlClient

open Scripted

namespace Statement

variable {s s' : Statement} {given configs : List Options} {prepared : Bool}

/-! ## Configurations that the handle was given -/

/-- The configurations up to the last execution in the form of the statement. -/
def configurationsGiven (initial : Options) (prepared : Bool)
    (steps : List (Operation × ClientWorld)) : List Options :=
  configurations initial (steps.rdropWhile fun step => !step.1.gives prepared)

/-- With an execution the handle was given all of them, and else what it had been given before. -/
theorem configurationsGiven_concat (initial : Options) (prepared : Bool)
    (steps : List (Operation × ClientWorld)) (op : Operation) (w : ClientWorld) :
    configurationsGiven initial prepared (steps ++ [(op, w)]) =
      if op.gives prepared then configurations initial (steps ++ [(op, w)])
      else configurationsGiven initial prepared steps := by
  rw [configurationsGiven, List.rdropWhile_concat]
  cases op.gives prepared <;> rfl

theorem configurations_concat (initial : Options) (steps : List (Operation × ClientWorld))
    (op : Operation) (w : ClientWorld) :
    configurations initial (steps ++ [(op, w)]) =
      configurations initial steps ++ op.configures.toList := by
  cases hop : op.configures <;> simp [configurations, hop]

theorem configurationsGiven_isPrefix (initial : Options) (prepared : Bool)
    (steps : List (Operation × ClientWorld)) :
    configurationsGiven initial prepared steps <+: configurations initial steps := by
  have hsteps := List.rdropWhile_prefix (fun step => !step.1.gives prepared) steps
  exact List.cons_prefix_cons.mpr ⟨rfl, hsteps.filterMap _⟩

/-- A live handle that was given these configurations, fresh as it was, for a statement of this
form. -/
structure Given (given : List Options) (prepared : Bool) (leased : Handle × Bool) : Prop where
  live : leased.1.isReleased = false
  settings : leased.1.settings = (Options.mergeAll given).applyTo Settings.initial
  form : leased.2 = prepared

/-- **The statement was given these configurations**: its handle was, if it still has one. -/
def GivenTo (given : List Options) (prepared : Bool) (s : Statement) : Prop :=
  ∀ leased, s.lease = some leased → Given given prepared leased

theorem GivenTo.liveHandle (h : GivenTo given prepared s) : s.LiveHandle :=
  liveHandle_iff.mpr fun _ _ hlease => (h _ hlease).live

theorem GivenTo.isPrepared (h : GivenTo given prepared s) {leased : Handle × Bool}
    (hlease : s.lease = some leased) : s.isPrepared = prepared := by
  have hform := (h _ hlease).form
  obtain ⟨link, hlink, rfl⟩ := Option.map_eq_some_iff.mp hlease
  exact (isPrepared_of_link hlink).trans hform

/-- An execution gives the handle the options in force. -/
theorem GivenTo.leaseGiven (h : GivenTo given prepared s) (hforce : InForce configs s)
    (hlease : s'.lease = s.leaseGiven) : GivenTo configs prepared s' := by
  intro leased hleased
  rw [hlease, Statement.leaseGiven] at hleased
  obtain ⟨own, hown, rfl⟩ := Option.map_eq_some_iff.mp hleased
  obtain ⟨hlive, -, hform⟩ := h own hown
  obtain ⟨link, hlink, rfl⟩ := Option.map_eq_some_iff.mp hown
  refine ⟨hlive, ?_, hform⟩
  rw [← hforce.options]
  exact hforce.settings link hlink

/-- **Only an execution gives the handle the configurations in force.** -/
theorem GivenTo.after (h : GivenTo given prepared s) (hforce : InForce configs s) (op : Operation)
    (w : ClientWorld) :
    GivenTo (if op.gives prepared then configs else given) prepared
      (Statement.after op (s, w)).1 := by
  by_cases hop : op = .close
  · subst hop
    rw [Statement.after, close_fst]
    rintro _ ⟨⟩
  · obtain ⟨hlease, -⟩ := lease_after h.liveHandle hop w
    cases hown : s.lease with
    | none =>
      -- a closed statement has no handle to give options to
      intro leased hleased
      rw [hlease, Statement.leaseGiven, hown, Option.map_none, ite_self] at hleased
      cases hleased
    | some own =>
      rw [h.isPrepared hown] at hlease
      cases hgives : op.gives prepared <;> rw [hgives] at hlease
      · exact fun leased hleased => h leased (hlease.symm.trans hleased)
      · exact h.leaseGiven hforce hlease

theorem Opened.givenTo {initial : Options} (h : Opened initial s) :
    GivenTo [initial] s.isPrepared s := by
  obtain ⟨prepared, parameters, rfl⟩ := h.eq
  rintro _ ⟨⟩
  refine ⟨rfl, ?_, rfl⟩
  exact congrArg (Options.applyTo · Settings.initial) (Options.empty_merge initial).symm

/-- **A run gives the handle the configurations up to the last execution.** -/
theorem Opened.givenTo_runIn {initial : Options} (h : Opened initial s)
    (steps : List (Operation × ClientWorld)) :
    GivenTo (configurationsGiven initial s.isPrepared steps) s.isPrepared (s.runIn steps) := by
  induction steps using List.reverseRecOn with
  | nil => exact h.givenTo
  | append_singleton steps step ih =>
    obtain ⟨op, w⟩ := step
    have hforce : InForce (configurations initial steps) (s.runIn steps) :=
      h.inForce.runIn steps
    have hafter := ih.after hforce op w
    rw [configurationsGiven_concat, configurations_concat, runIn, List.foldl_concat]
    cases hgives : op.gives s.isPrepared with
    | false =>
      rw [hgives] at hafter
      exact hafter
    | true =>
      -- an execution configures nothing
      have hnone : op.configures = none := by cases op <;> first | rfl | cases hgives
      rw [hgives] at hafter
      rw [hnone, Option.toList_none, List.append_nil]
      exact hafter

/-! ## Batches -/

theorem batch_of_closed (hlink : s.link = none) (sqls : List String) (w : ClientWorld) :
    w.server.Unasked (leaves (batch sqls (s, w))).2.server := by
  obtain ⟨w', hcloses, hclose⟩ := closeCursor_eq s w
  rw [batch, run_bind_modify, hclose, onHandle_of_closed (s := { s with cursor := none }) hlink]
  exact hcloses.unasked

/-- **A batch** writes its entries down under the settings of the handle as it is. -/
theorem batch_of_live {h : Handle} {p : Option Parameters} (hlink : s.link = some ⟨h, p⟩)
    (hlive : h.isReleased = false) (sqls : List String) (w : ClientWorld) :
    ∃ (entered : List String) (w' : ClientWorld), entered <+: sqls ∧
      (entered = [] → sqls = []) ∧ w.server.Unasked w'.server ∧
      (leaves (batch sqls (s, w))).2.server = w'.server.recordAll entered h.settings := by
  obtain ⟨w', hcloses, hclose⟩ := closeCursor_eq s w
  obtain ⟨entered, hentered, hempty, hleaves⟩ :=
    Handle.leaves_executeBatch hlive sqls w'.server
  refine ⟨entered, w', hentered, hempty, hcloses.unasked, ?_⟩
  rw [batch, run_bind_modify, hclose, leaves_onHandle (s := { s with cursor := none }) hlink]
  exact congrArg Prod.snd hleaves

/-- **A batch that writes entries down** does so under what the handle was given. -/
theorem GivenTo.settings_batch (h : GivenTo given prepared s) (sqls : List String)
    (w : ClientWorld)
    (hrecorded : (leaves (batch sqls (s, w))).2.server.executed ≠ w.server.executed) :
    (leaves (batch sqls (s, w))).2.server.settings = settingsInEffect given false := by
  cases hlink : s.link with
  | none => exact absurd (batch_of_closed hlink sqls w).executed hrecorded
  | some link =>
    obtain ⟨hlive, hsettings, -⟩ := h _ (lease_of_link hlink)
    obtain ⟨entered, w', -, -, hserver, hbatch⟩ := batch_of_live hlink hlive sqls w
    rw [hbatch, Server.recordAll] at hrecorded ⊢
    have hentered : entered ≠ [] := by
      rintro rfl
      exact hrecorded ((List.append_nil _).trans hserver.executed)
    rw [← applyTo_mergeAll, ← hsettings]
    exact if_neg hentered

/-- A batch of a statement that is not closed writes its first entry down. -/
theorem GivenTo.executed_batch (h : GivenTo given prepared s) (hopen : s.isClosed = false)
    (sql : String) (w : ClientWorld) :
    (leaves (batch [sql] (s, w))).2.server.executed ≠ w.server.executed := by
  cases hlink : s.link with
  | none => simp [isClosed, hlink] at hopen
  | some link =>
    obtain ⟨hlive, -, -⟩ := h _ (lease_of_link hlink)
    obtain ⟨entered, w', -, hempty, hserver, hbatch⟩ := batch_of_live hlink hlive [sql] w
    rw [hbatch, ← hserver.executed, Server.recordAll]
    intro hsame
    cases hempty (List.append_right_eq_self.mp hsame)

/-- **What the options mean for a batch**: the first of the configurations were given to the
handle, and these it runs under. -/
structure BatchOptions (given configs : List Options) (s : Statement) : Prop where
  inOrder : given <+: configs
  /-- What a batch writes down has the settings of the configurations that were given. -/
  batched : ∀ sqls w, (leaves (batch sqls (s, w))).2.server.executed ≠ w.server.executed →
    (leaves (batch sqls (s, w))).2.server.settings = settingsInEffect given false
  /-- What an execution writes down has those of all configurations. -/
  executed : ∀ op w, op.executes = true →
    (after op (s, w)).2.server.executed ≠ w.server.executed →
      (after op (s, w)).2.server.settings =
        settingsInEffect configs (after op (s, w)).1.isQuery
  /-- So batches run under the options in effect exactly if the configurations that were not given
  yet change none of them. -/
  agree_iff : s.isClosed = false →
    ((∀ sqls w, (leaves (batch sqls (s, w))).2.server.executed ≠ w.server.executed →
      (leaves (batch sqls (s, w))).2.server.settings = settingsInEffect configs false) ↔
      settingsInEffect given false = settingsInEffect configs false)

/-- **A batch runs under the options of the last execution**, and not under those configured since
then, whatever was done with the statement before. -/
theorem batchOptions_of_run {initial : Options} (hopened : Opened initial s)
    (steps : List (Operation × ClientWorld)) :
    BatchOptions (configurationsGiven initial s.isPrepared steps) (configurations initial steps)
      (s.runIn steps) := by
  have hgiven := hopened.givenTo_runIn steps
  have hforce : InForce (configurations initial steps) (s.runIn steps) :=
    hopened.inForce.runIn steps
  refine ⟨configurationsGiven_isPrefix initial _ steps, hgiven.settings_batch,
    fun op w hop hrecorded => (hforce.recorded hop w hrecorded).2.1, fun hopen => ?_⟩
  constructor
  · intro hagree
    have hrecorded := hgiven.executed_batch hopen "" (.new .empty)
    rw [← hagree _ _ hrecorded, hgiven.settings_batch _ _ hrecorded]
  · intro hsame sqls w hrecorded
    rw [hgiven.settings_batch sqls w hrecorded, hsame]

/-- A statement is told of a row limit, executes an unknown text, and is told of another limit and
a cursor name.  Its batch runs under the first limit, and an execution under the second. -/
theorem batchOptions_of_run_limited :
    let sql := "DELETE FROM T"
    let w : ClientWorld := .new (Server.empty.register sql ⟨.update 3, [], none⟩)
    let limit (rows : Nat) : Options := { Options.empty with maxRows := some rows }
    let steps : List (Operation × ClientWorld) :=
      [(.configure (limit 5), w), (.execute "SELECT", w),
        (.configure { limit 1 with cursorName := some "C" }, w)]
    ∃ s, Opened .empty s ∧
      BatchOptions (configurationsGiven .empty s.isPrepared steps) (configurations .empty steps)
        (s.runIn steps) ∧
      (leaves (batch [sql] (s.runIn steps, w))).2.server.settings =
        { Settings.initial with maxRows := 5 } ∧
      (after (.execute sql) (s.runIn steps, w)).2.server.settings =
        { Settings.initial with maxRows := 1, cursorName := some "C" } := by
  intro sql w limit steps
  have hmade : ∃ s, new .new .empty w = .ok s w := ⟨_, rfl⟩
  obtain ⟨s, hs⟩ := hmade
  have hopened : Opened .empty s := .direct hs
  cases hs
  exact ⟨_, hopened, batchOptions_of_run hopened steps, by decide +kernel, by decide +kernel⟩

/-- **A batch misses the options**: a statement is told of a row limit and runs a batch, which is
written down without a limit.  An execution in its place has it. -/
theorem batch_without_options :
    let sql := "DELETE FROM T"
    let w : ClientWorld := .new (Server.empty.register sql ⟨.update 3, [], none⟩)
    let limited : Operation := .configure { Options.empty with maxRows := some 5 }
    ∃ s, new .new .empty w = .ok s w ∧
      (leaves (batch [sql] (s.runIn [(limited, w)], w))).2.server.executed = [sql] ∧
      (leaves (batch [sql] (s.runIn [(limited, w)], w))).2.server.settings.maxRows = 0 ∧
      (settingsInEffect (configurations .empty [(limited, w)]) false).maxRows = 5 ∧
      (after (.execute sql) (s.runIn [(limited, w)], w)).2.server.settings.maxRows = 5 := by
  intro sql w limited
  exact ⟨_, rfl, by decide +kernel, by decide +kernel, by decide +kernel, by decide +kernel⟩

end Statement
end SqlClient
