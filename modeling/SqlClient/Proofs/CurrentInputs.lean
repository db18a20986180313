import SqlClient.Proofs.ExecutionHistory
import SqlClient.Proofs.OptionsInEffect

/-! # Inputs depend on the current arguments only

The buffers of a prepared statement are used again by every execution.  One that fails half way
through binding leaves some of them with its own arguments and the others with older ones.  The
server sees nothing of that: binding succeeds or is refused as on the statement that was just
prepared, and what the server reads from the buffers are the same inputs (`Delivers.of_sameShape`).

An execution that is refused while binding asks nothing of the server (`executeWith_refused`).  Any
other has its inputs written down, if the server expects so many, when the server is asked
(`sent_exchange`), and asks nothing more after that (`unasked_afterExchange`).
-/
namespace SqlClient

open Scripted

namespace Parameters

variable {args : Arguments} {ps qs bound : Parameters} {outcome : Except Error (List Value)}

/-- **What comes of arguments**: they are refused while they are bound, or the server reads these
inputs from the buffers. -/
inductive Delivers (args : Arguments) (ps : Parameters) : Except Error (List Value) → Prop where
  | refused {e : Error} {ps' : Parameters} :
      bind args ps = .error e ps' → Delivers args ps (.error e)
  | read {bound : Parameters} {inputs : List Value} : bind args ps = .ok () bound →
      Handle.inputsOf bound.bindings = .ok inputs → Delivers args ps (.ok inputs)

/-- Buffers that were written can be read. -/
theorem exists_inputsOf {position : Nat} {items items' : List Parameter} {values : List Value}
    (hbound : bindFrom position items values = .ok () items')
    (hlength : values.length = items.length) :
    ∃ inputs, Handle.inputsOf (items'.map (·.binding)) = .ok inputs := by
  induction items generalizing position values items' with
  | nil =>
    cases hbound
    exact ⟨[], rfl⟩
  | cons p items ih =>
    cases values with
    | nil => cases hlength
    | cons v values =>
      obtain ⟨q, rest, hbind, hrest, rfl⟩ := bindFrom_cons_eq_ok hbound
      obtain ⟨inputs, hinputs⟩ := ih hrest (Nat.succ.inj hlength)
      have hmode := Parameter.mode_eq_of_shape_eq (Parameter.shape_of_bind hbind)
      have hinput : ∃ c, q.binding.input = .ok c := by
        by_cases hin : p.binding.mode.isInput = true
        · obtain ⟨c, -, houtput⟩ := Parameter.output_of_bind hbind hin
          exact ⟨c, (Binding.input_of_isInput (hmode ▸ hin)).trans houtput⟩
        · exact ⟨.null, Binding.input_of_not_isInput (hmode ▸ Bool.eq_false_iff.mpr hin)⟩
      obtain ⟨c, hc⟩ := hinput
      refine ⟨c :: inputs, ?_⟩
      change (q.binding :: rest.map (·.binding)).mapM Binding.input = _
      change (rest.map (·.binding)).mapM Binding.input = _ at hinputs
      rw [mapM_cons_ok hc, hinputs]
      rfl

theorem exists_delivers (args : Arguments) (ps : Parameters) :
    ∃ outcome, ps.Delivers args outcome := by
  cases hbind : bind args ps with
  | error e ps' => exact ⟨.error e, .refused hbind⟩
  | ok _ bound =>
    obtain ⟨slots, items, hslots, hitems, rfl⟩ := exists_slots_of_bind hbind
    have hperm := (resolution_of_slotsFor hslots).perm
    obtain ⟨inputs, hinputs⟩ := exists_inputsOf hitems (by simpa [size] using hperm.length_eq)
    exact ⟨.ok inputs, .read hbind hinputs⟩

/-- **What comes of arguments depends on the shape of the parameters only**, and not on what their
buffers hold. -/
theorem Delivers.of_sameShape (h : ps.Delivers args outcome) (hshape : SameShape ps qs) :
    qs.Delivers args outcome := by
  have hagree := bind_agree args hshape
  cases h with
  | refused hbind =>
    rcases hagree with ⟨e', ps', qs', hps, hqs⟩ | ⟨ps', qs', hps, -⟩
    · cases hbind.symm.trans hps
      exact .refused hqs
    · cases hbind.symm.trans hps
  | read hbind hinputs =>
    rcases hagree with ⟨e', ps', qs', hps, -⟩ | ⟨ps', qs', hps, hqs, hinput, -⟩
    · cases hbind.symm.trans hps
    · cases hbind.symm.trans hps
      have hsame := Handle.inputsOf_eq_of_sameInput (sameInput_bindings hinput)
      exact .read hqs (hsame.trans hinputs)

end Parameters

/-! ## What the server is sent -/

/-- The server has a script for a SQL text, with this number of parameters. -/
def Scripted.Server.Expects (sql : String) (count : Nat) (s : Server) : Prop :=
  ∃ script, s.script? sql = .ok script ∧ script.parameters.length = count

/-- **The server was asked to execute a prepared text.**  It wrote the inputs down if it expects as
many parameters, and no inputs otherwise. -/
structure Scripted.Server.Sent (sql : String) (count : Nat) (inputs : List Value)
    (s s' : Server) : Prop where
  executed : s'.executed = s.executed ++ [sql]
  accepted : s.Expects sql count → s'.bound = s.bound ++ [inputs]
  rejected : ¬ s.Expects sql count → s'.bound = s.bound

/-- What is not asked of a handle changes nothing before and after. -/
theorem Scripted.Server.Sent.of_unasked {sql : String} {count : Nat} {inputs : List Value}
    {s s₁ s₂ s' : Server} (hbefore : s.Unasked s₁) (h : s₁.Sent sql count inputs s₂)
    (hafter : s₂.Unasked s') : s.Sent sql count inputs s' := by
  obtain ⟨_, _, _, _, rfl⟩ := hbefore
  obtain ⟨_, _, _, _, rfl⟩ := hafter
  exact ⟨h.executed, h.accepted, h.rejected⟩

/-- A handle that was prepared sends the inputs in the bindings. -/
theorem Scripted.Handle.sent_executePrepared {h : Handle} {sql : String} {bindings : List Binding}
    {inputs : List Value} (hlive : h.isReleased = false) (hprepared : h.prepared = some sql)
    (hinputs : inputsOf bindings = .ok inputs) (s : Server) :
    s.Sent sql bindings.length inputs (leaves (executePrepared (bindings, h, s))).2.2 := by
  have hentered (entries : List (List Value)) : s.entered h entries =
      { s.record sql h.settings with bound := s.bound ++ entries } := by
    simp only [Server.entered, hlive, hprepared]
    rfl
  simp only [leaves_executePrepared, hentered]
  refine ⟨rfl, ?_, ?_⟩
  · rintro ⟨script, hscript, hcount⟩
    have haccept := accept_eq_ok_iff.mpr ⟨hlive, ⟨sql, hprepared, hscript⟩, hcount.symm, hinputs⟩
    rw [haccept]
    rfl
  · intro hexpects
    cases haccept : accept bindings h s with
    | error e => exact List.append_nil _
    | ok entered =>
      obtain ⟨-, ⟨sql', hprepared', hscript⟩, hcount, -⟩ := accept_eq_ok_iff.mp haccept
      cases hprepared.symm.trans hprepared'
      exact absurd ⟨_, hscript, hcount.symm⟩ hexpects

namespace Statement

variable {s s₀ : Statement} {w w₀ w₁ : ClientWorld} {h : Handle} {ps qs bound : Parameters}
  {args : Arguments} {sql : String} {inputs : List Value}

/-- **An execution that is refused while binding** asks nothing of the server. -/
theorem executeWith_refused (hlink : s.link = some ⟨h, some ps⟩) (hlive : h.isReleased = false)
    {e : Error} {ps' : Parameters} (hbind : Parameters.bind args ps = .error e ps')
    (w : ClientWorld) :
    ∃ s' w', executeWith (args, s, w) = .error e (args, s', w') ∧ w.server.SameLog w'.server ∧
      w.server.Unasked w'.server := by
  obtain ⟨w', hcloses, hrefresh⟩ := refresh_of_live hlink hlive w
  have hrefused := bind_eq
    (s := { s with link := some ⟨h.given s.options, some ps⟩, cursor := none }) rfl args w'
  rw [hbind] at hrefused
  have hperform : ∃ s', perform args (s, w) = .error e (s', w') := by
    rw [perform, run_bind_ok hrefresh, run_bind_error hrefused]
    exact ⟨_, rfl⟩
  obtain ⟨s', hs'⟩ := hperform
  exact ⟨s', w', executeWith_of_error hlink hs', hcloses.sameLog, hcloses.unasked⟩

/-- **Where the arguments can be bound**, the server is sent their inputs. -/
theorem sent_exchange (hlink : s.link = some ⟨h, some ps⟩) (hlive : h.isReleased = false)
    (hprepared : h.prepared = some sql) (hbind : Parameters.bind args ps = .ok () bound)
    (hinputs : Handle.inputsOf bound.bindings = .ok inputs) (w : ClientWorld) :
    w.server.Sent sql bound.bindings.length inputs (leaves (exchange args (s, w))).2.server := by
  obtain ⟨w', hcloses, hrefresh⟩ := refresh_of_live hlink hlive w
  have hbound := bind_eq
    (s := { s with link := some ⟨h.given s.options, some ps⟩, cursor := none }) rfl args w'
  rw [hbind] at hbound
  rw [exchange, run_bind_ok hrefresh, run_bind_ok hbound]
  have hsent := Handle.sent_executePrepared (h := h.given s.options) hlive hprepared hinputs
    w'.server
  refine .of_unasked hcloses.unasked ?_ (.refl _)
  simp only [executeBound]
  cases hresult : Handle.executePrepared (bound.bindings, h.given s.options, w'.server) <;>
    rw [hresult] at hsent <;> exact hsent

/-- What follows the answer of the server asks nothing more of it. -/
theorem unasked_afterExchange (hlink : s.link = some ⟨h, some ps⟩) (args : Arguments)
    (w : ClientWorld) :
    (leaves (exchange args (s, w))).2.server.Unasked
      (leaves (executeWith (args, s, w))).2.2.server := by
  have htaken : (leaves (exchange args (s, w))).2.server.Unasked
      (leaves (perform args (s, w))).2.server := by
    rw [perform_eq_bind]
    cases hexchange : exchange args (s, w) with
    | error e state =>
      rw [run_bind_error hexchange]
      exact .refl _
    | ok execution state =>
      rw [run_bind_ok hexchange]
      exact (unasked_takeResult execution state).2
  cases hperform : perform args (s, w) with
  | error e state =>
    rw [hperform] at htaken
    rw [executeWith_of_error hlink hperform]
    exact htaken
  | ok count state =>
    rw [hperform] at htaken
    rw [executeWith_of_result hlink hperform, leaves_bind_pure]
    exact htaken.trans (unasked_writeBack args state.1 state.2)

/-! ## Histories -/

/-- The statement is prepared for this SQL text and not closed, and its parameters are these but for
what they hold. -/
def PreparedFor (sql : String) (ps : Parameters) (s : Statement) : Prop :=
  ∃ h qs, s.link = some ⟨h, some qs⟩ ∧ h.isReleased = false ∧ h.prepared = some sql ∧
    Parameters.SameShape ps qs

/-- **What the server gets to see of arguments** is the same as with these parameters. -/
structure SeesCurrent (sql : String) (ps : Parameters) (s : Statement) : Prop where
  /-- The same arguments are refused, with the same errors, and the same inputs are read of those
  that are not. -/
  same : ∃ qs, s.parameters? = some qs ∧
    ∀ args outcome, qs.Delivers args outcome ↔ ps.Delivers args outcome
  /-- An execution sends these inputs to the server. -/
  sent : ∀ args inputs, ps.Delivers args (.ok inputs) → ∀ w : ClientWorld,
    w.server.Sent sql ps.size inputs (leaves (executeWith (args, s, w))).2.2.server

theorem PreparedFor.seesCurrent (h : PreparedFor sql ps s) : SeesCurrent sql ps s := by
  obtain ⟨handle, qs, hlink, hlive, hprepared, hshape⟩ := h
  refine ⟨⟨qs, by simp [parameters?, hlink], fun args outcome => ?_⟩, ?_⟩
  · exact ⟨fun hqs => hqs.of_sameShape hshape.symm, fun hps => hps.of_sameShape hshape⟩
  · intro args inputs hdelivers w
    cases hdelivers.of_sameShape hshape with
    | @read bound _ hbind hinputs =>
      have hbound := Parameters.shape_bind args qs
      rw [hbind, leaves_ok] at hbound
      have hsize : bound.bindings.length = ps.size := by
        rw [hshape.size_eq, ← hbound.size_eq, Parameters.bindings, List.length_map,
          Parameters.size]
      have hsent := sent_exchange hlink hlive hprepared hbind hinputs w
      rw [hsize] at hsent
      exact hsent.of_unasked (.refl _) (unasked_afterExchange hlink args w)

/-- **Every history leaves a statement prepared** as it was. -/
theorem History.preparedFor {options : Options} (hprepare : prepare h sql options w₀ = .ok s₀ w₁)
    (hps : s₀.parameters? = some ps) (history : History s₀ s) : PreparedFor sql ps s := by
  obtain ⟨hlive, -, ps₀, -, rfl⟩ := prepare_eq_ok hprepare
  cases hps
  obtain ⟨-, h', qs, hlink, halike, hshape⟩ := history.kept
  exact ⟨h', qs, hlink, halike.isReleased.trans hlive, halike.prepared, hshape.symm⟩

/-- **The view of the server depends on the current arguments only.** -/
structure CurrentInputs (sql : String) (ps : Parameters) (s : Statement) : Prop
    extends SeesCurrent sql ps s where
  /-- Arguments are refused, or their inputs can be read. -/
  settled : ∀ args, ∃ outcome, ps.Delivers args outcome
  /-- Where arguments are refused, the server is not asked, the arguments stay as they are, and the
  statement can be used as before. -/
  refused : ∀ args e, ps.Delivers args (.error e) → ∀ w : ClientWorld,
    ∃ s' w', executeWith (args, s, w) = .error e (args, s', w') ∧
      w'.server.executed = w.server.executed ∧ w'.server.bound = w.server.bound ∧
      w'.server.settings = w.server.settings ∧ SeesCurrent sql ps s'

/-- **A prepared statement shows the server the current arguments**, and nothing of those before,
whatever was executed and whatever failed. -/
theorem currentInputs_of_history {options : Options}
    (hprepare : prepare h sql options w₀ = .ok s₀ w₁) (history : History s₀ s) :
    ∃ ps, s₀.parameters? = some ps ∧ CurrentInputs sql ps s := by
  have hps : ∃ ps, s₀.parameters? = some ps := by
    obtain ⟨-, -, ps, -, rfl⟩ := prepare_eq_ok hprepare
    exact ⟨ps, rfl⟩
  obtain ⟨ps, hps⟩ := hps
  have hprepared := history.preparedFor hprepare hps
  refine ⟨ps, hps, hprepared.seesCurrent, fun args => ps.exists_delivers args, ?_⟩
  intro args e hdelivers w
  obtain ⟨handle, qs, hlink, hlive, -, hshape⟩ := hprepared
  cases hdelivers.of_sameShape hshape with
  | refused hbind =>
    obtain ⟨s', w', hexecute, hlog, hserver⟩ := executeWith_refused hlink hlive hbind w
    -- a failed execution is one more of the history
    have history' := history.execution args w
    rw [hexecute] at history'
    exact ⟨s', w', hexecute, hlog.executed, hserver.bound, hlog.settings,
      (history'.preparedFor hprepare hps).seesCurrent⟩

/-- An execution fails at its second argument, which is too long, when the first is bound already.
The next one sends its own arguments, and the arguments that failed are refused again. -/
theorem currentInputs_of_history_half :
    let sql := "INSERT INTO T VALUES (?, ?)"
    let w : ClientWorld := .new (Server.empty.register sql
      ⟨.update 1, [.ofLength 30 10 .input, .ofLength 31 1 .inputOutput], none⟩)
    let number : Parameter := ⟨none, .integer, 10, 10, 0, 10, ⟨.int32, .input, .new 4⟩⟩
    let word : Parameter := ⟨none, .varcharAscii, 1, 1, 0, 1, ⟨.text, .inputOutput, .new 4⟩⟩
    let ps : Parameters := ⟨[number, word], false, []⟩
    let s₀ : Statement :=
      ⟨some ⟨{ Handle.new with prepared := some sql }, some ps⟩, none, .empty⟩
    let half : Arguments := .positional [.int32 5, .text "abcdefgh"]
    let next : Arguments := .positional [.null, .text "x"]
    let s := (leaves (executeWith (half, s₀, w))).2.1
    prepare .new sql .empty w = .ok s₀ w ∧ History s₀ s ∧ s.parameters? ≠ s₀.parameters? ∧
      (∃ ps, s₀.parameters? = some ps ∧ CurrentInputs sql ps s) ∧
      (leaves (executeWith (next, s, w))).2.2.server.bound = [[.null, .text "x"]] ∧
      (leaves (executeWith (half, s, w))).2.2.server.executed = [] := by
  intro sql w number word ps s₀ half next s
  have hprepare : prepare .new sql .empty w = .ok s₀ w := by
    rw [prepare_of_live rfl]
    cbv
  have history : History s₀ s := .execution half w .none
  exact ⟨hprepare, history, by decide +kernel, currentInputs_of_history hprepare history,
    by decide +kernel, by decide +kernel⟩

end Statement
end SqlClient
