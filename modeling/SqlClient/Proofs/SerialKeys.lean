import SqlClient.Proofs.HandleRequests

/-! # Serial keys after an execution

A handle reports the serial keys of its last execution.  If this succeeded, they are the keys of
its script, whatever was executed before.  If it failed, there should be none; but keys are
forgotten when a script is run, and set when it answers.  So an execution that fails before its
script is run leaves the keys of the one before, and one whose outputs are refused, after the
script has answered, leaves the keys of its script.  `serialKeys_of_live` says exactly when a
failed execution leaves none.
-/
namespace SqlClient.Scripted.Handle

variable {h : Handle} {s : Server} {called : Except Error (Script × List Value)}

/-- **The serial keys that a handle reports**, the first and the last. -/
structure Reports (keys : Option (Int × Int)) (state : Handle × Server) : Prop where
  first : serial .first state = .ok (keys.map Prod.fst) state
  last : serial .last state = .ok (keys.map Prod.snd) state

/-- A live handle reports the keys it keeps, and no others. -/
theorem reports_iff {state : Handle × Server} (hlive : state.1.isReleased = false)
    {keys : Option (Int × Int)} : Reports keys state ↔ state.1.serials = keys := by
  obtain ⟨h, s⟩ := state
  have hfirst : serial .first (h, s) = .ok (h.serials.map Prod.fst) (h, s) := by
    rw [serial, run_bind_ok (ensureLive_of_live hlive s)]
    rfl
  have hlast : serial .last (h, s) = .ok (h.serials.map Prod.snd) (h, s) := by
    rw [serial, run_bind_ok (ensureLive_of_live hlive s)]
    rfl
  constructor
  · rintro ⟨hfirst', hlast'⟩
    rw [hfirst, EStateM.Result.ok.injEq] at hfirst'
    rw [hlast, EStateM.Result.ok.injEq] at hlast'
    obtain ⟨hfst, -⟩ := hfirst'
    obtain ⟨hsnd, -⟩ := hlast'
    show h.serials = keys
    cases hkeys : h.serials with
    | none =>
      rw [hkeys] at hfst
      exact (Option.map_eq_none_iff.mp hfst.symm).symm
    | some own =>
      obtain ⟨first, last⟩ := own
      rw [hkeys] at hfst hsnd
      obtain ⟨pair, rfl, rfl⟩ := Option.map_eq_some_iff.mp hfst.symm
      obtain ⟨pair', hpair, rfl⟩ := Option.map_eq_some_iff.mp hsnd.symm
      cases hpair
      rfl
  · rintro rfl
    exact ⟨hfirst, hlast⟩

/-- An execution whose script answers leaves the keys of this script. -/
theorem keysAfter_of_answer {script : Script} {inputs : List Value}
    {answer : Execution × List Value} (hanswer : script.answer h.settings inputs = .ok answer) :
    h.keysAfter (.ok (script, inputs)) = script.serials := by
  rw [keysAfter, hanswer]

/-- No keys are left where there were none and no script was run, or where the script that was run
did not answer or has none. -/
theorem keysAfter_eq_none_iff : h.keysAfter called = none ↔
    (∀ e, called = .error e → h.serials = none) ∧
      ∀ script inputs answer, called = .ok (script, inputs) →
        script.answer h.settings inputs = .ok answer → script.serials = none := by
  cases called with
  | error e => simp [keysAfter]
  | ok entered =>
    obtain ⟨script, inputs⟩ := entered
    simp only [keysAfter]
    cases hanswer : script.answer h.settings inputs with
    | error e =>
      refine iff_of_true rfl ⟨by rintro _ ⟨⟩, ?_⟩
      rintro _ _ _ ⟨⟩ hok
      cases hanswer.symm.trans hok
    | ok answer =>
      constructor
      · rintro hnone
        refine ⟨by rintro _ ⟨⟩, ?_⟩
        rintro _ _ _ ⟨⟩ _
        exact hnone
      · rintro ⟨-, hnone⟩
        exact hnone _ _ _ rfl hanswer

/-- **The serial keys after an execution** on a handle, whatever was executed on it before. -/
structure SerialKeys (h : Handle) (s : Server) : Prop where
  /-- A SQL text that was executed leaves the keys of its script. -/
  executed : ∀ sql execution state, execute sql (h, s) = .ok execution state →
    ∃ script, s.script? sql = .ok script ∧ Reports script.serials state
  /-- One that failed leaves none, unless it has no script and there were keys before. -/
  failed : ∀ sql e state, execute sql (h, s) = .error e state →
    (Reports none state ↔ (∃ script, s.script? sql = .ok script) ∨ h.serials = none)
  /-- A prepared execution leaves the keys of the script that accepted it. -/
  preparedExecuted : ∀ bindings execution bindings' state,
    executePrepared (bindings, h, s) = .ok execution (bindings', state) →
      ∃ script inputs, accept bindings h s = .ok (script, inputs) ∧ Reports script.serials state
  /-- One that failed leaves none, unless it was not accepted and there were keys before, or its
  script answered, so that an output was refused, and has keys. -/
  preparedFailed : ∀ bindings e bindings' state,
    executePrepared (bindings, h, s) = .error e (bindings', state) →
      (Reports none state ↔
        (∀ e, accept bindings h s = .error e → h.serials = none) ∧
          ∀ script inputs answer, accept bindings h s = .ok (script, inputs) →
            script.answer h.settings inputs = .ok answer → script.serials = none)

/-- What a live handle reports after a SQL text was executed. -/
theorem reports_execute (hlive : h.isReleased = false) (sql : String) (s : Server)
    (keys : Option (Int × Int)) :
    Reports keys (leaves (execute sql (h, s))) ↔ h.keysAfter (s.called sql) = keys := by
  rw [leaves_execute hlive]
  exact reports_iff hlive

/-- What it reports after a prepared execution. -/
theorem reports_executePrepared (hlive : h.isReleased = false) (bindings : List Binding)
    (s : Server) (keys : Option (Int × Int)) :
    Reports keys (leaves (executePrepared (bindings, h, s))).2 ↔
      h.keysAfter (accept bindings h s) = keys := by
  rw [leaves_executePrepared]
  exact reports_iff hlive

/-- **When serial keys survive.**  On a live handle an execution that succeeds leaves no keys but
its own, and one that fails leaves none exactly where there were none to survive. -/
theorem serialKeys_of_live (s : Server) (hlive : h.isReleased = false) : SerialKeys h s where
  executed := by
    intro sql execution state hexecute
    obtain ⟨-, script, outputs, hscript, hanswer⟩ := execute_eq_ok hexecute
    have hreports := reports_execute hlive sql s script.serials
    rw [hexecute, Server.called, hscript] at hreports
    exact ⟨script, hscript, hreports.mpr (keysAfter_of_answer hanswer)⟩
  failed := by
    intro sql e state hexecute
    have hreports := reports_execute hlive sql s none
    rw [hexecute, keysAfter_eq_none_iff, Server.called] at hreports
    cases hscript : s.script? sql with
    | error e' =>
      rw [hscript] at hreports
      refine hreports.trans ⟨fun hnone => .inr (hnone.1 e' rfl), ?_⟩
      rintro (⟨_, ⟨⟩⟩ | hnone)
      exact ⟨fun _ _ => hnone, by rintro _ _ _ ⟨⟩⟩
    | ok script =>
      -- the script was run, and did not answer
      rw [hscript] at hreports
      refine hreports.trans (iff_of_true ⟨by rintro _ ⟨⟩, ?_⟩ (.inl ⟨script, rfl⟩))
      rintro _ _ answer ⟨⟩ hanswer
      rw [execute_eq hlive, Server.called, hscript] at hexecute
      simp only [Except.map, replyTo, hanswer] at hexecute
      cases hexecute
  preparedExecuted := by
    intro bindings execution bindings' state hexecute
    obtain ⟨outputs, hreply, -⟩ := serve_eq_ok_iff.mp (executePrepared_eq_ok hexecute)
    obtain ⟨script, inputs, haccept, hanswer⟩ := reply_eq_ok_iff.mp hreply
    have hreports := reports_executePrepared hlive bindings s script.serials
    rw [hexecute, haccept] at hreports
    exact ⟨script, inputs, haccept, hreports.mpr (keysAfter_of_answer hanswer)⟩
  preparedFailed := by
    intro bindings e bindings' state hexecute
    have hreports := reports_executePrepared hlive bindings s none
    rw [hexecute] at hreports
    exact hreports.trans keysAfter_eq_none_iff

/-- A handle that has executed an insert, with keys of its own, and was prepared for a call whose
output is refused. -/
theorem serialKeys_of_live_inserted :
    let described := ParameterDescription.ofDigits 5 0 .output
    let s := (Server.empty.register "INSERT" ⟨.update 2, [], some (41, 43)⟩).register "C"
      ⟨.call fun _ => .ok [.text "abc"], [described], some (50, 51)⟩
    let h : Handle := { new with prepared := some "C", serials := some (41, 43) }
    let refused := executePrepared ([⟨.int32, .output, .new 4⟩], h, s)
    h.isReleased = false ∧ SerialKeys h s ∧
      (∃ e bindings state, refused = .error e (bindings, state) ∧
        Reports (some (50, 51)) state) ∧
      ∃ e state, execute "SELECT" (h, s) = .error e state ∧ Reports (some (41, 43)) state := by
  intro described s h refused
  exact ⟨rfl, serialKeys_of_live s rfl, ⟨_, _, _, rfl, rfl, rfl⟩, ⟨_, _, rfl, rfl, rfl⟩⟩

/-- **Keys survive an execution that did not produce them**: an insert generates keys, and a text
without a script is refused after it. -/
theorem serials_survive_unknown :
    let s := Server.empty.register "INSERT" ⟨.update 1, [], some (41, 43)⟩
    ∃ state e state', execute "INSERT" (new, s) = .ok (.update 1) state ∧
      execute "SELECT" state = .error e state' ∧ serial .first state' = .ok (some 41) state' ∧
        serial .last state' = .ok (some 43) state' :=
  ⟨_, _, _, rfl, rfl, rfl, rfl⟩

end SqlClient.Scripted.Handle
