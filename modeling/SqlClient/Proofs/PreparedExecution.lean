import SqlClient.Proofs.ParameterBinding
import SqlClient.Scripted.Handle

/-! # Prepared executions

What the server answers to a prepared execution is a function of little: the state of the handle,
the script of its SQL text, and the inputs in the bindings.  `Handle.reply` is this answer without
the books that the server keeps, `Server.Noted` says what is added to the books, and
`executePrepared_eq` puts an execution together from the two.

The outputs are then received binding by binding.  A binding that refuses its output stops this
half way (`fillOutputs_error`): the bindings before it have received theirs, the others are as
they were.  So a failed execution leaves the bindings alone exactly when the bindings before the
first refusal already held what they received (`executePrepared_error_keeps_iff`).
-/
namespace SqlClient

namespace Binding

/-- What no execution changes of a binding. -/
def shape (b : Binding) : Binding := { b with buffer := b.buffer.clear }

/-- The binding after an output value was received, which it ignores if it takes no output. -/
def receive (b : Binding) (v : Value) : Except Error Binding :=
  if b.mode.isOutput then (b.buffer.encode b.host v).map fun buffer => { b with buffer }
  else .ok b

/-- The input in a binding; one that takes no input counts as NULL. -/
def input (b : Binding) : Except Error Value :=
  if b.mode.isInput then b.buffer.decode b.host else .ok .null

variable {b b' c : Binding} {v : Value}

theorem input_of_isInput (h : b.mode.isInput = true) : b.input = b.buffer.decode b.host := by
  simp [input, h]

theorem input_of_not_isInput (h : b.mode.isInput = false) : b.input = .ok .null := by
  simp [input, h]

theorem mode_of_shape_eq (h : b.shape = c.shape) : b.mode = c.mode := congrArg (·.mode) h

theorem host_of_shape_eq (h : b.shape = c.shape) : b.host = c.host := congrArg (·.host) h

theorem receive_of_not_isOutput (h : b.mode.isOutput = false) : b.receive v = .ok b := by
  simp [receive, h]

/-- A binding that takes output gets a new buffer. -/
theorem receive_eq_ok (h : b.receive v = .ok b') (hout : b.mode.isOutput = true) :
    ∃ buffer, b.buffer.encode b.host v = .ok buffer ∧ b' = { b with buffer } := by
  rw [receive, if_pos hout] at h
  obtain ⟨buffer, hbuffer, rfl⟩ := map_eq_ok h
  exact ⟨buffer, hbuffer, rfl⟩

theorem shape_of_receive (h : b.receive v = .ok b') : b'.shape = b.shape := by
  by_cases hout : b.mode.isOutput = true
  · obtain ⟨buffer, henc, rfl⟩ := receive_eq_ok h hout
    simp [shape, Buffer.clear, Buffer.capacity_of_encode henc]
  · rw [receive_of_not_isOutput (Bool.eq_false_iff.mpr hout)] at h
    rw [Except.ok.inj h]

/-- An output that was received is read back in its canonical form. -/
theorem decode_of_receive (h : b.receive v = .ok b') (hout : b.mode.isOutput = true) :
    ∃ c, v.canonical? b.host = .ok c ∧ b'.buffer.decode b'.host = .ok c := by
  obtain ⟨buffer, henc, rfl⟩ := receive_eq_ok h hout
  exact Buffer.decode_of_encode henc

/-- What a binding held before has no influence on what it receives. -/
theorem receive_eq_of_shape_eq (h : b.shape = c.shape) (hout : b.mode.isOutput = true) :
    b.receive v = c.receive v := by
  have hmode := mode_of_shape_eq h
  have hhost := host_of_shape_eq h
  have hcapacity : b.buffer.capacity = c.buffer.capacity := congrArg (·.buffer.capacity) h
  rw [receive, receive, if_pos hout, if_pos (hmode ▸ hout), ← hhost,
    ← Buffer.encode_eq_of_capacity_eq hcapacity, hmode, hhost]

end Binding

namespace Scripted

variable {settings : Settings} {inputs : List Value}

/-- What the server answers by a script: what the execution comes to, and the output values. -/
def Script.answer (script : Script) (settings : Settings) (inputs : List Value) :
    Except Error (Execution × List Value) :=
  match script.action with
  | .fail code text => .error (.server code text)
  | .update rows => .ok (.update rows, [])
  | .query result => .ok (.query (Handle.resultSet settings result), [])
  | .call procedure => (procedure inputs).map fun outputs => (.update 0, outputs)

/-- The outputs of an answer are those of the procedure that was called. -/
theorem Script.outputs_of_answer {script : Script} {execution : Execution} {outputs : List Value}
    {procedure : List Value → Except Error (List Value)} (hcall : script.action = .call procedure)
    (hanswer : script.answer settings inputs = .ok (execution, outputs)) :
    procedure inputs = .ok outputs := by
  simp only [answer, hcall] at hanswer
  obtain ⟨outputs', houtputs, heq⟩ := map_eq_ok hanswer
  cases heq
  exact houtputs

/-- A result set that is answered shows rows of the result in the script, and there are no outputs
besides. -/
theorem Script.query_of_answer {script : Script} {outputs : List Value} {rows : ResultSet}
    (hanswer : script.answer settings inputs = .ok (.query rows, outputs)) :
    ∃ result, script.action = .query result ∧ rows = Handle.resultSet settings result ∧
      outputs = [] := by
  unfold answer at hanswer
  split at hanswer
  · cases hanswer
  · cases hanswer
  · rename_i result haction
    cases hanswer
    exact ⟨result, haction, rfl, rfl⟩
  · obtain ⟨_, -, heq⟩ := map_eq_ok hanswer
    cases heq

/-- **The books of the server** after `entries` were written down as inputs.  Its scripts stay. -/
structure Server.Noted (s : Server) (entries : List (List Value)) (s' : Server) : Prop where
  scripts : s'.scripts = s.scripts
  bound : s'.bound = s.bound ++ entries

namespace Server.Noted

variable {s s' s'' : Server} {entries entries' : List (List Value)}

/-- Nothing was written down. -/
theorem none (hscripts : s'.scripts = s.scripts) (hbound : s'.bound = s.bound) : s.Noted [] s' :=
  ⟨hscripts, hbound.trans (List.append_nil _).symm⟩

theorem trans (hfirst : s.Noted entries s') (hnext : s'.Noted entries' s'') :
    s.Noted (entries ++ entries') s'' where
  scripts := hnext.scripts.trans hfirst.scripts
  bound := by rw [hnext.bound, hfirst.bound, List.append_assoc]

end Server.Noted

/-- **The server after a prepared execution was entered** on a handle: the text was written down, and
`entries` as its inputs.  A handle that is released or not prepared is refused before. -/
def Server.entered (s : Server) (h : Handle) (entries : List (List Value)) : Server :=
  if h.isReleased then s
  else
    match h.prepared with
    | none => s
    | some sql => { s.record sql h.settings with bound := s.bound ++ entries }

@[simp] theorem Server.openedResultSets_entered (s : Server) (h : Handle)
    (entries : List (List Value)) : (s.entered h entries).openedResultSets = s.openedResultSets := by
  simp only [entered]
  split
  · rfl
  · split <;> rfl

/-- The script of a SQL text that is executed directly, without inputs. -/
def Server.called (s : Server) (sql : String) : Except Error (Script × List Value) :=
  (s.script? sql).map fun script => (script, [])

namespace Handle

variable {bindings bindings' others : List Binding} {outputs : List Value}

/-! ## Inputs are read in order -/

/-- **Every binding gives its own input.** -/
theorem getElem?_of_inputsOf (h : inputsOf bindings = .ok inputs) {i : Nat} {b : Binding}
    (hb : bindings[i]? = some b) : ∃ v, inputs[i]? = some v ∧ b.input = .ok v :=
  getElem?_of_mapM_eq_ok h hb

theorem length_of_inputsOf (h : inputsOf bindings = .ok inputs) :
    inputs.length = bindings.length :=
  (mapM_eq_ok_iff.mp h).length_eq.symm

/-! ## Outputs are received in order -/

@[simp] theorem fillOutputs_nil (bindings : List Binding) :
    fillOutputs bindings [] = .ok () bindings := by
  cases bindings <;> rfl

theorem fillOutputs_cons (b : Binding) (rest : List Binding) (v : Value) (values : List Value) :
    fillOutputs (b :: rest) (v :: values) =
      match b.receive v with
      | .error e => .error e (b :: rest)
      | .ok b' =>
        match fillOutputs rest values with
        | .ok () rest => .ok () (b' :: rest)
        | .error e rest => .error e (b' :: rest) := by
  unfold Binding.receive
  by_cases hout : b.mode.isOutput = true
  · cases hbuffer : b.buffer.encode b.host v <;> cases hrest : fillOutputs rest values <;>
      simp only [fillOutputs, if_pos hout, hbuffer, hrest, Except.map]
  · cases hrest : fillOutputs rest values <;> simp only [fillOutputs, if_neg hout, hrest]

/-- Outputs are received by the first binding and by the others. -/
theorem fillOutputs_cons_eq_ok {b : Binding} {rest : List Binding} {v : Value} {values : List Value}
    (h : fillOutputs (b :: rest) (v :: values) = .ok () bindings') :
    ∃ b' rest', b.receive v = .ok b' ∧ fillOutputs rest values = .ok () rest' ∧
      bindings' = b' :: rest' := by
  rw [fillOutputs_cons] at h
  split at h
  · cases h
  · rename_i b' hreceive
    split at h
    · rename_i rest' hrest
      cases h
      exact ⟨b', rest', hreceive, hrest, rfl⟩
    · cases h

/-- An output is refused by the first binding, or by a later one. -/
theorem fillOutputs_cons_eq_error {b : Binding} {rest : List Binding} {v : Value}
    {values : List Value} {e : Error}
    (h : fillOutputs (b :: rest) (v :: values) = .error e bindings') :
    (b.receive v = .error e ∧ bindings' = b :: rest) ∨
      ∃ b' rest', b.receive v = .ok b' ∧ fillOutputs rest values = .error e rest' ∧
        bindings' = b' :: rest' := by
  rw [fillOutputs_cons] at h
  split at h
  · rename_i hreceive
    cases h
    exact Or.inl ⟨hreceive, rfl⟩
  · rename_i b' hreceive
    split at h
    · cases h
    · rename_i rest' hrest
      cases h
      exact Or.inr ⟨b', rest', hreceive, hrest, rfl⟩

/-- **Every binding receives its own output**, and those without one are as they were. -/
theorem getElem?_of_fillOutputs (h : fillOutputs bindings outputs = .ok () bindings') {i : Nat}
    {b : Binding} (hb : bindings[i]? = some b) :
    ∃ b', bindings'[i]? = some b' ∧ (∀ v, outputs[i]? = some v → b.receive v = .ok b') ∧
      (outputs[i]? = none → b' = b) := by
  induction bindings generalizing outputs bindings' i with
  | nil => cases hb
  | cons c rest ih =>
    cases outputs with
    | nil =>
      rw [fillOutputs_nil] at h
      cases h
      exact ⟨b, hb, (fun _ h => nomatch h), fun _ => rfl⟩
    | cons v values =>
      obtain ⟨c', rest', hreceive, hrest, rfl⟩ := fillOutputs_cons_eq_ok h
      cases i with
      | zero =>
        cases hb
        refine ⟨c', rfl, ?_, fun h => nomatch h⟩
        rintro _ ⟨⟩
        exact hreceive
      | succ i => exact ih hrest hb

/-- **The `k`-th binding is the first to refuse its output.** -/
structure FirstRefused (bindings : List Binding) (outputs : List Value) (k : Nat) : Prop where
  refused : ∃ b v e, bindings[k]? = some b ∧ outputs[k]? = some v ∧ b.receive v = .error e
  first : ∀ i < k, ∀ b v, bindings[i]? = some b → outputs[i]? = some v → ∃ b', b.receive v = .ok b'

/-- **A refusal stops half way.**  The bindings before it have received their outputs, those from
it on are as they were. -/
theorem fillOutputs_error {e : Error} (h : fillOutputs bindings outputs = .error e bindings') :
    ∃ k, FirstRefused bindings outputs k ∧
      (∀ i < k, ∀ b v, bindings[i]? = some b → outputs[i]? = some v →
        ∃ b', bindings'[i]? = some b' ∧ b.receive v = .ok b') ∧
      ∀ i, k ≤ i → bindings'[i]? = bindings[i]? := by
  induction bindings generalizing outputs bindings' with
  | nil => cases h
  | cons c rest ih =>
    cases outputs with
    | nil => cases h
    | cons v values =>
      rcases fillOutputs_cons_eq_error h with ⟨hreceive, rfl⟩ | ⟨c', rest', hreceive, hrest, rfl⟩
      · exact ⟨0, ⟨⟨c, v, _, rfl, rfl, hreceive⟩, nofun⟩, nofun, fun _ _ => rfl⟩
      · -- the first refusal among the others is one place further on
        obtain ⟨k, ⟨hrefused, hfirst⟩, hbefore, hafter⟩ := ih hrest
        refine ⟨k + 1, ⟨hrefused, ?_⟩, ?_, ?_⟩
        · rintro (_ | i) hi b w hb hw
          · cases hb
            cases hw
            exact ⟨c', hreceive⟩
          · exact hfirst i (Nat.lt_of_succ_lt_succ hi) b w hb hw
        · rintro (_ | i) hi b w hb hw
          · cases hb
            cases hw
            exact ⟨c', rfl, hreceive⟩
          · exact hbefore i (Nat.lt_of_succ_lt_succ hi) b w hb hw
        · rintro (_ | i) hi
          · cases hi
          · exact hafter i (Nat.le_of_succ_le_succ hi)

/-- Outputs that are accepted one by one are accepted together. -/
theorem exists_fillOutputs_eq_ok (h : ∀ (i : Nat) (b : Binding) (v : Value),
      bindings[i]? = some b → outputs[i]? = some v → ∃ b', b.receive v = .ok b') :
    ∃ bindings', fillOutputs bindings outputs = .ok () bindings' := by
  cases hfill : fillOutputs bindings outputs with
  | ok _ bindings' => exact ⟨bindings', rfl⟩
  | error e bindings' =>
    obtain ⟨k, ⟨⟨b, v, e', hb, hv, hrefused⟩, -⟩, -⟩ := fillOutputs_error hfill
    obtain ⟨b', hreceived⟩ := h k b v hb hv
    cases hreceived.symm.trans hrefused

/-- **Outputs keep the shape**, also when one is refused. -/
theorem shape_fillOutputs (bindings : List Binding) (outputs : List Value) :
    (leaves (fillOutputs bindings outputs)).map Binding.shape = bindings.map Binding.shape := by
  induction bindings generalizing outputs with
  | nil => rfl
  | cons c rest ih =>
    cases outputs with
    | nil => rfl
    | cons v values =>
      have hrest := ih values
      rw [fillOutputs_cons]
      cases hreceive : c.receive v with
      | error e => rfl
      | ok c' =>
        have hc := Binding.shape_of_receive hreceive
        cases hfill : fillOutputs rest values <;> rw [hfill] at hrest <;>
          simpa [hc] using hrest

/-- There is one first refusal, and it makes the whole fail. -/
theorem FirstRefused.fails {k : Nat} (h : FirstRefused bindings outputs k) :
    ∃ e bindings', fillOutputs bindings outputs = .error e bindings' := by
  cases hfill : fillOutputs bindings outputs with
  | error e bindings' => exact ⟨e, bindings', rfl⟩
  | ok _ bindings' =>
    obtain ⟨b, v, e, hb, hv, hrefused⟩ := h.refused
    obtain ⟨b', -, hreceived, -⟩ := getElem?_of_fillOutputs hfill hb
    rw [hreceived v hv] at hrefused
    cases hrefused

theorem FirstRefused.unique {j k : Nat} (hj : FirstRefused bindings outputs j)
    (hk : FirstRefused bindings outputs k) : j = k := by
  have hle : ∀ {j k : Nat}, FirstRefused bindings outputs j → FirstRefused bindings outputs k →
      j ≤ k := by
    intro j k hj hk
    apply Nat.le_of_not_lt
    intro hlt
    obtain ⟨b, v, e, hb, hv, hrefused⟩ := hk.refused
    obtain ⟨b', hreceived⟩ := hj.first k hlt b v hb hv
    rw [hreceived] at hrefused
    cases hrefused
  exact Nat.le_antisymm (hle hj hk) (hle hk hj)

/-- **A refusal leaves the bindings alone** exactly when the ones before it already hold what they
receive. -/
theorem fillOutputs_error_keeps_iff {e : Error}
    (hfill : fillOutputs bindings outputs = .error e bindings') :
    bindings' = bindings ↔ ∀ k, FirstRefused bindings outputs k → ∀ i < k, ∀ b v,
      bindings[i]? = some b → outputs[i]? = some v → b.receive v = .ok b := by
  obtain ⟨k, hk, hbefore, hafter⟩ := fillOutputs_error hfill
  constructor
  · rintro rfl k' hk' i hi b v hb hv
    obtain rfl := hk.unique hk'
    obtain ⟨b', hb', hreceived⟩ := hbefore i hi b v hb hv
    cases hb.symm.trans hb'
    exact hreceived
  · intro hheld
    apply List.ext_getElem?
    intro i
    rcases Nat.lt_or_ge i k with hi | hi
    · -- in front of the refusal there is a binding, and an output for it
      obtain ⟨b, v, -, hb, hv, -⟩ := hk.refused
      obtain ⟨hlen, -⟩ := List.getElem?_eq_some_iff.mp hb
      obtain ⟨hlen', -⟩ := List.getElem?_eq_some_iff.mp hv
      have hbi : bindings[i]? = some bindings[i] := List.getElem?_eq_getElem (by omega)
      have hvi : outputs[i]? = some outputs[i] := List.getElem?_eq_getElem (by omega)
      obtain ⟨b', hb', hreceived⟩ := hbefore i hi _ _ hbi hvi
      have hsame := hheld k hk i hi _ _ hbi hvi
      cases hreceived.symm.trans hsame
      exact hb'.trans hbi.symm
    · exact hafter i hi

/-! ## The answer of the server -/

/-- The script and the inputs of a prepared execution.  The handle, its SQL text, the number of
bindings and their inputs are checked in this order. -/
def accept (bindings : List Binding) (h : Handle) (s : Server) :
    Except Error (Script × List Value) :=
  if h.isReleased then .error (.refused .released)
  else
    match h.prepared with
    | none => .error (.refused .notPrepared)
    | some sql =>
      match s.script? sql with
      | .error e => .error e
      | .ok script =>
        if bindings.length ≠ script.parameters.length then
          .error (.refused (.parameterCount bindings.length script.parameters.length))
        else (inputsOf bindings).map fun inputs => (script, inputs)

/-- What is written down as inputs: those of an execution that is accepted. -/
def entriesOf : Except Error (Script × List Value) → List (List Value)
  | .ok (_, inputs) => [inputs]
  | .error _ => []

/-- The serial keys after an execution that was accepted with this script and these inputs, or was
not accepted. -/
def keysAfter (h : Handle) : Except Error (Script × List Value) → Option (Int × Int)
  | .error _ => h.serials
  | .ok (script, inputs) =>
    match script.answer h.settings inputs with
    | .ok _ => script.serials
    | .error _ => none

/-- The number of result sets that an answer gives out. -/
def resultSetsGiven : Except Error (Execution × List Value) → Nat
  | .ok (.query _, _) => 1
  | _ => 0

/-- The answer of the server to an execution that was accepted with this script and these inputs, or
was not accepted. -/
def replyTo (h : Handle) : Except Error (Script × List Value) → Except Error (Execution × List Value)
  | .error e => .error e
  | .ok (script, inputs) => script.answer h.settings inputs

/-- **What the server answers to a prepared execution**, without its books. -/
def reply (bindings : List Binding) (h : Handle) (s : Server) :
    Except Error (Execution × List Value) :=
  match accept bindings h s with
  | .error e => .error e
  | .ok (script, inputs) => script.answer h.settings inputs

/-- **The answer of the server, received by the bindings.** -/
def serve (h : Handle) (s : Server) : EStateM Error (List Binding) Execution := fun bindings =>
  match reply bindings h s with
  | .error e => .error e bindings
  | .ok (execution, outputs) =>
    match fillOutputs bindings outputs with
    | .ok () bindings => .ok execution bindings
    | .error e bindings => .error e bindings

variable {h : Handle} {s s' : Server}

/-- **Running a script gives its answer.**  Of the handle only the serial keys change: those of the
script are left if it answers, and none if it fails. -/
theorem run_eq (script : Script) (inputs : List Value) (h : Handle) (s : Server) :
    let answer := script.answer h.settings inputs
    let s' := { s with openedResultSets := s.openedResultSets + resultSetsGiven answer }
    run script inputs (h, s) =
      match answer with
      | .ok answer => .ok answer ({ h with serials := script.serials }, s')
      | .error e => .error e ({ h with serials := none }, s') := by
  unfold run Script.answer
  cases script.action with
  | fail code text | update rows | query result => rfl
  | call procedure =>
    simp only
    cases procedure inputs <;> rfl

theorem ensureLive_of_released (hreleased : h.isReleased = true) (s : Server) :
    ensureLive (h, s) = .error (.refused .released) (h, s) := by
  simp [ensureLive, hreleased]

theorem ensureLive_of_live (hlive : h.isReleased = false) (s : Server) :
    ensureLive (h, s) = .ok () (h, s) := by
  simp [ensureLive, hlive]

/-- The execution is written down before its script is looked up. -/
theorem enter_eq (sql : String) (h : Handle) (s : Server) :
    enter sql (h, s) =
      match s.script? sql with
      | .ok script => .ok script (h, s.record sql h.settings)
      | .error e => .error e (h, s.record sql h.settings) := by
  have hsame : (s.record sql h.settings).script? sql = s.script? sql := rfl
  rw [enter, run_bind_modify, run_bind_get, hsame]
  cases s.script? sql <;> rfl

/-- An execution is accepted when every check succeeds. -/
theorem accept_eq_ok_iff {script : Script} : accept bindings h s = .ok (script, inputs) ↔
    h.isReleased = false ∧ (∃ sql, h.prepared = some sql ∧ s.script? sql = .ok script) ∧
      bindings.length = script.parameters.length ∧ inputsOf bindings = .ok inputs := by
  constructor
  · intro haccept
    -- every check that fails ends in an error, so all of them succeed
    unfold accept at haccept
    split at haccept
    · cases haccept
    rename_i hlive
    split at haccept
    · cases haccept
    rename_i sql hprepared
    split at haccept
    · cases haccept
    rename_i script' hscript
    split at haccept
    · cases haccept
    rename_i hcount
    obtain ⟨inputs', hinputs, heq⟩ := map_eq_ok haccept
    cases heq
    exact ⟨Bool.eq_false_iff.mpr hlive, ⟨sql, hprepared, hscript⟩, not_not.mp hcount, hinputs⟩
  · rintro ⟨hreleased, ⟨sql, hprepared, hscript⟩, hcount, hinputs⟩
    simp [accept, hreleased, hprepared, hscript, hcount, hinputs, Except.map]

/-- **An answer is that of the script to the inputs**, once the execution is accepted. -/
theorem replyTo_eq_ok_iff {called : Except Error (Script × List Value)}
    {answer : Execution × List Value} :
    h.replyTo called = .ok answer ↔ ∃ script inputs, called = .ok (script, inputs) ∧
      script.answer h.settings inputs = .ok answer := by
  cases called with
  | error e => exact iff_of_false nofun (fun ⟨_, _, hok, _⟩ => nomatch hok)
  | ok entered =>
    obtain ⟨script, inputs⟩ := entered
    constructor
    · exact fun hanswer => ⟨script, inputs, rfl, hanswer⟩
    · rintro ⟨_, _, ⟨⟩, hanswer⟩
      exact hanswer

theorem reply_eq_ok_iff {answer : Execution × List Value} :
    reply bindings h s = .ok answer ↔ ∃ script inputs,
      accept bindings h s = .ok (script, inputs) ∧
        script.answer h.settings inputs = .ok answer :=
  replyTo_eq_ok_iff

/-- **A direct execution** gives the answer of the script to no inputs.  It changes nothing else but
the books and the serial keys. -/
theorem execute_eq (hlive : h.isReleased = false) (sql : String) (s : Server) :
    let state : Handle × Server :=
      ({ h with serials := h.keysAfter (s.called sql) },
        { s.record sql h.settings with
          openedResultSets := s.openedResultSets + resultSetsGiven (h.replyTo (s.called sql)) })
    execute sql (h, s) =
      match h.replyTo (s.called sql) with
      | .ok (execution, _) => .ok execution state
      | .error e => .error e state := by
  have henter := enter_eq sql h s
  rw [execute, run_bind_ok (ensureLive_of_live hlive s), Server.called]
  cases hscript : s.script? sql with
  | error e =>
    rw [hscript] at henter
    rw [run_bind_error henter]
    rfl
  | ok script =>
    rw [hscript] at henter
    have hrun := run_eq script [] h (s.record sql h.settings)
    rw [run_bind_ok henter]
    simp only [Except.map, replyTo, keysAfter]
    cases hanswer : script.answer h.settings [] with
    | error e =>
      rw [hanswer] at hrun
      rw [run_bind_error hrun]
      rfl
    | ok answer =>
      rw [hanswer] at hrun
      rw [run_bind_ok hrun]
      rfl

/-- **What is checked of a prepared execution**, and what is written down on the way. -/
theorem enterPrepared_eq (bindings : List Binding) (h : Handle) (s : Server) :
    enterPrepared bindings (h, s) =
      match accept bindings h s with
      | .ok (script, inputs) => .ok (script, inputs) (h, s.entered h [inputs])
      | .error e => .error e (h, s.entered h []) := by
  -- one case for each check, in their order; the books are kept from the third on
  cases hreleased : h.isReleased with
  | true =>
    rw [enterPrepared, run_bind_error (ensureLive_of_released hreleased s)]
    simp [accept, Server.entered, hreleased]
  | false =>
    rw [enterPrepared, run_bind_ok (ensureLive_of_live hreleased s), run_bind_get]
    cases hprepared : h.prepared with
    | none => simp [accept, Server.entered, hreleased, hprepared]
    | some sql =>
      have hentered : s.entered h [] = s.record sql h.settings := by
        simp [Server.entered, hreleased, hprepared, Server.record]
      have henter := enter_eq sql h s
      rw [hentered]
      cases hscript : s.script? sql with
      | error e =>
        rw [hscript] at henter
        simp only [run_bind_error henter]
        simp [accept, hreleased, hprepared, hscript]
      | ok script =>
        rw [hscript] at henter
        simp only [run_bind_ok henter]
        by_cases hcount : bindings.length = script.parameters.length
        · rw [if_neg (not_not.mpr hcount)]
          cases hinputs : inputsOf bindings with
          | error e => simp [accept, hreleased, hprepared, hscript, hcount, hinputs, Except.map]
          | ok inputs =>
            have haccept : accept bindings h s = .ok (script, inputs) := by
              simp [accept, hreleased, hprepared, hscript, hcount, hinputs, Except.map]
            have hnoted : s.entered h [inputs] =
                { s.record sql h.settings with bound := s.bound ++ [inputs] } := by
              simp [Server.entered, hreleased, hprepared]
            simp only [haccept, hnoted]
            rfl
        · have haccept : accept bindings h s = .error
              (.refused (.parameterCount bindings.length script.parameters.length)) := by
            simp [accept, hreleased, hprepared, hscript, hcount]
          rw [if_pos hcount, haccept]
          rfl

/-- The inputs that are written down are those of an execution that is accepted. -/
theorem noted_entered (bindings : List Binding) (h : Handle) (s : Server) :
    s.Noted (entriesOf (accept bindings h s)) (s.entered h (entriesOf (accept bindings h s))) := by
  cases haccept : accept bindings h s with
  | error e =>
    simp only [entriesOf, Server.entered]
    split
    · exact .none rfl rfl
    · split <;> exact ⟨rfl, by simp⟩
  | ok entered =>
    obtain ⟨script, inputs⟩ := entered
    obtain ⟨hlive, ⟨sql, hprepared, -⟩, -⟩ := accept_eq_ok_iff.mp haccept
    simp only [entriesOf, Server.entered, hlive, hprepared]
    exact ⟨rfl, rfl⟩

/-- Serving succeeds with an answer whose outputs are received. -/
theorem serve_eq_ok_iff {execution : Execution} :
    serve h s bindings = .ok execution bindings' ↔
      ∃ outputs, reply bindings h s = .ok (execution, outputs) ∧
        fillOutputs bindings outputs = .ok () bindings' := by
  unfold serve
  cases hreply : reply bindings h s with
  | error e => exact iff_of_false nofun (fun ⟨_, hok, _⟩ => nomatch hok)
  | ok answer =>
    obtain ⟨execution', outputs⟩ := answer
    simp only
    cases hfill : fillOutputs bindings outputs with
    | error e bs =>
      refine iff_of_false nofun ?_
      rintro ⟨_, ⟨⟩, hok⟩
      cases hfill.symm.trans hok
    | ok _ bs =>
      constructor
      · rintro ⟨⟩
        exact ⟨outputs, rfl, hfill⟩
      · rintro ⟨_, ⟨⟩, hok⟩
        cases hfill.symm.trans hok
        rfl

theorem shape_serve (h : Handle) (s : Server) (bindings : List Binding) :
    (leaves (serve h s bindings)).map Binding.shape = bindings.map Binding.shape := by
  unfold serve
  cases reply bindings h s with
  | error e => rfl
  | ok answer =>
    have hfill := shape_fillOutputs bindings answer.2
    simp only
    cases hreceived : fillOutputs bindings answer.2 <;> rw [hreceived] at hfill <;> exact hfill

/-- **A prepared execution** serves the bindings, and changes nothing else but the books and the
serial keys. -/
theorem executePrepared_eq (bindings : List Binding) (h : Handle) (s : Server) :
    let accepted := accept bindings h s
    let state : Handle × Server :=
      ({ h with serials := h.keysAfter accepted },
        { s.entered h (entriesOf accepted) with
          openedResultSets := s.openedResultSets + resultSetsGiven (reply bindings h s) })
    executePrepared (bindings, h, s) =
      match serve h s bindings with
      | .ok execution bindings => .ok execution (bindings, state)
      | .error e bindings => .error e (bindings, state) := by
  have henter := enterPrepared_eq bindings h s
  unfold executePrepared serve reply
  cases haccept : accept bindings h s with
  | error e =>
    rw [haccept] at henter
    simp only [run_bind_error henter, entriesOf, keysAfter, resultSetsGiven, Nat.add_zero,
      ← s.openedResultSets_entered h []]
  | ok entered =>
    obtain ⟨script, inputs⟩ := entered
    rw [haccept] at henter
    have hrun := run_eq script inputs h (s.entered h [inputs])
    simp only [run_bind_ok henter, hrun, entriesOf, keysAfter, s.openedResultSets_entered]
    cases script.answer h.settings inputs with
    | error e => rfl
    | ok answer =>
      simp only
      cases fillOutputs bindings answer.2 <;> rfl

/-! ## What the answer depends on -/

/-- **The answer depends on little**: of the handle on whether it was released, on its SQL text
and its settings, of the server on the script of this text, and of the bindings on their inputs. -/
theorem reply_congr {h' : Handle} (hreleased : h'.isReleased = h.isReleased)
    (hprepared : h'.prepared = h.prepared) (hsettings : h'.settings = h.settings)
    (hscript : ∀ sql, h.prepared = some sql → s'.script? sql = s.script? sql)
    (hlength : others.length = bindings.length) (hinputs : inputsOf others = inputsOf bindings) :
    reply others h' s' = reply bindings h s := by
  have haccept : accept others h' s' = accept bindings h s := by
    unfold accept
    rw [hreleased, hprepared, hlength, hinputs]
    cases hsql : h.prepared with
    | none => rfl
    | some sql => simp only [hscript sql hsql]
  rw [reply, reply, haccept, hsettings]

/-- Of the server only the scripts count. -/
theorem serve_eq_of_scripts_eq (hscripts : s'.scripts = s.scripts) (h : Handle) :
    h.serve s' = h.serve s := by
  funext bindings
  have hscript : ∀ sql, h.prepared = some sql → s'.script? sql = s.script? sql := fun sql _ => by
    rw [Server.script?, hscripts, ← Server.script?]
  rw [serve, serve, reply_congr rfl rfl rfl hscript rfl rfl]

/-! ## What a failed execution leaves -/

/-- **A failed execution leaves the bindings alone** exactly when, should the server answer with
outputs, the bindings before the first refusal already hold what they receive. -/
theorem executePrepared_error_keeps_iff (bindings : List Binding) (h : Handle) (s : Server) :
    (∀ e bindings' state, executePrepared (bindings, h, s) = .error e (bindings', state) →
      bindings' = bindings) ↔
    ∀ execution outputs k, reply bindings h s = .ok (execution, outputs) →
      FirstRefused bindings outputs k → ∀ i < k, ∀ b v, bindings[i]? = some b →
        outputs[i]? = some v → b.receive v = .ok b := by
  have heq := executePrepared_eq bindings h s
  cases hreply : reply bindings h s with
  | error e =>
    simp only [serve, hreply] at heq
    refine iff_of_true ?_ (fun _ _ _ hok => nomatch hok)
    intro e' bindings' state herr
    cases heq.symm.trans herr
    rfl
  | ok answer =>
    obtain ⟨execution, outputs⟩ := answer
    simp only [serve, hreply] at heq
    cases hfill : fillOutputs bindings outputs with
    | ok _ bindings' =>
      simp only [hfill] at heq
      refine iff_of_true (fun _ _ _ herr => nomatch heq.symm.trans herr) ?_
      rintro _ _ k ⟨⟩ hk
      obtain ⟨e, bindings', herr⟩ := hk.fails
      cases hfill.symm.trans herr
    | error e bindings' =>
      simp only [hfill] at heq
      have hiff := fillOutputs_error_keeps_iff hfill
      constructor
      · rintro hkeeps _ _ k ⟨⟩ hk
        exact hiff.mp (hkeeps _ _ _ heq) k hk
      · intro hheld e' bindings'' state herr
        cases heq.symm.trans herr
        exact hiff.mpr fun k hk => hheld execution outputs k rfl hk

/-- A procedure returns a number and a word for two integers: the execution fails, and the first
integer has been received. -/
theorem executePrepared_error_changes_bindings :
    let integer : Binding := ⟨.int32, .output, .new 4⟩
    let described := ParameterDescription.ofDigits 5 0 .output
    let server := Server.empty.register "C"
      ⟨.call fun _ => .ok [.int32 1, .text "abc"], [described, described], none⟩
    ∃ e bindings' state,
      executePrepared ([integer, integer], { new with prepared := some "C" }, server) =
        .error e (bindings', state) ∧ bindings' ≠ [integer, integer] :=
  ⟨_, _, _, rfl, by decide⟩

end Handle
end Scripted
end SqlClient
