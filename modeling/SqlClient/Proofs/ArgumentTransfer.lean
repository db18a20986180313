import SqlClient.Proofs.NameResolution
import SqlClient.Proofs.OutputWriteBack
import SqlClient.Proofs.StatementExecution

/-! # Values reach the right places

An execution of a procedure moves values in both directions.  Arguments are found by position or
by name, encoded for their parameters, and decoded by the server; outputs are encoded in the order
of the parameters, decoded by the client, and put back into the slots.  `Transfer` says where each
value has to end up, and in which form; `executeWith_transfers` that it does.
-/
namespace SqlClient

open Scripted

/-- **The transfer of one execution**: arguments `args` that went as `inputs` to a procedure, and
its `outputs` that came back as `args'`. -/
structure Transfer (ps : Parameters) (args args' : Arguments) (slots : List Nat)
    (inputs outputs : List Value) : Prop where
  resolution : Parameters.Resolution ps args slots
  complete : inputs.length = ps.size
  /-- The input of a parameter is its argument in canonical form. -/
  sent : ∀ (i : Nat) (p : Parameter) (slot : Nat), ps.items[i]? = some p →
    slots[i]? = some slot → p.binding.mode.isInput = true →
      ∃ c, (args.get slot).canonical? p.binding.host = .ok c ∧ inputs[i]? = some c
  /-- A parameter without input counts as NULL. -/
  sentNull : ∀ (i : Nat) (p : Parameter), ps.items[i]? = some p →
    p.binding.mode.isInput = false → inputs[i]? = some .null
  /-- The slot of an output parameter holds its output in canonical form. -/
  received : ∀ (i : Nat) (p : Parameter) (slot : Nat) (v : Value), ps.items[i]? = some p →
    slots[i]? = some slot → outputs[i]? = some v → p.binding.mode.isOutput = true →
      ∃ c, v.canonical? p.binding.host = .ok c ∧ args'.values[slot]? = some c
  /-- The slot of any other parameter keeps its argument. -/
  kept : ∀ (i : Nat) (p : Parameter) (slot : Nat), ps.items[i]? = some p →
    slots[i]? = some slot → p.binding.mode.isOutput = false →
      args'.values[slot]? = args.values[slot]?
  names : args'.names? = args.names?
  size : args'.size = args.size

namespace Parameters

variable {args args' : Arguments} {options : Options} {h : Handle} {server : Server}
  {ps bound ps' : Parameters} {inputs outputs : List Value} {count : Int}

/-! ## Parameter by parameter -/

namespace Performed

theorem resolution (hperformed : Performed args options h server ps bound outputs count ps') :
    Resolution ps args bound.slots ∧ ps'.slots = bound.slots := by
  obtain ⟨slots, items, hslots, -, rfl⟩ := exists_slots_of_bind hperformed.bind
  obtain ⟨bindings, -, rfl⟩ := hperformed.receive
  exact ⟨resolution_of_slotsFor hslots, rfl⟩

/-- No slot is taken twice. -/
theorem nodup_slots (hperformed : Performed args options h server ps bound outputs count ps') :
    ps'.slots.Nodup := by
  obtain ⟨hres, hslots⟩ := hperformed.resolution
  rw [hslots]
  exact hres.nodup

/-- Every slot is one of the arguments. -/
theorem slot_lt (hperformed : Performed args options h server ps bound outputs count ps') :
    ∀ slot ∈ ps'.slots, slot < args.size := by
  obtain ⟨hres, hslots⟩ := hperformed.resolution
  obtain ⟨slots, items, hfound, -, rfl⟩ := exists_slots_of_bind hperformed.bind
  intro slot hslot
  rw [hslots] at hslot
  rw [size_eq_of_slotsFor hfound]
  exact hres.lt_size hslot

/-- **What becomes of a parameter**: it is bound to its argument, and then its binding receives its
output, if there is one. -/
theorem parameter (hperformed : Performed args options h server ps bound outputs count ps')
    {i : Nat} {p : Parameter} (hp : ps.items[i]? = some p) :
    ∃ slot q b, bound.slots[i]? = some slot ∧ bound.items[i]? = some q ∧
      p.bind (1 + i) (args.get slot) = .ok q ∧
      ps'.items[i]? = some { q with binding := b } ∧ b.shape = q.binding.shape ∧
      (∀ v, outputs[i]? = some v → q.binding.receive v = .ok b) ∧
      (outputs[i]? = none → b = q.binding) := by
  have hperm := hperformed.resolution.1.perm
  obtain ⟨slots, items, hslots, hitems, rfl⟩ := exists_slots_of_bind hperformed.bind
  obtain ⟨bindings, hfill, rfl⟩ := hperformed.receive
  obtain ⟨hi, -⟩ := List.getElem?_eq_some_iff.mp hp
  have hlength : slots.length = ps.items.length := by simpa [size] using hperm.length_eq
  have hslot : slots[i]? = some slots[i] := List.getElem?_eq_getElem (hlength ▸ hi)
  obtain ⟨q, hq, hbind⟩ := getElem?_of_bindFrom hitems hp (v := args.get slots[i]) (by simp [hslot])
  obtain ⟨b, hb, hreceived, hkept⟩ := Handle.getElem?_of_fillOutputs hfill (getElem?_bindings hq)
  refine ⟨slots[i], q, b, hslot, hq, hbind, ?_, ?_, hreceived, hkept⟩
  · simp [withBindings, List.getElem?_zipWith, hq, hb]
  · cases hv : outputs[i]? with
    | none => rw [hkept hv]
    | some v => exact Binding.shape_of_receive (hreceived v hv)

/-- An input is the argument in canonical form, or NULL. -/
theorem input (hperformed : Performed args options h server ps bound outputs count ps')
    (hinputs : Handle.inputsOf bound.bindings = .ok inputs) {i slot : Nat} {p : Parameter}
    (hp : ps.items[i]? = some p) (hslot : bound.slots[i]? = some slot) :
    ∃ c, inputs[i]? = some c ∧
      (p.binding.mode.isInput = true → (args.get slot).canonical? p.binding.host = .ok c) ∧
      (p.binding.mode.isInput = false → c = .null) := by
  obtain ⟨slot', q, b, hslot', hq, hbind, -⟩ := hperformed.parameter hp
  cases hslot.symm.trans hslot'
  have hmode := Parameter.mode_eq_of_shape_eq (Parameter.shape_of_bind hbind)
  obtain ⟨v, hv, hinput⟩ := Handle.getElem?_of_inputsOf hinputs (getElem?_bindings hq)
  refine ⟨v, hv, ?_, ?_⟩
  · intro hin
    obtain ⟨c, hcanonical, houtput⟩ := Parameter.output_of_bind hbind hin
    rw [Binding.input_of_isInput (hmode ▸ hin)] at hinput
    cases hinput.symm.trans houtput
    exact hcanonical
  · intro hin
    rw [Binding.input_of_not_isInput (hmode ▸ hin)] at hinput
    exact (Except.ok.inj hinput).symm

/-- An output is read in canonical form. -/
theorem output (hperformed : Performed args options h server ps bound outputs count ps')
    {i : Nat} {p : Parameter} {v : Value} (hp : ps.items[i]? = some p)
    (hv : outputs[i]? = some v) (hout : p.binding.mode.isOutput = true) :
    ∃ p' c, ps'.items[i]? = some p' ∧ p'.binding.mode = p.binding.mode ∧
      v.canonical? p.binding.host = .ok c ∧ p'.output = .ok c := by
  obtain ⟨slot, q, b, -, -, hbind, hp', hshape, hreceived, -⟩ := hperformed.parameter hp
  have hmode := Parameter.mode_eq_of_shape_eq (Parameter.shape_of_bind hbind)
  have hhost := Parameter.host_eq_of_shape_eq (Parameter.shape_of_bind hbind)
  obtain ⟨c, hcanonical, hdecode⟩ := Binding.decode_of_receive (hreceived v hv) (hmode ▸ hout)
  exact ⟨_, c, hp', (Binding.mode_of_shape_eq hshape).trans hmode, hhost ▸ hcanonical, hdecode⟩

/-- **The steps of an execution make up a transfer.** -/
theorem transfer (hperformed : Performed args options h server ps bound outputs count ps')
    (hinputs : Handle.inputsOf bound.bindings = .ok inputs)
    (hback : ps'.writeBack args = .ok args') :
    Transfer ps args args' bound.slots inputs outputs := by
  obtain ⟨hres, hslots⟩ := hperformed.resolution
  have hnodup := hperformed.nodup_slots
  obtain ⟨written, -, hassign⟩ := writeBack_eq_ok hback
  refine ⟨hres, ?_, ?_, ?_, ?_, ?_, names?_assign hassign, size_assign hassign⟩
  · have hshape := shape_bind args ps
    rw [hperformed.bind, leaves_ok] at hshape
    rw [Handle.length_of_inputsOf hinputs, length_bindings, hshape.size_eq]
  · intro i p slot hp hslot hin
    obtain ⟨c, hc, hcanonical, -⟩ := hperformed.input hinputs hp hslot
    exact ⟨c, hcanonical hin, hc⟩
  · intro i p hp hin
    obtain ⟨slot, q, b, hslot, -⟩ := hperformed.parameter hp
    obtain ⟨c, hc, -, hnull⟩ := hperformed.input hinputs hp hslot
    rw [hc, hnull hin]
  · intro i p slot v hp hslot hv hout
    obtain ⟨p', c, hp', hmode, hcanonical, houtput⟩ := hperformed.output hp hv hout
    -- what the binding received is what the write-back reads
    obtain ⟨c', hc', hvalue⟩ :=
      getElem?_of_writeBack_output hback hnodup hp' (hslots ▸ hslot) (hmode ▸ hout)
    cases houtput.symm.trans hc'
    exact ⟨c, hcanonical, hvalue⟩
  · intro i p slot hp hslot hout
    obtain ⟨slot', q, b, -, -, hbind, hp', hshape, -⟩ := hperformed.parameter hp
    have hmode : b.mode = p.binding.mode := (Binding.mode_of_shape_eq hshape).trans
      (Parameter.mode_eq_of_shape_eq (Parameter.shape_of_bind hbind))
    exact getElem?_of_writeBack_input hback hnodup hp' (hslots ▸ hslot) (hmode ▸ hout)

end Performed
end Parameters

namespace Statement

/-- **Values reach the right places.**  When a prepared statement that calls a procedure has been
executed with arguments, the procedure was called with one input for each parameter, which the
server wrote down, and its outputs were put back into the arguments. -/
theorem executeWith_transfers {s s' : Statement} {w w' : ClientWorld} {h : Handle}
    {ps : Parameters} {args args' : Arguments} {sql : String} {script : Script}
    {procedure : List Value → Except Error (List Value)} {count : Int}
    (linked : s.link = some ⟨h, some ps⟩) (prepared : h.prepared = some sql)
    (scripted : w.server.script? sql = .ok script) (calls : script.action = .call procedure)
    (success : executeWith (args, s, w) = .ok count (args', s', w')) :
    ∃ slots inputs outputs, procedure inputs = .ok outputs ∧
      w'.server.bound = w.server.bound ++ [inputs] ∧
      Transfer ps args args' slots inputs outputs := by
  obtain ⟨entries, h', cursor, w₁, -, hnoted, hentries, hexecute⟩ := executeWith_eq linked args w
  rw [hexecute] at success
  cases htransact : Parameters.transact args s.options h w.server ps with
  | error e ps' => rw [htransact] at success; cases success
  | ok result ps' =>
    obtain ⟨count', written⟩ := result
    rw [htransact] at success
    cases success
    obtain ⟨hperform, hback⟩ := Parameters.transact_eq_ok htransact
    obtain ⟨bound, inputs, hbound, hinputs, rfl⟩ := hentries _ _ hperform
    obtain ⟨bound', outputs, hperformed⟩ := Parameters.perform_eq_ok_iff.mp hperform
    cases hbound.symm.trans hperformed.bind
    refine ⟨bound.slots, inputs, outputs, ?_, hnoted.bound, hperformed.transfer hinputs hback⟩
    obtain ⟨execution, hreply, -⟩ := hperformed.answer
    obtain ⟨script', inputs', haccept, hanswer⟩ := Handle.reply_eq_ok_iff.mp hreply
    obtain ⟨-, ⟨sql', hprepared, hscript⟩, -, hinputs'⟩ := Handle.accept_eq_ok_iff.mp haccept
    cases hprepared.symm.trans prepared
    cases hscript.symm.trans scripted
    cases hinputs'.symm.trans hinputs
    exact Script.outputs_of_answer calls hanswer

/-- Arguments in another order than the parameters; the second parameter gives an output. -/
theorem executeWith_transfers_swapped :
    let parameter (name : String) (mode : ParameterMode) : Parameter :=
      ⟨some name, .fixed, 5, 5, 0, 5, ⟨.int32, mode, .new 4⟩⟩
    let ps : Parameters := ⟨[parameter "A" .input, parameter "B" .output], true, []⟩
    let described (mode : ParameterMode) := ParameterDescription.ofDigits 5 0 mode
    let server := Server.empty.register "CALL P(:A, :B)"
      ⟨.call fun inputs => .ok (inputs.reverse), [described .input, described .output], none⟩
    let s : Statement :=
      ⟨some ⟨{ Handle.new with prepared := some "CALL P(:A, :B)" }, some ps⟩, none, .empty⟩
    let args : Arguments := .named [("b", .null), (":a", .int32 7)]
    ∃ s' w' slots inputs outputs,
      executeWith (args, s, .new server) =
        .ok 0 (.named [("b", .int32 7), (":a", .int32 7)], s', w') ∧
      w'.server.bound = [inputs] ∧
      Transfer ps args (.named [("b", .int32 7), (":a", .int32 7)]) slots inputs outputs := by
  intro parameter ps described server s args
  have hsuccess : ∃ s' w', executeWith (args, s, .new server) =
        .ok 0 (.named [("b", .int32 7), (":a", .int32 7)], s', w') := ⟨_, _, by cbv⟩
  obtain ⟨s', w', hsuccess⟩ := hsuccess
  obtain ⟨slots, inputs, outputs, -, hbound, htransfer⟩ :=
    executeWith_transfers rfl rfl rfl rfl hsuccess
  exact ⟨s', w', slots, inputs, outputs, hsuccess, hbound, htransfer⟩

end Statement
end SqlClient
