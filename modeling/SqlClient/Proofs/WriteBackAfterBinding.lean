import SqlClient.Proofs.BufferIndicator
import SqlClient.Proofs.ExecutionAgreement

/-! # Writing back after any binding

Outputs go into the slots that the parameters took in the last binding that found slots.  A binding
that is refused before that leaves these slots as they were (`Parameters.slots_afterAll`).  So
arguments that were refused for their number may not have them.

Then nothing is written back: the slot that is missing is the error, and every output could be read
(`missesSlot_iff`).  With as many arguments as parameters no slot is missing, because the slots are
a permutation of the places (`Parameters.writeBack_misses_slot_iff`).
-/
namespace SqlClient

/-- What a buffer holds is misread for two reasons. -/
theorem Buffer.decode_error {b : Buffer} {host : HostType} {e : Error}
    (h : b.decode host = .error e) :
    (∃ fault, e = .conversion fault) ∨ ∃ needed available, e = .bufferTooSmall needed available := by
  have hfixed {width : Nat} {α : Type} {f : Nat → α} {g : α → Value}
      (h : ((b.fixed? width).map f).map g = .error e) :
      ∃ needed available, e = .bufferTooSmall needed available := by
    unfold fixed? at h
    split at h <;> cases h
    exact ⟨_, _, rfl⟩
  unfold decode at h
  split at h
  · cases h
  · rename_i content hbytes
    cases host with
    | int32 | int64 | double => exact .inr (hfixed h)
    | bytes | blob => cases h
    | decimal | text | clob =>
      refine .inl ?_
      cases hdecode : Utf8.decode content with
      | ok s =>
        rw [hdecode] at h
        cases h
      | error fault =>
        rw [hdecode] at h
        cases h
        exact ⟨_, rfl⟩

namespace Parameters

/-! ## Calls -/

/-- What the server writes into a buffer. -/
inductive Fill where
  /-- A value, encoded under the host type of the parameter. -/
  | value (index : Nat) (v : Value)
  /-- Bytes as they are. -/
  | bytes (index : Nat) (data : Bytes)
  deriving DecidableEq, Repr

/-- What is done with the parameters of a statement. -/
inductive Call where
  | bind (args : Arguments)
  | fill (data : Fill)
  deriving DecidableEq, Repr

/-- The parameters after a call, also after one that fails. -/
def after (ps : Parameters) : Call → Parameters
  | .bind args => leaves (bind args ps)
  | .fill (.value index v) => leaves (fill index v ps)
  | .fill (.bytes index data) => leaves (fillBytes index data ps)

/-- The parameters after calls one after the other. -/
def afterAll (ps : Parameters) (calls : List Call) : Parameters := calls.foldl after ps

/-- The slots that a call finds for the parameters. -/
def Call.slots? (ps : Parameters) : Call → Option (List Nat)
  | .bind args => (ps.slotsFor args).toOption
  | .fill _ => none

variable {ps qs : Parameters} {args args' : Arguments} {i slot : Nat} {p : Parameter}

/-! ## Slots -/

/-- A write that keeps the capacity of every buffer changes nothing but what a buffer holds. -/
theorem writeBuffer_keeps {write : Binding → Except Error Buffer}
    (hwrite : ∀ binding buffer, write binding = .ok buffer →
      buffer.capacity = binding.buffer.capacity) (index : Nat) (ps : Parameters) :
    SameShape (leaves (writeBuffer index write ps)) ps ∧
      (leaves (writeBuffer index write ps)).slots = ps.slots := by
  unfold writeBuffer
  cases hp : ps.items[index]? with
  | none => exact ⟨.refl ps, rfl⟩
  | some p =>
    simp only
    cases hbuffer : write p.binding with
    | error e => exact ⟨.refl ps, rfl⟩
    | ok buffer =>
      have hshape : (p.withBuffer buffer).shape = p.shape :=
        Parameter.shape_withBuffer (hwrite _ _ hbuffer)
      obtain ⟨hi, rfl⟩ := List.getElem?_eq_some_iff.mp hp
      refine ⟨⟨?_, rfl⟩, rfl⟩
      change (ps.items.set index (ps.items[index].withBuffer buffer)).map Parameter.shape = _
      rw [List.map_set, hshape, ← List.getElem_map Parameter.shape (h := by simpa using hi),
        List.set_getElem_self]

/-- **A call keeps the shape**, and the slots unless it finds new ones. -/
theorem after_keeps (ps : Parameters) (call : Call) :
    SameShape (ps.after call) ps ∧ (ps.after call).slots = (call.slots? ps).getD ps.slots := by
  cases call with
  | bind args =>
    refine ⟨shape_bind args ps, ?_⟩
    cases hslots : ps.slotsFor args with
    | ok slots =>
      rw [after, (bind_of_slotsFor hslots).1, Call.slots?, hslots]
      rfl
    | error e =>
      rw [after, bind, hslots, Call.slots?, hslots]
      rfl
  | fill data =>
    cases data with
    | value index v => exact writeBuffer_keeps (fun _ _ h => Buffer.capacity_of_encode h) index ps
    | bytes index data =>
      exact writeBuffer_keeps (fun _ _ h => Buffer.capacity_of_putBytes h) index ps

theorem Call.slots?_eq (hshape : SameShape ps qs) (call : Call) :
    call.slots? ps = call.slots? qs := by
  cases call with
  | bind args => exact congrArg Except.toOption (hshape.slotsFor_eq args)
  | fill data => rfl

/-- **The slots after calls** are the last that were found. -/
theorem slots_afterAll (ps : Parameters) (calls : List Call) :
    SameShape (ps.afterAll calls) ps ∧ (ps.afterAll calls).slots =
      ((calls.filterMap (Call.slots? ps)).getLast?).getD ps.slots := by
  -- From the end: the last call decides, and the slots it finds depend on the shape alone.
  induction calls using List.reverseRecOn with
  | nil => exact ⟨.refl ps, rfl⟩
  | append_singleton calls call ih =>
    obtain ⟨hshape, hslots⟩ := ih
    have hstep := (ps.afterAll calls).after_keeps call
    rw [Call.slots?_eq hshape, hslots] at hstep
    rw [afterAll, List.foldl_append, List.filterMap_append]
    refine ⟨hstep.1.trans hshape, hstep.2.trans ?_⟩
    cases hnew : call.slots? ps with
    | none => simp [hnew]
    | some slots => simp [hnew]

/-- The slots after calls are places of parameters, and none is taken twice. -/
theorem nodup_afterAll (hnew : ps.slots = []) (calls : List Call) :
    (ps.afterAll calls).slots.Nodup ∧ ∀ slot ∈ (ps.afterAll calls).slots, slot < ps.size := by
  rw [(ps.slots_afterAll calls).2, hnew]
  cases hlast : (calls.filterMap (Call.slots? ps)).getLast? with
  | none => exact ⟨List.nodup_nil, nofun⟩
  | some slots =>
    obtain ⟨call, -, hslots⟩ := List.mem_filterMap.mp (List.mem_of_getLast? hlast)
    cases call with
    | fill data => cases hslots
    | bind args =>
      cases hfound : ps.slotsFor args with
      | error e =>
        rw [Call.slots?, hfound] at hslots
        cases hslots
      | ok slots' =>
        rw [Call.slots?, hfound] at hslots
        cases hslots
        have hres := resolution_of_slotsFor hfound
        exact ⟨hres.nodup, fun slot hslot => hres.lt_size hslot⟩

/-- Arguments that are refused for their number leave the slots of an earlier binding. -/
theorem getLast?_slots_of_ne (hcount : args.size ≠ ps.size) {calls : List Call}
    (fills : List Fill) :
    ((calls ++ Call.bind args :: fills.map Call.fill).filterMap (Call.slots? ps)).getLast? =
      (calls.filterMap (Call.slots? ps)).getLast? := by
  have hrefused : Call.slots? ps (.bind args) = none := by
    rw [Call.slots?, slotsFor_of_ne_size hcount]
    rfl
  have hfills : (fills.map Call.fill).filterMap (Call.slots? ps) = [] := by
    simp [Call.slots?]
  rw [List.filterMap_append, List.filterMap_cons_none hrefused, hfills, List.append_nil]

/-! ## Writing back -/

/-- Writing back reaches for an argument that is not there. -/
def MissesSlot (ps : Parameters) (args : Arguments) : Prop :=
  ∃ slot count, ps.writeBack args = .error (.slotOutOfRange slot count)

/-- **The outputs are in their slots.**  The other arguments are as they were, and so are all
names. -/
structure OutputsAssigned (ps : Parameters) (args args' : Arguments) : Prop where
  output : ∀ (i : Nat) (p : Parameter) (slot : Nat), ps.items[i]? = some p →
    ps.slots[i]? = some slot → p.binding.mode.isOutput = true →
      ∃ v, p.output = .ok v ∧ args'.values[slot]? = some v
  kept : ∀ slot, (∀ (i : Nat) (p : Parameter), ps.items[i]? = some p →
    ps.slots[i]? = some slot → p.binding.mode.isOutput = false) →
      args'.values[slot]? = args.values[slot]?
  names : args'.names? = args.names?
  size : args'.size = args.size

/-- An output took a slot that is not among the arguments. -/
def OutputBeyond (ps : Parameters) (slots : List Nat) (count : Nat) : Prop :=
  ∃ (i : Nat) (p : Parameter) (slot : Nat), ps.items[i]? = some p ∧ slots[i]? = some slot ∧
    p.binding.mode.isOutput = true ∧ count ≤ slot

/-- An output that cannot be read is no missing slot. -/
theorem outputs_ne_slotOutOfRange (ps : Parameters) (slot count : Nat) :
    ps.outputs ≠ .error (.slotOutOfRange slot count) := by
  intro h
  obtain ⟨⟨p, taken⟩, -, hread⟩ := exists_of_mapM_eq_error h
  cases houtput : p.output with
  | ok v =>
    simp only [houtput] at hread
    cases hread
  | error e =>
    simp only [houtput] at hread
    cases hread
    rcases Buffer.decode_error houtput with ⟨fault, he⟩ | ⟨needed, available, he⟩ <;> cases he

/-- **A slot is missing** exactly when every output can be read, and the slot of one of them is not
among the arguments. -/
theorem missesSlot_iff : ps.MissesSlot args ↔
    (∃ written, ps.outputs = .ok written) ∧ ps.OutputBeyond ps.slots args.size := by
  constructor
  · rintro ⟨slot, count, h⟩
    rcases bind_eq_error h with houtputs | ⟨written, houtputs, hassign⟩
    · exact absurd houtputs (ps.outputs_ne_slotOutOfRange slot count)
    · obtain ⟨entry, hmem, hle, -⟩ := assign_error hassign
      obtain ⟨i, p, hp, hslot, hout⟩ :=
        exists_output_of_mem houtputs (List.mem_map.mpr ⟨entry, hmem, rfl⟩)
      exact ⟨⟨written, houtputs⟩, i, p, entry.1, hp, hslot, hout, hle⟩
  · rintro ⟨⟨written, houtputs⟩, i, p, slot, hp, hslot, hout, hle⟩
    obtain ⟨v, -, hmem⟩ := mem_of_outputs houtputs hp hslot hout
    have hwriteBack : ps.writeBack args = assign args written := by
      rw [writeBack, houtputs]
      rfl
    cases hassign : assign args written with
    | ok args' => exact absurd (slot_lt_of_assign hassign _ hmem) (Nat.not_lt.mpr hle)
    | error e =>
      obtain ⟨entry, -, -, rfl⟩ := assign_error hassign
      exact ⟨entry.1, args.size, hwriteBack.trans hassign⟩

/-- **What writing back does where no slot is missing.** -/
theorem writeBack_cases (hnodup : ps.slots.Nodup) (h : ¬ ps.MissesSlot args) :
    (∃ args', ps.writeBack args = .ok args' ∧ ps.OutputsAssigned args args') ∨
      ∃ e, ps.outputs = .error e ∧ ps.writeBack args = .error e := by
  cases hwriteBack : ps.writeBack args with
  | ok args' =>
    obtain ⟨written, houtputs, hassign⟩ := writeBack_eq_ok hwriteBack
    refine .inl ⟨args', rfl, fun i p slot hp hslot hout =>
      getElem?_of_writeBack_output hwriteBack hnodup hp hslot hout, fun slot hother => ?_,
      names?_assign hassign, size_assign hassign⟩
    refine values_assign_of_notMem hassign fun hmem => ?_
    obtain ⟨i, p, hp, hslot, hout⟩ := exists_output_of_mem houtputs hmem
    cases hout.symm.trans (hother i p hp hslot)
  | error e =>
    rcases bind_eq_error hwriteBack with houtputs | ⟨written, -, hassign⟩
    · exact .inr ⟨e, houtputs, rfl⟩
    · obtain ⟨entry, -, -, rfl⟩ := assign_error hassign
      exact absurd ⟨_, _, hwriteBack⟩ h

/-- **Writing back after any calls.**  The arguments of the last binding lack a slot exactly when
there are fewer of them than parameters, so that they were refused, an earlier binding found slots,
in the last one of these an output took a slot that they do not have, and all outputs can be read.
Otherwise the outputs are written back, or one of them cannot be read. -/
theorem writeBack_misses_slot_iff (hnew : ps.slots = []) (calls : List Call) (args : Arguments)
    (fills : List Fill) :
    let ps' := ps.afterAll (calls ++ .bind args :: fills.map .fill)
    (ps'.MissesSlot args ↔ args.size < ps.size ∧ (∃ written, ps'.outputs = .ok written) ∧
      ∃ slots, (calls.filterMap (Call.slots? ps)).getLast? = some slots ∧
        ps.OutputBeyond slots args.size) ∧
    (¬ ps'.MissesSlot args →
      (∃ args', ps'.writeBack args = .ok args' ∧ ps'.OutputsAssigned args args') ∨
        ∃ e, ps'.outputs = .error e ∧ ps'.writeBack args = .error e) := by
  intro ps'
  obtain ⟨hnodup, hplaces⟩ := nodup_afterAll hnew (calls ++ .bind args :: fills.map .fill)
  obtain ⟨hshape, hslots⟩ := ps.slots_afterAll (calls ++ .bind args :: fills.map .fill)
  refine ⟨missesSlot_iff.trans ⟨?_, ?_⟩, writeBack_cases hnodup⟩
  · rintro ⟨hread, i, p, slot, hp, hslot, hout, hle⟩
    have hfewer : args.size < ps.size :=
      hle.trans_lt (hplaces slot (List.mem_of_getElem? hslot))
    rw [hslots, getLast?_slots_of_ne hfewer.ne fills, hnew] at hslot
    cases hlast : (calls.filterMap (Call.slots? ps)).getLast? with
    | none =>
      rw [hlast] at hslot
      cases hslot
    | some slots =>
      rw [hlast] at hslot
      obtain ⟨q, hq, hpq⟩ := hshape.symm.exists_item hp
      exact ⟨hfewer, hread, slots, rfl, i, q, slot, hq, hslot,
        Parameter.mode_eq_of_shape_eq hpq ▸ hout, hle⟩
  · rintro ⟨hfewer, hread, slots, hlast, i, p, slot, hp, hslot, hout, hle⟩
    obtain ⟨q, hq, hpq⟩ := hshape.exists_item hp
    refine ⟨hread, i, q, slot, hq, ?_, Parameter.mode_eq_of_shape_eq hpq ▸ hout, hle⟩
    rw [hslots, getLast?_slots_of_ne hfewer.ne fills, hlast]
    exact hslot

/-- Arguments of which the names are refused have the slots of those before them. -/
theorem writeBack_misses_slot_iff_renamed :
    let d : ParameterDescription := .ofLength SqlType.varcharAscii.code 10 .output
    let args : Arguments := .named [("x", .null), ("y", .null)]
    let fills : List Fill := [.value 0 (.text "v"), .bytes 1 []]
    ∃ ps args', ofDescriptions .unicode "CALL P(:A, :B)" [d, d] = .ok ps ∧ ps.slots = [] ∧
      let ps' := ps.afterAll ([.bind (.named [("b", .null), ("a", .null)])] ++
        .bind args :: fills.map .fill)
      ps'.writeBack args = .ok args' ∧ ps'.OutputsAssigned args args' ∧
        args' = .named [("x", .text ""), ("y", .text "v")] := by
  intro d args fills
  have hps : ∃ ps, ofDescriptions .unicode "CALL P(:A, :B)" [d, d] = .ok ps ∧ ps.slots = [] ∧
      ps.size = 2 ∧
      (ps.afterAll ([.bind (.named [("b", .null), ("a", .null)])] ++
        .bind args :: fills.map .fill)).writeBack args =
          .ok (.named [("x", .text ""), ("y", .text "v")]) :=
    ⟨_, by cbv, rfl, rfl, by cbv⟩
  obtain ⟨ps, hps, hnew, hsize, hwriteBack⟩ := hps
  obtain ⟨hmisses, hwrites⟩ := writeBack_misses_slot_iff hnew
    [.bind (.named [("b", .null), ("a", .null)])] args fills
  have hnone : ¬ (ps.afterAll ([.bind (.named [("b", .null), ("a", .null)])] ++
      .bind args :: fills.map .fill)).MissesSlot args := fun h => by
    have hfewer := (hmisses.mp h).1
    rw [hsize] at hfewer
    exact absurd hfewer (by decide)
  rcases hwrites hnone with ⟨args', hok, hwritten⟩ | ⟨e, -, herror⟩
  · exact ⟨ps, args', hps, hnew, hok, hwritten, Except.ok.inj (hok.symm.trans hwriteBack)⟩
  · cases hwriteBack.symm.trans herror

/-- After a binding that was accepted, no arguments at all: they are refused, and the output is
still written to the slot that the first binding found. -/
theorem writeBack_misses_slot :
    let d : ParameterDescription := .ofLength SqlType.varcharAscii.code 10 .output
    ∃ ps, ofDescriptions .unicode "CALL P(?)" [d] = .ok ps ∧
      (ps.afterAll [.bind (.positional [.null]), .fill (.value 0 (.text "x")),
        .bind (.positional [])]).writeBack (.positional []) = .error (.slotOutOfRange 0 0) :=
  ⟨_, by cbv, by cbv⟩

end Parameters
end SqlClient
