import SqlClient.Proofs.NameResolution
import SqlClient.Proofs.OutputWriteBack
import SqlClient.Proofs.StatementExecution

/-! # Executions that agree

Two sets of parameters of the same shape differ in what their buffers hold.  An execution with the
same arguments, against the same script, ends in the same way for both, as long as nothing is left
of what the buffers held before: inputs are overwritten when arguments are bound
(`bind_agree`), and outputs when the server fills them (`fillOutputs_agree`).

What may be left is the buffer of an output parameter for which the server has no output.  If
there is no such parameter, the caller sees the same (`transact_agree`).
-/
namespace SqlClient

open Scripted

namespace Parameters

/-! ## Slots depend on the shape -/

/-- A seat of a parameter of which only the shape is left. -/
def seatShape (s : Seat) : Seat := (s.1.shape, s.2)

theorem seat_map_shape (name : String) (slot : Nat) (seats : List Seat) :
    seat name slot (seats.map seatShape) = (seat name slot seats).map (List.map seatShape) := by
  induction seats with
  | nil => rfl
  | cons s rest ih =>
    obtain ⟨p, taken⟩ := s
    have hname : p.shape.answersTo name = p.answersTo name := rfl
    by_cases hfree : (taken.isNone && p.answersTo name) = true
    · simp [seat, seatShape, hname, hfree]
    · simp only [List.map_cons, seatShape, seat, hname, hfree, ih]
      cases seat name slot rest <;> rfl

theorem seatAll_map_shape (slot : Nat) (seats : List Seat) (names : List String) :
    seatAll slot (seats.map seatShape) names =
      (seatAll slot seats names).map (List.map seatShape) := by
  induction names generalizing slot seats with
  | nil => rfl
  | cons name names ih =>
    rw [seatAll, seatAll, seat_map_shape]
    cases seat name slot seats with
    | none => rfl
    | some seats' => exact ih (slot + 1) seats'

theorem slotsByName_map_shape (items : List Parameter) (names : List String) :
    slotsByName (items.map Parameter.shape) names = slotsByName items names := by
  have hseats : (items.map Parameter.shape).map (fun p => ((p, none) : Seat)) =
      (items.map fun p => ((p, none) : Seat)).map seatShape := by
    rw [List.map_map, List.map_map]
    rfl
  rw [slotsByName, slotsByName, hseats, seatAll_map_shape]
  cases seatAll 0 (items.map fun p => (p, none)) names with
  | error e => rfl
  | ok seats => simp [Except.map, List.filterMap_map, Function.comp_def, seatShape]

variable {ps qs : Parameters}

/-- What parameters hold has no influence on the slots they take. -/
theorem SameShape.slotsFor_eq (hshape : SameShape ps qs) (args : Arguments) :
    ps.slotsFor args = qs.slotsFor args := by
  unfold slotsFor
  rw [hshape.size_eq, hshape.named]
  cases args with
  | positional values => rfl
  | named entries =>
    have hslots : slotsByName ps.items (entries.map (·.1)) =
        slotsByName qs.items (entries.map (·.1)) := by
      rw [← slotsByName_map_shape, hshape.items, slotsByName_map_shape]
    simp only [hslots]

/-- **Binding the same arguments to parameters of the same shape** ends in the same way. -/
theorem bind_agree (args : Arguments) (hshape : SameShape ps qs) :
    (∃ e ps' qs', bind args ps = .error e ps' ∧ bind args qs = .error e qs') ∨
    ∃ ps' qs', bind args ps = .ok () ps' ∧ bind args qs = .ok () qs' ∧
      List.Forall₂ SameInput ps'.items qs'.items ∧ ps'.slots = qs'.slots := by
  unfold bind
  rw [hshape.slotsFor_eq args]
  cases hslots : qs.slotsFor args with
  | error e => exact Or.inl ⟨e, ps, qs, rfl, rfl⟩
  | ok slots =>
    simp only
    have hlen : (slots.map args.get).length = ps.items.length := by
      have hperm := (resolution_of_slotsFor ((hshape.slotsFor_eq args).trans hslots)).perm
      simpa [size] using hperm.length_eq
    rcases bindFrom_agree 1 hshape.items hlen with
      ⟨e, items, items', h, h'⟩ | ⟨items, items', h, h', hall⟩
    · exact Or.inl ⟨e, _, _, by rw [h], by rw [h']⟩
    · exact Or.inr ⟨{ ps with items, slots }, { qs with items := items', slots },
        by simp only [h], by simp only [h'], hall, rfl⟩

end Parameters

/-! ## Serving bindings that hold the same inputs -/

namespace Binding

/-- Two bindings that hold the same input: of the same shape, and the same if they take input. -/
def SameInput (b c : Binding) : Prop := b.shape = c.shape ∧ (b.mode.isInput = true → b = c)

variable {b c : Binding}

theorem SameInput.input_eq (h : SameInput b c) : b.input = c.input := by
  by_cases hin : b.mode.isInput = true
  · rw [h.2 hin]
  · have hout := Bool.eq_false_iff.mpr hin
    rw [input_of_not_isInput hout, input_of_not_isInput (mode_of_shape_eq h.1 ▸ hout)]

theorem SameInput.eq_of_mode (h : SameInput b c) (hmode : ParameterMode.output ≠ b.mode) :
    b = c := by
  refine h.2 ?_
  revert hmode
  cases b.mode <;> decide

/-- A binding that ignores its output takes input, so both bindings are the same then. -/
theorem SameInput.receive_eq (h : SameInput b c) (v : Value) :
    (∃ e, b.receive v = .error e ∧ c.receive v = .error e) ∨
      ∃ b', b.receive v = .ok b' ∧ c.receive v = .ok b' := by
  have heq : b.receive v = c.receive v := by
    by_cases hout : b.mode.isOutput = true
    · exact receive_eq_of_shape_eq h.1 hout
    · rw [h.eq_of_mode fun hmode => hout (hmode ▸ rfl)]
  cases hreceive : b.receive v with
  | error e => exact Or.inl ⟨e, rfl, heq ▸ hreceive⟩
  | ok b' => exact Or.inr ⟨b', rfl, heq ▸ hreceive⟩

end Binding

namespace Scripted.Handle

variable {bindings others : List Binding}

theorem inputsOf_eq_of_sameInput (h : List.Forall₂ Binding.SameInput bindings others) :
    inputsOf others = inputsOf bindings := by
  induction h with
  | nil => rfl
  | @cons b c bs cs hbc _ ih =>
    change cs.mapM Binding.input = bs.mapM Binding.input at ih
    change (c :: cs).mapM Binding.input = (b :: bs).mapM Binding.input
    rw [List.mapM_cons, List.mapM_cons, hbc.input_eq, ih]

/-- Bindings that hold the same inputs are the same, if all of them take input. -/
theorem eq_of_sameInput (h : List.Forall₂ Binding.SameInput bindings others)
    (hmode : ParameterMode.output ∉ bindings.map (·.mode)) : bindings = others := by
  induction h with
  | nil => rfl
  | cons hbc _ ih =>
    rw [List.map_cons, List.mem_cons, not_or] at hmode
    rw [hbc.eq_of_mode hmode.1, ih hmode.2]

/-- **Outputs overwrite what was held.**  Bindings that hold the same inputs refuse the same
output, or are the same afterwards if no output binding is left over. -/
theorem fillOutputs_agree (h : List.Forall₂ Binding.SameInput bindings others)
    (outputs : List Value) :
    (∃ e bs cs, fillOutputs bindings outputs = .error e bs ∧
      fillOutputs others outputs = .error e cs) ∨
    ∃ bs cs, fillOutputs bindings outputs = .ok () bs ∧ fillOutputs others outputs = .ok () cs ∧
      (ParameterMode.output ∉ (bindings.map (·.mode)).drop outputs.length → bs = cs) := by
  induction h generalizing outputs with
  | nil => exact Or.inr ⟨[], [], rfl, rfl, fun _ => rfl⟩
  | @cons b c bs cs hbc hrest ih =>
    cases outputs with
    | nil =>
      -- nothing more comes in: only inputs are the same from here on
      exact Or.inr ⟨b :: bs, c :: cs, rfl, rfl, eq_of_sameInput (.cons hbc hrest)⟩
    | cons v values =>
      rw [fillOutputs_cons, fillOutputs_cons]
      rcases hbc.receive_eq v with ⟨e, hb, hc⟩ | ⟨b', hb, hc⟩
      · exact Or.inl ⟨e, _, _, by rw [hb], by rw [hc]⟩
      · rw [hb, hc]
        rcases ih values with ⟨e, bs', cs', hbs, hcs⟩ | ⟨bs', cs', hbs, hcs, hsame⟩
        · exact Or.inl ⟨e, b' :: bs', b' :: cs', by simp only [hbs], by simp only [hcs]⟩
        · refine Or.inr ⟨b' :: bs', b' :: cs', by simp only [hbs], by simp only [hcs], ?_⟩
          exact fun hmode => congrArg (b' :: ·) (hsame hmode)

variable {h h' : Handle} {server server' : Server}

/-- Bindings that hold the same inputs are served in the same way by the same answer. -/
theorem serve_agree (hsame : List.Forall₂ Binding.SameInput bindings others)
    (hreply : h'.reply others server' = h.reply bindings server) :
    (∃ e bs cs, h.serve server bindings = .error e bs ∧ h'.serve server' others = .error e cs) ∨
    ∃ execution outputs bs cs, h.reply bindings server = .ok (execution, outputs) ∧
      fillOutputs bindings outputs = .ok () bs ∧ fillOutputs others outputs = .ok () cs ∧
      (ParameterMode.output ∉ (bindings.map (·.mode)).drop outputs.length → bs = cs) := by
  unfold serve
  rw [hreply]
  cases h.reply bindings server with
  | error e => exact Or.inl ⟨e, bindings, others, rfl, rfl⟩
  | ok answer =>
    obtain ⟨execution, outputs⟩ := answer
    rcases fillOutputs_agree hsame outputs with ⟨e, bs, cs, hbs, hcs⟩ | ⟨bs, cs, hbs, hcs, heq⟩
    · exact Or.inl ⟨e, bs, cs, by simp only [hbs], by simp only [hcs]⟩
    · exact Or.inr ⟨execution, outputs, bs, cs, rfl, hbs, hcs, heq⟩

end Scripted.Handle

/-! ## Whole executions -/

namespace Parameters

/-- The modes of the parameters, in order. -/
def modes (ps : Parameters) : List ParameterMode := ps.items.map (·.binding.mode)

variable {ps qs : Parameters} {args : Arguments} {options : Options} {h h' : Handle}
  {server server' : Server}

theorem SameShape.modes_eq (hshape : SameShape ps qs) : ps.modes = qs.modes := by
  have hmodes := congrArg (List.map (·.binding.mode)) hshape.items
  simpa only [modes, List.map_map, Function.comp_def, Parameter.shape] using hmodes

theorem modes_bindings (ps : Parameters) : ps.bindings.map (·.mode) = ps.modes := by
  rw [bindings, List.map_map]
  rfl

theorem sameInput_bindings (h : List.Forall₂ SameInput ps.items qs.items) :
    List.Forall₂ Binding.SameInput ps.bindings qs.bindings := by
  refine List.forall₂_map_left_iff.mpr (List.forall₂_map_right_iff.mpr (h.imp ?_))
  rintro p q ⟨hshape, hsame⟩
  exact ⟨congrArg (·.binding) hshape, fun hin => congrArg (·.binding) (hsame hin)⟩

/-- The same parameters with the same bindings and slots are the same in all. -/
theorem SameShape.withBindings_eq (hshape : SameShape ps qs) (hslots : ps.slots = qs.slots)
    (bindings : List Binding) : ps.withBindings bindings = qs.withBindings bindings := by
  have hitems : ∀ items : List Parameter,
      items.zipWith (fun p binding => { p with binding }) bindings =
        (items.map Parameter.shape).zipWith (fun p binding => { p with binding }) bindings :=
    fun items => by rw [List.zipWith_map_left]; rfl
  simp only [withBindings, hitems ps.items, hitems qs.items, hshape.items, hshape.named, hslots]

/-- What two executions have to have in common: the shape of the parameters, a handle in the same
state, and the script. -/
structure Common (options : Options) (h h' : Handle) (server server' : Server)
    (ps qs : Parameters) : Prop where
  shape : SameShape ps qs
  handle : h.Alike options h'
  script : ∀ sql, h.prepared = some sql → server'.script? sql = server.script? sql

/-- **Two executions with this in common** fail in the same way, or perform the same steps and
leave the same parameters, if no output parameter is left over. -/
theorem perform_agree (args : Arguments) (common : Common options h h' server server' ps qs) :
    (∃ e ps' qs', perform args options h server ps = .error e ps' ∧
      perform args options h' server' qs = .error e qs') ∨
    ∃ bound outputs count ps' bound' qs',
      Performed args options h server ps bound outputs count ps' ∧
      Performed args options h' server' qs bound' outputs count qs' ∧
      (ParameterMode.output ∉ ps.modes.drop outputs.length → ps' = qs') := by
  obtain ⟨hshape, ⟨hprepared, hreleased, hsettings⟩, hscript⟩ := common
  by_cases hrefused : (h.isReleased && options.concernHandle) = true
  · refine Or.inl ⟨.refused .released, ps, qs, ?_, ?_⟩
    · rw [perform, if_pos hrefused]
    · rw [perform, hreleased, if_pos hrefused]
  rcases bind_agree args hshape with
    ⟨e, ps', qs', hps, hqs⟩ | ⟨bound, bound', hps, hqs, hinput, hslots⟩
  · refine Or.inl ⟨e, ps', qs', ?_, ?_⟩
    · simp only [perform, exchange, if_neg hrefused, hps]
    · simp only [perform, exchange, hreleased, if_neg hrefused, hqs]
  -- the same inputs get the same answer
  have hbindings := sameInput_bindings hinput
  have hreply : (h'.given options).reply bound'.bindings server' =
      (h.given options).reply bound.bindings server :=
    Handle.reply_congr hreleased hprepared hsettings hscript
      (by simpa [bindings] using hinput.length_eq.symm)
      (Handle.inputsOf_eq_of_sameInput hbindings)
  rcases Handle.serve_agree hbindings hreply with
    ⟨e, bs, cs, hbs, hcs⟩ | ⟨execution, outputs, bs, cs, hanswer, hbs, hcs, hsame⟩
  · refine Or.inl ⟨e, bound.withBindings bs, bound'.withBindings cs, ?_, ?_⟩
    · simp only [perform, exchange, if_neg hrefused, hps, hbs]
    · simp only [perform, exchange, hreleased, if_neg hrefused, hqs, hcs]
  cases hcount : execution.count options with
  | error e =>
    have hserve := Handle.serve_eq_ok_iff.mpr ⟨outputs, hanswer, hbs⟩
    have hserve' := Handle.serve_eq_ok_iff.mpr ⟨outputs, hreply.trans hanswer, hcs⟩
    refine Or.inl ⟨e, bound.withBindings bs, bound'.withBindings cs, ?_, ?_⟩
    · simp only [perform, exchange, if_neg hrefused, hps, hserve, hcount]
    · simp only [perform, exchange, hreleased, if_neg hrefused, hqs, hserve', hcount]
  | ok count =>
    refine Or.inr ⟨bound, outputs, count, _, bound', _, ⟨hps, ⟨execution, hanswer, hcount⟩,
      ⟨bs, hbs, rfl⟩⟩, ⟨hqs, ⟨execution, hreply.trans hanswer, hcount⟩, ⟨cs, hcs, rfl⟩⟩, ?_⟩
    -- the bindings are the same now, and so is all that is not in them
    intro hmode
    have hbound := shape_bind args ps
    have hbound' := shape_bind args qs
    rw [hps, leaves_ok] at hbound
    rw [hqs, leaves_ok] at hbound'
    rw [modes_bindings, hbound.modes_eq] at hsame
    rw [hsame hmode]
    exact (hbound.trans (hshape.trans hbound'.symm)).withBindings_eq hslots cs

/-- **The caller sees the same**, if no output parameter is left over. -/
theorem transact_agree (common : Common options h h' server server' ps qs)
    (covered : ∀ bound outputs count ps',
      Performed args options h server ps bound outputs count ps' →
        ParameterMode.output ∉ ps.modes.drop outputs.length) :
    seen args (transact args options h server ps) =
      seen args (transact args options h' server' qs) := by
  unfold transact
  rcases perform_agree args common with
    ⟨e, ps', qs', hps, hqs⟩ | ⟨bound, outputs, count, ps', bound', qs', hps, hqs, hsame⟩
  · rw [hps, hqs]
    rfl
  · rw [perform_eq_ok_iff.mpr ⟨bound, outputs, hps⟩, perform_eq_ok_iff.mpr ⟨bound', outputs, hqs⟩,
      hsame (covered _ _ _ _ hps)]

end Parameters
end SqlClient
