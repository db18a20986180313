import SqlClient.Proofs.ArgumentTransfer
import SqlClient.Proofs.ExecutionAgreement

/-! # What earlier executions leave behind

A prepared statement is executed many times, and its buffers live as long as it does.  Whatever
its history, a statement keeps its options, the shape of its parameters, and its handle up to the
serial keys (`History.kept`).  So an execution can see its history in one place only: in the buffer
of an output parameter for which the server gives no output this time.

There it does see it.  Executions that filled this buffer with NULL, or with something else, leave
a difference that the next execution writes back (`exists_leftover`).  An execution is
independent of its history exactly when the server has an output for every parameter that is only
an output (`executeWith_forgets_iff`).
-/
namespace SqlClient

open Scripted

namespace Statement

/-- **A history** of executions with arguments, each in a world of its own, whether it succeeds or
fails. -/
inductive History (s : Statement) : Statement → Prop where
  | none : History s s
  | execution {s' : Statement} (args : Arguments) (w : ClientWorld) :
      History s s' → History s (leaves (executeWith (args, s', w))).2.1

/-- **What every history keeps** of a prepared statement. -/
structure Kept (h : Handle) (ps : Parameters) (options : Options) (s : Statement) : Prop where
  sameOptions : s.options = options
  sameLink : ∃ h' ps', s.link = some ⟨h', some ps'⟩ ∧ h.Alike options h' ∧
    Parameters.SameShape ps' ps

variable {h : Handle} {ps : Parameters} {cursor : Option (Cursor ResultSet)} {options : Options}
  {s : Statement}

theorem History.kept (history : History ⟨some ⟨h, some ps⟩, cursor, options⟩ s) :
    Kept h ps options s := by
  induction history with
  | none => exact ⟨rfl, h, ps, rfl, .refl options h, .refl ps⟩
  | @execution s' args w _ ih =>
    -- one more execution starts from what the ones before it have kept
    obtain ⟨rfl, h₁, ps₁, hlink, halike, hshape⟩ := ih
    obtain ⟨h₂, cursor', halike', hleaves⟩ := leaves_executeWith hlink args w
    have htransact := Parameters.shape_transact args s'.options h₁ w.server ps₁
    rw [hleaves]
    exact ⟨rfl, h₂, _, rfl, halike.trans halike', htransact.trans hshape⟩

/-- The reaction of the server to the text that a handle was prepared for. -/
def reaction (h : Handle) (server : Server) : Option (Except Error Script) :=
  h.prepared.map server.script?

/-- After any history the caller sees the same as without, if no output parameter is left over. -/
theorem History.outcome_eq (history : History ⟨some ⟨h, some ps⟩, cursor, options⟩ s)
    {args : Arguments} {w w' : ClientWorld}
    (hreaction : reaction h w'.server = reaction h w.server)
    (covered : ∀ bound outputs count ps',
      Parameters.Performed args options h w.server ps bound outputs count ps' →
        ParameterMode.output ∉ ps.modes.drop outputs.length) :
    outcome (executeWith (args, s, w')) =
      Parameters.seen args (Parameters.transact args options h w.server ps) := by
  obtain ⟨rfl, h', ps', hlink, halike, hshape⟩ := history.kept
  have hscript : ∀ sql, h.prepared = some sql → w'.server.script? sql = w.server.script? sql := by
    intro sql hsql
    simpa [reaction, hsql] using hreaction
  rw [outcome_executeWith hlink]
  exact (Parameters.transact_agree ⟨hshape.symm, halike, hscript⟩ covered).symm

end Statement

/-! ## What is left in the buffers -/

/-- Values that go into every buffer of their host type. -/
def Fits (fill : HostType → Value) : Prop :=
  ∀ (b : Buffer) (host : HostType), ∃ b', b.encode host (fill host) = .ok b'

theorem Fits.receive {fill : HostType → Value} (fits : Fits fill) (b : Binding) :
    ∃ b', b.receive (fill b.host) = .ok b' := by
  obtain ⟨buffer, hbuffer⟩ := fits b.buffer b.host
  by_cases hout : b.mode.isOutput = true
  · exact ⟨_, by rw [Binding.receive, if_pos hout, hbuffer]; rfl⟩
  · exact ⟨b, Binding.receive_of_not_isOutput (Bool.eq_false_iff.mpr hout)⟩

theorem fits_null : Fits fun _ => .null := fun b _ => ⟨b.setNull, rfl⟩

/-- A value of each host type that is small, but not NULL. -/
def HostType.probe : HostType → Value
  | .int32 | .int64 | .double => .int32 0
  | .decimal | .bytes | .text | .blob | .clob => .bytes []

theorem fits_probe : Fits HostType.probe := by
  intro b host
  cases host <;> exact ⟨_, rfl⟩

theorem canonical?_probe (host : HostType) : host.probe.canonical? host ≠ .ok .null := by
  cases host <;> decide

namespace Parameters

variable {args : Arguments} {options : Options} {h : Handle} {server : Server}
  {ps bound ps' : Parameters} {outputs : List Value} {count : Int}

namespace Performed

/-- An output parameter without an output stays as it is. -/
theorem leftover (hperformed : Performed args options h server ps bound outputs count ps')
    {i : Nat} {p : Parameter} (hp : ps.items[i]? = some p) (hmode : p.binding.mode = .output)
    (hnone : outputs[i]? = none) : ps'.items[i]? = some p := by
  obtain ⟨slot, q, b, -, -, hbind, hp', -, -, hkept⟩ := hperformed.parameter hp
  rw [Parameter.bind_of_not_isInput (by rw [hmode]; rfl)] at hbind
  cases hbind
  rw [hp', hkept hnone]

/-- Outputs are readable, if those that are left over are. -/
theorem readable (hperformed : Performed args options h server ps bound outputs count ps')
    (hleft : ∀ (i : Nat) (p : Parameter), ps.items[i]? = some p → p.binding.mode = .output →
      outputs[i]? = none → ∃ v, p.output = .ok v) {i : Nat} {p' : Parameter}
    (hp' : ps'.items[i]? = some p') (hout : p'.binding.mode.isOutput = true) :
    ∃ v, p'.output = .ok v := by
  obtain ⟨p, hp, hshape⟩ := hperformed.shape.symm.exists_item hp'
  have hmode := Parameter.mode_eq_of_shape_eq hshape
  obtain ⟨slot, q, b, -, -, hbind, hq, -, -, hkept⟩ := hperformed.parameter hp
  cases hp'.symm.trans hq
  cases hv : outputs[i]? with
  | some v =>
    obtain ⟨p', c, hp', -, -, houtput⟩ := hperformed.output hp hv (hmode.symm ▸ hout)
    cases hp'.symm.trans hq
    exact ⟨c, houtput⟩
  | none =>
    obtain rfl := hkept hv
    by_cases hin : p.binding.mode.isInput = true
    · obtain ⟨c, -, houtput⟩ := Parameter.output_of_bind hbind hin
      exact ⟨c, houtput⟩
    · rw [Parameter.bind_of_not_isInput (Bool.eq_false_iff.mpr hin)] at hbind
      cases hbind
      refine hleft i _ hp ?_ hv
      revert hin
      cases p.binding.mode <;> decide

/-- The outputs are written back, if those that are left over are readable. -/
theorem exists_written (hperformed : Performed args options h server ps bound outputs count ps')
    (hleft : ∀ (i : Nat) (p : Parameter), ps.items[i]? = some p → p.binding.mode = .output →
      outputs[i]? = none → ∃ v, p.output = .ok v) : ∃ args', ps'.writeBack args = .ok args' := by
  apply exists_writeBack_eq_ok
  · intro i p hp hout
    exact hperformed.readable hleft hp hout
  · exact hperformed.slot_lt

/-- An execution has one course only. -/
theorem unique {bound' ps'' : Parameters} {outputs' : List Value} {count' : Int}
    (hperformed : Performed args options h server ps bound outputs count ps')
    (hperformed' : Performed args options h server ps bound' outputs' count' ps'') :
    outputs' = outputs ∧ count' = count := by
  obtain ⟨hbound, ⟨execution, hreply, hcount⟩, -⟩ := hperformed
  obtain ⟨hbound', ⟨execution', hreply', hcount'⟩, -⟩ := hperformed'
  cases hbound.symm.trans hbound'
  cases hreply.symm.trans hreply'
  exact ⟨rfl, Except.ok.inj (hcount'.symm.trans hcount)⟩

theorem transact_eq_ok {args' : Arguments}
    (hperformed : Performed args options h server ps bound outputs count ps')
    (hback : ps'.writeBack args = .ok args') :
    transact args options h server ps = .ok (count, args') ps' := by
  rw [transact, perform_eq_ok_iff.mpr ⟨bound, outputs, hperformed⟩]
  simp only [hback]

theorem leaves_transact
    (hperformed : Performed args options h server ps bound outputs count ps') :
    leaves (transact args options h server ps) = ps' := by
  rw [transact, perform_eq_ok_iff.mpr ⟨bound, outputs, hperformed⟩]
  simp only
  cases ps'.writeBack args <;> rfl

end Performed
end Parameters

namespace Statement

variable {args : Arguments} {options : Options} {h : Handle} {cursor : Option (Cursor ResultSet)}
  {ps bound ps' : Parameters} {outputs : List Value} {count : Int} {w : ClientWorld}

/-- **A history that fills the outputs.**  If arguments can be executed at all, they can be
executed against a server that fills every output parameter with what fits. -/
theorem exists_filled (cursor : Option (Cursor ResultSet))
    (hperformed : Parameters.Performed args options h w.server ps bound outputs count ps')
    {fill : HostType → Value} (fits : Fits fill) :
    ∃ s h₁ ps₁ cursor₁, History ⟨some ⟨h, some ps⟩, cursor, options⟩ s ∧
      s = ⟨some ⟨h₁, some ps₁⟩, cursor₁, options⟩ ∧
      Parameters.Common options h h₁ w.server w.server ps ps₁ ∧
      ∀ (i : Nat) (p : Parameter), ps.items[i]? = some p → p.binding.mode.isOutput = true →
        ∃ p₁ c, ps₁.items[i]? = some p₁ ∧ p₁.binding.mode = p.binding.mode ∧
          (fill p.binding.host).canonical? p.binding.host = .ok c ∧ p₁.output = .ok c := by
  obtain ⟨execution, hreply, -⟩ := hperformed.answer
  obtain ⟨script, inputs, haccept, -⟩ := Handle.reply_eq_ok_iff.mp hreply
  obtain ⟨hlive, ⟨sql, hprepared, -⟩, hlength, hinputs⟩ := Handle.accept_eq_ok_iff.mp haccept
  -- a server that answers with what fits
  let fills := bound.bindings.map fun b => fill b.host
  let script' : Script := ⟨.call fun _ => .ok fills, script.parameters, none⟩
  let server := Server.empty.register sql script'
  have hscript : server.script? sql = .ok script' := by
    simp [server, Server.register, Server.script?]
  have hreply' : (h.given options).reply bound.bindings server = .ok (.update 0, fills) :=
    Handle.reply_eq_ok_iff.mpr ⟨script', inputs, Handle.accept_eq_ok_iff.mpr
      ⟨hlive, ⟨sql, hprepared, hscript⟩, hlength, hinputs⟩, rfl⟩
  obtain ⟨bs, hbs⟩ : ∃ bs, Handle.fillOutputs bound.bindings fills = .ok () bs := by
    apply Handle.exists_fillOutputs_eq_ok
    intro i b v hb hv
    rw [List.getElem?_map, hb] at hv
    cases hv
    exact fits.receive b
  have hfilled : Parameters.Performed args options h server ps bound fills 0
      (bound.withBindings bs) :=
    ⟨hperformed.bind, ⟨.update 0, hreply', rfl⟩, ⟨bs, hbs, rfl⟩⟩
  obtain ⟨h₁, cursor₁, halike, hleaves⟩ := leaves_executeWith
    (s := ⟨some ⟨h, some ps⟩, cursor, options⟩) rfl args (.new server)
  refine ⟨_, h₁, bound.withBindings bs, cursor₁, .execution args (.new server) .none, ?_,
    ⟨hfilled.shape.symm, halike, fun _ _ => rfl⟩, ?_⟩
  · rw [hleaves]
    simp only [World.new, hfilled.leaves_transact]
  · intro i p hp hout
    obtain ⟨slot, q, b, -, hq, hbind, -⟩ := hfilled.parameter hp
    have hhost := Parameter.host_eq_of_shape_eq (Parameter.shape_of_bind hbind)
    have hv : fills[i]? = some (fill p.binding.host) := by
      rw [List.getElem?_map, Parameters.getElem?_bindings hq, Option.map_some, hhost]
    exact hfilled.output hp hv hout

/-- **What a history leaves is written back.**  The slot of an output parameter for which the
server has no output gets what an earlier execution filled in. -/
theorem exists_leftover (cursor : Option (Cursor ResultSet))
    (hperformed : Parameters.Performed args options h w.server ps bound outputs count ps')
    {fill : HostType → Value} (fits : Fits fill) {i : Nat} {p : Parameter}
    (hp : ps.items[i]? = some p) (hmode : p.binding.mode = .output) (hnone : outputs[i]? = none) :
    ∃ s slots slot args' c, History ⟨some ⟨h, some ps⟩, cursor, options⟩ s ∧
      ps.slotsFor args = .ok slots ∧ slots[i]? = some slot ∧
      outcome (executeWith (args, s, w)) = (.ok count, args') ∧
      (fill p.binding.host).canonical? p.binding.host = .ok c ∧
      args'.values[slot]? = some c := by
  obtain ⟨s, h₁, ps₁, cursor₁, history, rfl, common, hfilled⟩ :=
    exists_filled cursor hperformed fits
  rcases Parameters.perform_agree args common with
    ⟨e, _, _, herror, -⟩ | ⟨_, _, _, _, bound₂, ps₂, hfirst, hagain, -⟩
  · rw [Parameters.perform_eq_ok_iff.mpr ⟨bound, outputs, hperformed⟩] at herror
    cases herror
  obtain ⟨rfl, rfl⟩ := hfirst.unique hperformed
  obtain ⟨p₁, c, hp₁, hmode₁, hcanonical, houtput⟩ := hfilled i p hp (by rw [hmode]; rfl)
  have hleft := hagain.leftover hp₁ (hmode₁.trans hmode) hnone
  -- every output parameter was filled, so everything can be read now
  have hread : ∀ (k : Nat) (q₁ : Parameter), ps₁.items[k]? = some q₁ →
      q₁.binding.mode = .output → outputs[k]? = none → ∃ v, q₁.output = .ok v := by
    intro k q₁ hq₁ hmode' _
    obtain ⟨q, hq, hshape⟩ := common.shape.exists_item hq₁
    have hout : q.binding.mode.isOutput = true := by
      rw [Parameter.mode_eq_of_shape_eq hshape, hmode']
      rfl
    obtain ⟨q', c', hq', -, -, houtput'⟩ := hfilled k q hq hout
    cases hq'.symm.trans hq₁
    exact ⟨c', houtput'⟩
  obtain ⟨args', hback⟩ := hagain.exists_written hread
  obtain ⟨slots, items, hslots, -, rfl⟩ := Parameters.exists_slots_of_bind hagain.bind
  obtain ⟨-, hslots₂⟩ := hagain.resolution
  obtain ⟨slot, q, b, hslot, -⟩ := hagain.parameter hp₁
  obtain ⟨v, hv, hvalue⟩ := Parameters.getElem?_of_writeBack_output hback hagain.nodup_slots hleft
    (hslots₂ ▸ hslot) (by rw [hmode₁, hmode]; rfl)
  cases houtput.symm.trans hv
  refine ⟨_, slots, slot, args', c, history, ?_, hslot, ?_, hcanonical, hvalue⟩
  · rw [common.shape.slotsFor_eq args, hslots]
  · rw [outcome_executeWith rfl, hagain.transact_eq_ok hback]
    rfl

/-- **An execution is independent of its history** exactly when the server has an output for every
parameter that is only an output.  The history is any number of earlier executions; what counts
of the worlds is the reaction of the server to the text. -/
theorem executeWith_forgets_iff (h : Handle) (ps : Parameters)
    (cursor : Option (Cursor ResultSet)) (options : Options) (args : Arguments) (w : ClientWorld) :
    (∀ s₁ s₂ w₁ w₂, History ⟨some ⟨h, some ps⟩, cursor, options⟩ s₁ →
      History ⟨some ⟨h, some ps⟩, cursor, options⟩ s₂ →
      reaction h w₁.server = reaction h w.server → reaction h w₂.server = reaction h w.server →
      outcome (executeWith (args, s₁, w₁)) = outcome (executeWith (args, s₂, w₂))) ↔
    ∀ bound outputs count ps',
      Parameters.Performed args options h w.server ps bound outputs count ps' →
        ParameterMode.output ∉ ps.modes.drop outputs.length := by
  constructor
  · intro hforgets bound outputs count ps' hperformed hmem
    obtain ⟨j, hj⟩ := List.mem_iff_getElem?.mp hmem
    rw [List.getElem?_drop, Parameters.modes, List.getElem?_map, Option.map_eq_some_iff] at hj
    obtain ⟨p, hp, hmode⟩ := hj
    have hnone : outputs[outputs.length + j]? = none := List.getElem?_eq_none (by omega)
    -- one history leaves NULL in the buffer that is left over, another one does not
    obtain ⟨s₁, slots, slot, args₁, c₁, hs₁, hslots, hslot, hout₁, hc₁, hvalue₁⟩ :=
      exists_leftover cursor hperformed fits_null hp hmode hnone
    obtain ⟨s₂, slots', slot', args₂, c₂, hs₂, hslots', hslot', hout₂, hc₂, hvalue₂⟩ :=
      exists_leftover cursor hperformed fits_probe hp hmode hnone
    cases hslots.symm.trans hslots'
    cases hslot.symm.trans hslot'
    have hsame := hforgets s₁ s₂ w w hs₁ hs₂ rfl rfl
    rw [hout₁, hout₂] at hsame
    cases hsame
    cases hvalue₁.symm.trans hvalue₂
    cases (Value.canonical?_null p.binding.host).symm.trans hc₁
    exact canonical?_probe p.binding.host hc₂
  · intro covered s₁ s₂ w₁ w₂ hs₁ hs₂ hreaction₁ hreaction₂
    rw [hs₁.outcome_eq hreaction₁ covered, hs₂.outcome_eq hreaction₂ covered]

/-- The server has no output the second time, and the argument gets the output of the first. -/
theorem executeWith_remembers :
    let p : Parameter := ⟨none, .varcharAscii, 10, 10, 0, 10, ⟨.text, .output, .new 40⟩⟩
    let s : Statement :=
      ⟨some ⟨{ Handle.new with prepared := some "CALL P(?)" }, some ⟨[p], false, []⟩⟩, none, .empty⟩
    let world (action : Action) : ClientWorld := .new (Server.empty.register "CALL P(?)"
      ⟨action, [ParameterDescription.ofLength 31 10 .output], none⟩)
    ∃ s', History s s' ∧
      outcome (executeWith (.positional [.null], s, world (.update 0))) =
        (.ok 0, .positional [.text ""]) ∧
      outcome (executeWith (.positional [.null], s', world (.update 0))) =
        (.ok 0, .positional [.text "SECRET"]) := by
  intro p s world
  exact ⟨_, .execution (.positional [.null]) (world (.call fun _ => .ok [.text "SECRET"])) .none,
    by cbv, by cbv⟩

end Statement
end SqlClient
