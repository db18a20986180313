import SqlClient.Proofs.NameResolution
import SqlClient.Proofs.TransferRoundTrip

/-! # Where binding stops

Arguments are written into the buffers one parameter after the other.  An argument that does not
fit its parameter (`Parameter.Fits`) stops this: the parameters before it have their new arguments,
and nothing else has changed (`Parameters.StopsAt`).

Only a parameter that takes input refuses an argument, and what it held before has no influence on
that.  So parameters and arguments alone decide whether binding stops and where
(`bind_stops_at_first_misfit`).  The error counts the parameters, also if the arguments are named
and come in another order.
-/
namespace SqlClient

/-- What does not convert is refused for that, and not for its length. -/
theorem Buffer.conversion_of_not_becomes {b : Buffer} {host : HostType} {v : Value} {e : Error}
    (hnone : ∀ u n, ¬ v.Becomes host u n) (h : b.encode host v = .error e) :
    ∃ fault, e = .conversion fault := by
  unfold encode at h
  split at h
  · cases h
  · cases host with
    | int32 => exact (v.toInt32?_fails).map _ e h
    | int64 => exact (v.toInt64?_fails).map _ e h
    | double => exact (v.toDouble?_fails).map _ e h
    | bytes | blob =>
      rcases bind_eq_error h with hconvert | ⟨data, hdata, -⟩
      · exact v.toBytes?_fails e hconvert
      · exact absurd (.bytes (by decide) hdata) (hnone _ _)
    | decimal | text | clob =>
      rcases bind_eq_error h with hconvert | ⟨s, hs, -⟩
      · exact v.toText?_fails e hconvert
      · exact absurd (.text (by decide) hs) (hnone _ _)

namespace Parameter

variable {p p' : Parameter} {position : Nat} {v : Value} {e : Error}

/-! ## One parameter -/

/-- **The value fits the parameter**: it is NULL, or it converts and its variable-length form has
room. -/
def Fits (p : Parameter) (v : Value) : Prop :=
  v.isNullInput = true ∨ ∃ u n, v.Becomes p.binding.host u n ∧
    (p.binding.host.fixedSize? = none → n ≤ p.maxBytes)

/-- **What is said of a value that does not fit**: it is longer than the parameter allows, or it
does not convert. -/
inductive Misfit (p : Parameter) (position : Nat) (v : Value) : Error → Prop where
  | tooLong {u : Value} {n : Nat} : v.Becomes p.binding.host u n → p.maxBytes < n →
      Misfit p position v (.valueTooLong position n p.maxBytes)
  | conversion (fault : ConversionFault) : (∀ u n, ¬ v.Becomes p.binding.host u n) →
      Misfit p position v (.conversion fault)

/-- What is too long is too long at its place. -/
theorem Misfit.place_eq {place n room : Nat}
    (h : p.Misfit position v (.valueTooLong place n room)) : place = position := by
  cases h
  rfl

/-- A value that was encoded fits. -/
theorem fits_of_encode {buffer : Buffer}
    (h : p.binding.buffer.encode p.binding.host v = .ok buffer) : p.Fits v := by
  cases hnull : v.isNullInput with
  | true => exact .inl hnull
  | false =>
    obtain ⟨u, n, hbecomes, -⟩ := Buffer.holds_of_encode hnull h
    refine .inr ⟨u, n, hbecomes, fun hvariable => Nat.not_lt.mp fun hlong => ?_⟩
    cases (Buffer.encode_of_long hnull hbecomes hvariable hlong).symm.trans h

/-- A value that fits is encoded. -/
theorem Fits.encode (h : p.Fits v) :
    ∃ buffer, p.binding.buffer.encode p.binding.host v = .ok buffer := by
  cases hnull : v.isNullInput with
  | true => exact ⟨_, Buffer.encode_of_isNullInput hnull _ _⟩
  | false =>
    rcases h with hinput | ⟨u, n, hbecomes, hroom⟩
    · cases hnull.symm.trans hinput
    · exact Buffer.encode_of_becomes hnull hbecomes hroom

/-- A value that was bound as an input fits. -/
theorem fits_of_bind (h : p.bind position v = .ok p') (hin : p.binding.mode.isInput = true) :
    p.Fits v := by
  obtain ⟨buffer, hencode, -⟩ := bind_eq_ok h hin
  exact fits_of_encode hencode

/-- **Only an input that does not fit is refused**, and the error says why it does not. -/
theorem misfit_of_bind (h : p.bind position v = .error e) :
    p.binding.mode.isInput = true ∧ ¬ p.Fits v ∧ p.Misfit position v e := by
  have hin : p.binding.mode.isInput = true := by
    by_contra hout
    cases (bind_of_not_isInput (Bool.eq_false_iff.mpr hout)).symm.trans h
  rw [bind, if_pos hin] at h
  cases hencode : p.binding.buffer.encode p.binding.host v with
  | ok buffer =>
    rw [hencode] at h
    cases h
  | error refusal =>
    have hmisfit : ¬ p.Fits v := fun hfits => by
      obtain ⟨buffer, hok⟩ := hfits.encode
      cases hok.symm.trans hencode
    refine ⟨hin, hmisfit, ?_⟩
    rcases Buffer.misfit_of_encode_error hencode with hnone | ⟨hvariable, u, n, hbecomes, hlong⟩
    · obtain ⟨fault, rfl⟩ := Buffer.conversion_of_not_becomes hnone hencode
      rw [hencode] at h
      cases h
      exact .conversion fault hnone
    · have hnull := Buffer.isNullInput_of_encode_error hencode
      rw [Buffer.encode_of_long hnull hbecomes hvariable hlong] at h
      cases h
      exact .tooLong hbecomes hlong

end Parameter

namespace Parameters

variable {items items' : List Parameter} {values : List Value} {position : Nat} {e : Error}

/-! ## One parameter after the other -/

/-- **Binding that fails stops at one parameter**: those before it are bound, and those from it on
are as they were. -/
theorem exists_stop_of_bindFrom (h : bindFrom position items values = .error e items') :
    ∃ (k : Nat) (p : Parameter) (v : Value), items[k]? = some p ∧ values[k]? = some v ∧
      p.bind (position + k) v = .error e ∧
      (∀ j < k, ∃ (q : Parameter) (w : Value) (q' : Parameter), items[j]? = some q ∧
        values[j]? = some w ∧ items'[j]? = some q' ∧ q.bind (position + j) w = .ok q') ∧
      ∀ j, k ≤ j → items'[j]? = items[j]? := by
  induction items generalizing position values items' with
  | nil => simp [bindFrom] at h
  | cons p items ih =>
    cases values with
    | nil => simp [bindFrom] at h
    | cons v values =>
      cases hbind : p.bind position v with
      | error refusal =>
        rw [bindFrom_cons_error hbind] at h
        cases h
        exact ⟨0, p, v, rfl, rfl, hbind, fun j hj => absurd hj (Nat.not_lt_zero j),
          fun _ _ => rfl⟩
      | ok p' =>
        rw [bindFrom_cons_ok hbind] at h
        split at h
        · rename_i rest hrest
          cases h
          obtain ⟨k, q, w, hq, hw, hrefused, hbound, hkept⟩ := ih hrest
          -- The positions of the rest are counted from one place further on.
          have hshift (j : Nat) : position + (j + 1) = position + 1 + j := by omega
          refine ⟨k + 1, q, w, hq, hw, by rwa [hshift], fun j hj => ?_, fun j hj => ?_⟩
          · cases j with
            | zero => exact ⟨p, v, p', rfl, rfl, rfl, hbind⟩
            | succ j =>
              rw [hshift]
              exact hbound j (Nat.lt_of_succ_lt_succ hj)
          · cases j with
            | zero => cases hj
            | succ j => exact hkept j (Nat.le_of_succ_le_succ hj)
        · cases h

/-! ## Arguments in their slots -/

variable {ps ps' : Parameters} {args : Arguments} {slots : List Nat}

/-- The parameter at index `k` takes input, and the argument in its slot does not fit it. -/
def RefusesAt (ps : Parameters) (args : Arguments) (slots : List Nat) (k : Nat) : Prop :=
  ∃ (p : Parameter) (slot : Nat), ps.items[k]? = some p ∧ slots[k]? = some slot ∧
    p.binding.mode.isInput = true ∧ ¬ p.Fits (args.get slot)

/-- **What binding leaves that stops** at the parameter at index `k`. -/
structure StopsAt (ps : Parameters) (args : Arguments) (slots : List Nat) (k : Nat) (e : Error)
    (ps' : Parameters) : Prop where
  /-- It stops at the first argument that is refused. -/
  refuses : ps.RefusesAt args slots k
  first : ∀ j < k, ¬ ps.RefusesAt args slots j
  /-- The error is about this argument, and counts the parameters from one. -/
  misfit : ∃ (p : Parameter) (slot : Nat), ps.items[k]? = some p ∧ slots[k]? = some slot ∧
    p.Misfit (k + 1) (args.get slot) e
  /-- The inputs before it are bound. -/
  bound : ∀ j < k, ∀ (p : Parameter) (slot : Nat), ps.items[j]? = some p →
    slots[j]? = some slot → p.binding.mode.isInput = true →
      ∃ buffer, p.binding.buffer.encode p.binding.host (args.get slot) = .ok buffer ∧
        ps'.items[j]? = some (p.withBuffer buffer)
  /-- It and all after it are as they were. -/
  kept : ∀ j, k ≤ j → ps'.items[j]? = ps.items[j]?
  /-- Outputs are as they were. -/
  outputs : ∀ (j : Nat) (p : Parameter), ps.items[j]? = some p → p.binding.mode.isInput = false →
    ps'.items[j]? = some p

/-- Binding refuses arguments without slots for other reasons than their size. -/
theorem slotsFor_ne_tooSmall (ps : Parameters) (args : Arguments) (needed available : Nat) :
    ps.slotsFor args ≠ .error (.bufferTooSmall needed available) := by
  intro h
  unfold slotsFor at h
  split at h
  · cases h
  · cases args with
    | positional values =>
      simp only at h
      split at h <;> cases h
    | named entries =>
      obtain ⟨k, name, -, he, -⟩ := slotsByName_error h
      cases he

/-- **Arguments that have slots stop at one parameter**, in the same way.  Positions count from
one. -/
theorem exists_stop_of_bind (hslots : ps.slotsFor args = .ok slots)
    (h : bind args ps = .error e ps') :
    ∃ (k : Nat) (p : Parameter) (slot : Nat), ps.items[k]? = some p ∧ slots[k]? = some slot ∧
      p.bind (k + 1) (args.get slot) = .error e ∧
      (∀ j < k, ∃ (q : Parameter) (slot : Nat) (q' : Parameter), ps.items[j]? = some q ∧
        slots[j]? = some slot ∧ ps'.items[j]? = some q' ∧
          q.bind (j + 1) (args.get slot) = .ok q') ∧
      ∀ j, k ≤ j → ps'.items[j]? = ps.items[j]? := by
  have hvalue {j : Nat} {v : Value} (hv : (slots.map args.get)[j]? = some v) :
      ∃ slot, slots[j]? = some slot ∧ args.get slot = v := by
    rwa [List.getElem?_map, Option.map_eq_some_iff] at hv
  rw [bind, hslots] at h
  simp only at h
  split at h
  · rename_i items hbound
    cases h
    obtain ⟨k, p, v, hp, hv, hrefused, hbefore, hkept⟩ := exists_stop_of_bindFrom hbound
    obtain ⟨slot, hslot, rfl⟩ := hvalue hv
    refine ⟨k, p, slot, hp, hslot, Nat.add_comm 1 k ▸ hrefused, fun j hj => ?_, hkept⟩
    obtain ⟨q, w, q', hq, hw, hq', hbind⟩ := hbefore j hj
    obtain ⟨taken, htaken, rfl⟩ := hvalue hw
    exact ⟨q, taken, q', hq, htaken, hq', Nat.add_comm 1 j ▸ hbind⟩
  · cases h

/-- **Binding that fails has stopped at the first misfit.** -/
theorem exists_stopsAt (hslots : ps.slotsFor args = .ok slots) (h : bind args ps = .error e ps') :
    ∃ k, ps.StopsAt args slots k e ps' := by
  obtain ⟨k, p, slot, hp, hslot, hrefused, hbefore, hkept⟩ := exists_stop_of_bind hslots h
  obtain ⟨hin, hmisfit, hsaid⟩ := Parameter.misfit_of_bind hrefused
  refine ⟨k, ⟨p, slot, hp, hslot, hin, hmisfit⟩, ?_, ⟨p, slot, hp, hslot, hsaid⟩, ?_, hkept, ?_⟩
  · rintro j hj ⟨q, taken, hq, htaken, hin', hmisfit'⟩
    obtain ⟨_, _, q', hq', htaken', -, hbind⟩ := hbefore j hj
    cases hq.symm.trans hq'
    cases htaken.symm.trans htaken'
    exact hmisfit' (Parameter.fits_of_bind hbind hin')
  · intro j hj q taken hq htaken hin'
    obtain ⟨_, _, q', hq', htaken', hafter, hbind⟩ := hbefore j hj
    cases hq.symm.trans hq'
    cases htaken.symm.trans htaken'
    obtain ⟨buffer, hencode, rfl⟩ := Parameter.bind_eq_ok hbind hin'
    exact ⟨buffer, hencode, hafter⟩
  · intro j q hq hout
    rcases Nat.lt_or_ge j k with hj | hj
    · obtain ⟨_, _, q', hq', -, hafter, hbind⟩ := hbefore j hj
      cases hq.symm.trans hq'
      cases (Parameter.bind_of_not_isInput hout).symm.trans hbind
      exact hafter
    · exact (hkept j hj).trans hq

/-- Binding that succeeds has refused nothing. -/
theorem not_refusesAt_of_bind (hslots : ps.slotsFor args = .ok slots)
    (h : bind args ps = .ok () ps') (k : Nat) : ¬ ps.RefusesAt args slots k := by
  rintro ⟨p, slot, hp, hslot, hin, hmisfit⟩
  obtain ⟨slots', items, hslots', hbound, -⟩ := exists_slots_of_bind h
  cases hslots.symm.trans hslots'
  have hv : (slots.map args.get)[k]? = some (args.get slot) := by
    rw [List.getElem?_map, hslot, Option.map_some]
  obtain ⟨p', -, hbind⟩ := getElem?_of_bindFrom hbound hp hv
  exact hmisfit (Parameter.fits_of_bind hbind hin)

/-- **Binding stops at the first argument that does not fit its parameter**, and nowhere else.
Arguments without slots change nothing. -/
theorem bind_stops_at_first_misfit (ps : Parameters) (args : Arguments) :
    (∀ e, ps.slotsFor args = .error e → bind args ps = .error e ps) ∧
    (∀ needed available ps', bind args ps ≠ .error (.bufferTooSmall needed available) ps') ∧
    ∀ slots, ps.slotsFor args = .ok slots → Resolution ps args slots ∧
      ((∃ e ps', bind args ps = .error e ps') ↔ ∃ k, ps.RefusesAt args slots k) ∧
      ∀ e ps', bind args ps = .error e ps' →
        (∃ k, ps.StopsAt args slots k e ps') ∧ ps'.SameShape ps ∧ ps'.slots = slots := by
  have hchecks (e : Error) (hslots : ps.slotsFor args = .error e) :
      bind args ps = .error e ps := by
    rw [bind, hslots]
  refine ⟨hchecks, fun needed available ps' h => ?_, fun slots hslots => ?_⟩
  · cases hslots : ps.slotsFor args with
    | error e =>
      cases (hchecks e hslots).symm.trans h
      exact slotsFor_ne_tooSmall ps args _ _ hslots
    | ok slots =>
      obtain ⟨k, hstops⟩ := exists_stopsAt hslots h
      obtain ⟨p, slot, -, -, hsaid⟩ := hstops.misfit
      cases hsaid
  · refine ⟨resolution_of_slotsFor hslots, ⟨?_, ?_⟩, fun e ps' h => ?_⟩
    · rintro ⟨e, ps', h⟩
      obtain ⟨k, hstops⟩ := exists_stopsAt hslots h
      exact ⟨k, hstops.refuses⟩
    · rintro ⟨k, hrefuses⟩
      cases h : bind args ps with
      | ok _ ps' => exact absurd hrefuses (not_refusesAt_of_bind hslots h k)
      | error e ps' => exact ⟨e, ps', rfl⟩
    · have hshape := shape_bind args ps
      have hslotsAfter := (bind_of_slotsFor hslots).1
      rw [h, leaves_error] at hshape hslotsAfter
      exact ⟨exists_stopsAt hslots h, hshape, hslotsAfter⟩

/-- Arguments in another order than the parameters.  The one in front is too long for the second
parameter; the third does not convert either. -/
theorem bind_stops_at_first_misfit_reordered :
    let ds := [.ofDigits 5 0 .input, .ofLength SqlType.varcharAscii.code 1 .inputOutput,
      .ofDigits 5 0 .input]
    let args : Arguments := .named [(":b", .text "longer"), ("C", .text "x"), ("a", .int32 7)]
    ∃ ps ps', ofDescriptions .unicode "CALL P(:A, :B, :C)" ds = .ok ps ∧
      ps.slotsFor args = .ok [2, 0, 1] ∧ bind args ps = .error (.valueTooLong 2 6 4) ps' ∧
      ps.StopsAt args [2, 0, 1] 1 (.valueTooLong 2 6 4) ps' := by
  intro ds args
  have hrun : ∃ ps ps', ofDescriptions .unicode "CALL P(:A, :B, :C)" ds = .ok ps ∧
      ps.slotsFor args = .ok [2, 0, 1] ∧ bind args ps = .error (.valueTooLong 2 6 4) ps' :=
    ⟨_, _, by cbv, by rfl, by cbv⟩
  obtain ⟨ps, ps', hps, hslots, hbind⟩ := hrun
  obtain ⟨-, -, hstops⟩ := (bind_stops_at_first_misfit ps args).2.2 _ hslots
  obtain ⟨⟨k, hk⟩, -, -⟩ := hstops _ ps' hbind
  obtain ⟨p, slot, -, -, hsaid⟩ := hk.misfit
  obtain rfl : 1 = k := Nat.succ.inj hsaid.place_eq
  exact ⟨ps, ps', hps, hslots, hbind, hk⟩

end Parameters
end SqlClient
