import SqlClient.Proofs.ArgumentTransfer

/-! # The order of named arguments

Named arguments find their parameters by name, so that the order they are listed in does not
matter.  `Reordered` are two lists of the same arguments, where names count by their keys and every
name occurs once.  The two lists give the parameters different slots, and this is the only
difference between two executions with them: the same values are bound, so that the server cannot
tell the executions apart, and outputs go back to the same names.

What is left of a statement without its slots is `Statement.unslotted`.  Nothing but writing back
looks at the slots (`Blind`).
-/
namespace SqlClient

open Scripted

/-! ## Steps that do not look at a part of the state -/

section Blind
variable {ε σ α β : Type} {f : σ → σ}

/-- The result of an operation with a part of the state blanked out. -/
def mapState (f : σ → σ) : EStateM.Result ε σ α → EStateM.Result ε σ α
  | .ok a s => .ok a (f s)
  | .error e s => .error e (f s)

/-- An operation that does not look at what is blanked out, and keeps it. -/
def Blind (f : σ → σ) (op : EStateM ε σ α) : Prop := ∀ s, op (f s) = mapState f (op s)

theorem mapState_eq_ok {r : EStateM.Result ε σ α} {a : α} {s : σ}
    (h : mapState f (.ok a s) = mapState f r) : ∃ s', r = .ok a s' ∧ f s' = f s := by
  cases r with
  | ok a' s' =>
    obtain ⟨rfl, hs⟩ := EStateM.Result.ok.inj h
    exact ⟨s', rfl, hs.symm⟩
  | error e s' => cases h

theorem mapState_eq_error {r : EStateM.Result ε σ α} {e : ε} {s : σ}
    (h : mapState f (.error e s) = mapState f r) : ∃ s', r = .error e s' ∧ f s' = f s := by
  cases r with
  | ok a' s' => cases h
  | error e' s' =>
    obtain ⟨rfl, hs⟩ := EStateM.Result.error.inj h
    exact ⟨s', rfl, hs.symm⟩

/-- **Two runs that differ in what is blanked out** go on in the same way. -/
theorem mapState_bind {x x' : EStateM ε σ α} {g : α → EStateM ε σ β} {s s' : σ}
    (hfirst : mapState f (x s) = mapState f (x' s')) (hnext : ∀ a, Blind f (g a)) :
    mapState f ((x >>= g) s) = mapState f ((x' >>= g) s') := by
  cases hx : x s with
  | error e t =>
    rw [hx] at hfirst
    obtain ⟨t', hx', ht⟩ := mapState_eq_error hfirst
    rw [run_bind_error hx, run_bind_error hx']
    exact congrArg (EStateM.Result.error e) ht.symm
  | ok a t =>
    rw [hx] at hfirst
    obtain ⟨t', hx', ht⟩ := mapState_eq_ok hfirst
    rw [run_bind_ok hx, run_bind_ok hx', ← hnext a t, ← hnext a t', ht]

theorem Blind.bind {x : EStateM ε σ α} {g : α → EStateM ε σ β} (hx : Blind f x)
    (hg : ∀ a, Blind f (g a)) : Blind f (x >>= g) := by
  intro s
  cases hs : x s with
  | error e t =>
    rw [run_bind_error hs, run_bind_error (by rw [hx s, hs]; rfl)]
    rfl
  | ok a t =>
    rw [run_bind_ok hs, ← hg a t, run_bind_ok (by rw [hx s, hs]; rfl)]

end Blind

/-! ## Lists of named arguments -/

namespace Arguments

variable {entries entries' : List (String × Value)} {slot slot' : Nat}

/-- The keys of named arguments, in their order. -/
def keys (entries : List (String × Value)) : List (List Char) :=
  entries.map fun entry => key entry.1

/-- Named arguments without the spelling of their names. -/
def keyed (entries : List (String × Value)) : List (List Char × Value) :=
  entries.map fun entry => (key entry.1, entry.2)

theorem keys_eq_of_names (h : entries.map (·.1) = entries'.map (·.1)) :
    keys entries = keys entries' := by
  have hkeys := congrArg (List.map key) h
  rwa [List.map_map, List.map_map] at hkeys

theorem map_fst_keyed (entries : List (String × Value)) :
    (keyed entries).map (·.1) = keys entries := by
  simp [keyed, keys]

/-- The argument in a slot is given by its key and its value. -/
theorem getElem?_keyed_eq (hkey : (keys entries)[slot]? = (keys entries')[slot']?)
    (hvalue : (named entries).values[slot]? = (named entries').values[slot']?) :
    (keyed entries)[slot]? = (keyed entries')[slot']? := by
  simp only [keys, values, keyed, List.getElem?_map] at hkey hvalue ⊢
  revert hkey hvalue
  cases entries[slot]? <;> cases entries'[slot']? <;> simp +contextual

theorem values_eq_of_keyed (h : (keyed entries)[slot]? = (keyed entries')[slot']?) :
    (named entries).values[slot]? = (named entries').values[slot']? := by
  have hvalues := congrArg (Option.map Prod.snd) h
  simpa [keyed, values, Function.comp_def] using hvalues

/-- Named arguments keep their form when they keep their names. -/
theorem exists_named {args : Arguments} {names : List String} (h : args.names? = some names) :
    ∃ entries, args = .named entries ∧ entries.map (·.1) = names := by
  cases args with
  | positional values => cases h
  | named entries => exact ⟨entries, rfl, Option.some.inj h⟩

/-- **The same named arguments in two orders.**  Every name occurs once, and is the name of a
parameter.  Names count by their keys. -/
structure Reordered (ps : Parameters) (entries entries' : List (String × Value)) : Prop where
  same : (keyed entries).Perm (keyed entries')
  distinct : (keys entries).Nodup
  matched : ∀ x ∈ keys entries, x ∈ Parameters.keys ps.items

namespace Reordered

variable {ps : Parameters}

theorem keys_perm (h : Reordered ps entries entries') : (keys entries).Perm (keys entries') := by
  have hkeys := h.same.map Prod.fst
  rwa [map_fst_keyed, map_fst_keyed] at hkeys

theorem length_eq (h : Reordered ps entries entries') : entries.length = entries'.length := by
  simpa [keys] using h.keys_perm.length_eq

theorem symm (h : Reordered ps entries entries') : Reordered ps entries' entries where
  same := h.same.symm
  distinct := h.keys_perm.nodup_iff.mp h.distinct
  matched := fun x hx => h.matched x (h.keys_perm.mem_iff.mpr hx)

/-- **Slots of one key hold the same value.** -/
theorem getElem?_eq (h : Reordered ps entries entries')
    (hkey : (keys entries)[slot]? = (keys entries')[slot']?) :
    (keyed entries)[slot]? = (keyed entries')[slot']? := by
  rw [← map_fst_keyed, ← map_fst_keyed, List.getElem?_map, List.getElem?_map] at hkey
  cases hentry : (keyed entries)[slot]? with
  | none =>
    rw [hentry] at hkey
    simpa [eq_comm] using hkey
  | some entry =>
    rw [hentry] at hkey
    obtain ⟨entry', hentry', hfst⟩ := Option.map_eq_some_iff.mp hkey.symm
    -- both are entries of the same list, in which no key occurs twice
    have hmem := List.mem_of_getElem? hentry
    have hmem' := h.same.mem_iff.mpr (List.mem_of_getElem? hentry')
    have hdistinct := h.distinct
    rw [← map_fst_keyed] at hdistinct
    rw [hentry', List.inj_on_of_nodup_map hdistinct hmem' hmem hfst]

/-- As many arguments as parameters are resolved. -/
theorem exists_slots (h : Reordered ps entries entries') (hsize : entries.length = ps.size) :
    ∃ slots, ps.slotsFor (.named entries) = .ok slots := by
  have hlength : entries.length = ps.items.length := hsize
  rw [Parameters.slotsFor_named hsize, Parameters.slotsByName_ok_iff (by simpa using hlength),
    List.map_map]
  -- the keys are distinct and all of them asked for, so there are no others when they are as many
  refine (List.subperm_of_subset h.distinct h.matched).perm_of_length_le ?_
  calc (Parameters.keys ps.items).length ≤ ps.items.length := List.length_filterMap_le _ _
    _ = (keys entries).length := by rw [keys, List.length_map, hsize, Parameters.size]

/-- Both lists are refused for the same reason, or both are resolved. -/
theorem slotsFor_cases (h : Reordered ps entries entries') :
    (∃ e, ps.slotsFor (.named entries) = .error e ∧ ps.slotsFor (.named entries') = .error e) ∨
    ∃ slots slots', ps.slotsFor (.named entries) = .ok slots ∧
      ps.slotsFor (.named entries') = .ok slots' := by
  by_cases hsize : entries.length = ps.size
  · obtain ⟨slots, hslots⟩ := h.exists_slots hsize
    obtain ⟨slots', hslots'⟩ := h.symm.exists_slots (h.length_eq ▸ hsize)
    exact .inr ⟨slots, slots', hslots, hslots'⟩
  · have hsize' : (named entries).size ≠ ps.size := by simpa [size, values] using hsize
    have heq : (named entries').size = (named entries).size := by
      simp [size, values, h.length_eq]
    refine .inl ⟨.argumentCount ps.size (named entries).size ps.named, ?_, ?_⟩
    · exact Parameters.slotsFor_of_ne_size hsize'
    · rw [← heq]
      exact Parameters.slotsFor_of_ne_size (heq ▸ hsize')

variable {slots slots' : List Nat}

/-- **Every parameter finds the same argument in both lists.** -/
theorem getElem?_slot_eq (h : Reordered ps entries entries')
    (hres : Parameters.Resolution ps (.named entries) slots)
    (hres' : Parameters.Resolution ps (.named entries') slots') {i : Nat} {p : Parameter}
    (hp : ps.items[i]? = some p) (hslot : slots[i]? = some slot)
    (hslot' : slots'[i]? = some slot') :
    (keys entries)[slot]? = (keys entries')[slot']? ∧
      (keyed entries)[slot]? = (keyed entries')[slot']? := by
  have hkey := hres.carries entries rfl i p slot hp hslot
  have hkey' := hres'.carries entries' rfl i p slot' hp hslot'
  have hkeys : (keys entries)[slot]? = (keys entries')[slot']? := hkey.symm.trans hkey'
  exact ⟨hkeys, h.getElem?_eq hkeys⟩

/-- The same values are bound, parameter by parameter. -/
theorem map_get_eq (h : Reordered ps entries entries')
    (hres : Parameters.Resolution ps (.named entries) slots)
    (hres' : Parameters.Resolution ps (.named entries') slots') :
    slots.map (named entries).get = slots'.map (named entries').get := by
  have hlength : slots.length = ps.size := by simpa using hres.perm.length_eq
  have hlength' : slots'.length = ps.size := by simpa using hres'.perm.length_eq
  apply List.ext_getElem (by simp [hlength, hlength'])
  intro i hi hi'
  rw [List.length_map] at hi hi'
  have hp : ps.items[i]? = some ps.items[i] := List.getElem?_eq_getElem (by rwa [hlength] at hi)
  have hkeyed := (h.getElem?_slot_eq hres hres' hp (List.getElem?_eq_getElem hi)
    (List.getElem?_eq_getElem hi')).2
  simp [get, values_eq_of_keyed hkeyed]

end Reordered
end Arguments

/-! ## Parameters without their slots -/

namespace Parameters

variable {ps qs : Parameters} {args args' : Arguments} {entries entries' after after' :
  List (String × Value)}

/-- The parameters without their slots. -/
def unslotted (ps : Parameters) : Parameters := { ps with slots := [] }

/-- **The same parameters hold the same values** after both lists were bound. -/
theorem bind_reordered (reordered : Arguments.Reordered ps entries entries') :
    mapState unslotted (bind (.named entries) ps) =
      mapState unslotted (bind (.named entries') ps) := by
  rcases reordered.slotsFor_cases with ⟨e, hslots, hslots'⟩ | ⟨slots, slots', hslots, hslots'⟩
  · rw [bind, bind, hslots, hslots']
  · have hvalues := reordered.map_get_eq (resolution_of_slotsFor hslots)
      (resolution_of_slotsFor hslots')
    simp only [bind, hslots, hslots', hvalues]
    cases bindFrom 1 ps.items (slots'.map (Arguments.named entries').get) <;> rfl

theorem replaced_eq (hitems : ps.items = qs.items)
    (hvalues : ps.slots.map args.get = qs.slots.map args'.get) :
    ps.replaced args = qs.replaced args' := by
  have hzip (ps : Parameters) (args : Arguments) : ps.replaced args =
      ((ps.items.zip (ps.slots.map args.get)).filter fun (p, _) =>
        p.binding.mode.isOutput).map Prod.snd := by
    rw [replaced, List.zip_map_right, List.filter_map, List.map_map]
    rfl
  rw [hzip, hzip, hitems, hvalues]

/-- What is read does not depend on the slots. -/
theorem values_of_outputs (hlength : ps.slots.length = ps.items.length) :
    ps.outputs.map (List.map Prod.snd) =
      (ps.items.filter fun p => p.binding.mode.isOutput).mapM Parameter.output := by
  have hread (entry : Parameter × Nat) :
      (entry.1.output.map fun v => (entry.2, v)).map Prod.snd = entry.1.output := by
    cases entry.1.output <;> rfl
  have hfirst := List.map_fst_zip hlength.ge
  rw [outputs, map_mapM]
  simp only [hread]
  conv_rhs => rw [← hfirst, List.filter_map, List.mapM_map]
  rfl

/-- Outputs that cannot be read are the same. -/
theorem outputs_error_of_items_eq {e : Error} (hitems : ps.items = qs.items)
    (hlength : ps.slots.length = ps.items.length) (hlength' : qs.slots.length = qs.items.length)
    (h : ps.outputs = .error e) : qs.outputs = .error e := by
  have hread := values_of_outputs hlength'
  rw [← hitems, ← values_of_outputs hlength, h] at hread
  cases houtputs : qs.outputs with
  | error e' =>
    rw [houtputs] at hread
    cases hread
    rfl
  | ok written =>
    rw [houtputs] at hread
    cases hread

/-- Two lists are the same up to their order when two lists of all their slots say so. -/
theorem perm_of_slots {α : Type} {l l' : List α} {slots slots' : List Nat}
    (hslots : slots.Perm (List.range l.length)) (hslots' : slots'.Perm (List.range l'.length))
    (heq : slots.map (l[·]?) = slots'.map (l'[·]?)) : l.Perm l' := by
  have hall (l : List α) : (List.range l.length).map (l[·]?) = l.map some := by
    apply List.ext_getElem (by simp)
    simp +contextual
  have hperm : (l.map some).Perm (l'.map some) := by
    rw [← hall l, ← hall l']
    exact (hslots.map _).symm.trans (heq ▸ hslots'.map _)
  exact (List.map_perm_map_iff (Option.some_injective α)).mp hperm

/-- The parameters `qs` after an execution of `ps` with `entries`, whose outputs were written back
and made them `after`. -/
structure WrittenBack (ps qs : Parameters) (entries after : List (String × Value)) : Prop where
  resolution : Resolution ps (.named entries) qs.slots
  sizes : entries.length = ps.size ∧ qs.items.length = ps.size
  result : qs.writeBack (.named entries) = .ok (.named after)

namespace WrittenBack

variable {rs : Parameters}

theorem names (h : WrittenBack ps qs entries after) :
    after.map (·.1) = entries.map (·.1) := by
  obtain ⟨written, -, hassign⟩ := writeBack_eq_ok h.result
  exact Option.some.inj (names?_assign hassign)

theorem nodup_slots (h : WrittenBack ps qs entries after) : qs.slots.Nodup :=
  h.resolution.nodup

theorem length_slots (h : WrittenBack ps qs entries after) : qs.slots.length = ps.size := by
  simpa using h.resolution.perm.length_eq

/-- The parameters have taken all the slots of the arguments. -/
theorem perm_slots (h : WrittenBack ps qs entries after) :
    qs.slots.Perm (List.range (Arguments.keyed after).length) := by
  have hlength : after.length = entries.length := by simpa using congrArg List.length h.names
  rw [Arguments.keyed, List.length_map, hlength, h.sizes.1]
  exact h.resolution.perm

/-- **A parameter leaves the same name and value** in both lists: its output, or the argument that
was bound. -/
theorem getElem?_eq (h : WrittenBack ps qs entries after) (h' : WrittenBack ps rs entries' after')
    (reordered : Arguments.Reordered ps entries entries') (hitems : qs.items = rs.items) {i : Nat}
    (hi : i < ps.size) {slot slot' : Nat} (hslot : qs.slots[i]? = some slot)
    (hslot' : rs.slots[i]? = some slot') :
    (Arguments.keyed after)[slot]? = (Arguments.keyed after')[slot']? := by
  obtain ⟨p, hp⟩ : ∃ p, ps.items[i]? = some p := ⟨_, List.getElem?_eq_getElem hi⟩
  obtain ⟨q, hq⟩ : ∃ q, qs.items[i]? = some q :=
    ⟨_, List.getElem?_eq_getElem (by rwa [h.sizes.2])⟩
  obtain ⟨hkey, hargument⟩ :=
    reordered.getElem?_slot_eq h.resolution h'.resolution hp hslot hslot'
  apply Arguments.getElem?_keyed_eq
  · rwa [Arguments.keys_eq_of_names h.names, Arguments.keys_eq_of_names h'.names]
  · cases hout : q.binding.mode.isOutput with
    | true =>
      obtain ⟨v, hv, hvalue⟩ := getElem?_of_writeBack_output h.result h.nodup_slots hq hslot hout
      obtain ⟨v', hv', hvalue'⟩ :=
        getElem?_of_writeBack_output h'.result h'.nodup_slots (hitems ▸ hq) hslot' hout
      cases hv.symm.trans hv'
      rw [hvalue, hvalue']
    | false =>
      rw [getElem?_of_writeBack_input h.result h.nodup_slots hq hslot hout,
        getElem?_of_writeBack_input h'.result h'.nodup_slots (hitems ▸ hq) hslot' hout]
      exact Arguments.values_eq_of_keyed hargument

/-- **Outputs go back to the same names.** -/
theorem perm (h : WrittenBack ps qs entries after) (h' : WrittenBack ps rs entries' after')
    (reordered : Arguments.Reordered ps entries entries') (hitems : qs.items = rs.items) :
    (Arguments.keyed after).Perm (Arguments.keyed after') := by
  apply perm_of_slots h.perm_slots h'.perm_slots
  apply List.ext_getElem (by simp [h.length_slots, h'.length_slots])
  intro i hi hi'
  rw [List.length_map] at hi hi'
  rw [List.getElem_map, List.getElem_map]
  exact h.getElem?_eq h' reordered hitems (by rwa [h.length_slots] at hi)
    (List.getElem?_eq_getElem hi) (List.getElem?_eq_getElem hi')

end WrittenBack

section Performed
variable {options : Options} {h : Handle} {server : Server} {bound bound' rs : Parameters}
  {outputs outputs' : List Value} {count count' : Int}

theorem Performed.slots_resolution
    (hperformed : Performed args options h server ps bound outputs count qs) :
    Resolution ps args qs.slots := by
  obtain ⟨hres, hslots⟩ := hperformed.resolution
  rwa [hslots]

theorem Performed.length_slots
    (hperformed : Performed args options h server ps bound outputs count qs) :
    qs.slots.length = qs.items.length := by
  have hlength : qs.items.length = ps.size := hperformed.shape.size_eq
  rw [hlength]
  simpa using hperformed.slots_resolution.perm.length_eq

theorem Performed.writtenBack
    (hperformed : Performed (.named entries) options h server ps bound outputs count qs)
    (hback : qs.writeBack (.named entries) = .ok args') :
    ∃ after, args' = .named after ∧ WrittenBack ps qs entries after := by
  obtain ⟨written, -, hassign⟩ := writeBack_eq_ok hback
  obtain ⟨after, rfl, -⟩ := Arguments.exists_named (names?_assign hassign)
  obtain ⟨slots, items, hfound, -, -⟩ := exists_slots_of_bind hperformed.bind
  have hsize : entries.length = ps.size := by
    simpa [Arguments.size, Arguments.values] using size_eq_of_slotsFor hfound
  exact ⟨after, rfl, hperformed.slots_resolution, ⟨hsize, hperformed.shape.size_eq⟩, hback⟩

/-- **Both executions write back, or neither can read an output.** -/
theorem writeBack_reordered (reordered : Arguments.Reordered ps entries entries')
    (hperformed : Performed (.named entries) options h server ps bound outputs count qs)
    (hperformed' : Performed (.named entries') options h server ps bound' outputs' count' rs)
    (hitems : qs.items = rs.items) :
    (∃ e, qs.writeBack (.named entries) = .error e ∧ rs.writeBack (.named entries') = .error e) ∨
    ∃ after after', qs.writeBack (.named entries) = .ok (.named after) ∧
      rs.writeBack (.named entries') = .ok (.named after') ∧
      after.map (·.1) = entries.map (·.1) ∧ after'.map (·.1) = entries'.map (·.1) ∧
      (Arguments.keyed after).Perm (Arguments.keyed after') := by
  cases hback : qs.writeBack (.named entries) with
  | error e =>
    have hread := outputs_error_of_items_eq hitems hperformed.length_slots
      hperformed'.length_slots (outputs_of_writeBack_error hback hperformed.slot_lt)
    exact .inl ⟨e, rfl, by rw [writeBack, hread]; rfl⟩
  | ok args =>
    cases hback' : rs.writeBack (.named entries') with
    | error e =>
      have hread := outputs_error_of_items_eq hitems.symm hperformed'.length_slots
        hperformed.length_slots (outputs_of_writeBack_error hback' hperformed'.slot_lt)
      rw [writeBack, hread] at hback
      cases hback
    | ok args' =>
      obtain ⟨after, rfl, hwritten⟩ := hperformed.writtenBack hback
      obtain ⟨after', rfl, hwritten'⟩ := hperformed'.writtenBack hback'
      exact .inr ⟨after, after', rfl, rfl, hwritten.names, hwritten'.names,
        hwritten.perm hwritten' reordered hitems⟩

end Performed
end Parameters

/-! ## Executions -/

namespace Statement

variable {s s' : Statement} {h : Handle} {ps : Parameters} {args args' : Arguments}
  {entries entries' : List (String × Value)}

/-- The statement without the slots of its parameters. -/
def unslotted (s : Statement) : Statement :=
  { s with link := s.link.map fun link =>
      { link with parameters := link.parameters.map Parameters.unslotted } }

/-- The same where the world goes with it. -/
abbrev unslot (state : Statement × ClientWorld) : Statement × ClientWorld :=
  (state.1.unslotted, state.2)

theorem blind_executeBound : Blind unslot executeBound := by
  rintro ⟨⟨_ | ⟨h, _ | ps⟩, cursor, options⟩, w⟩
  · rfl
  · rfl
  · have hbindings : ps.unslotted.bindings = ps.bindings := rfl
    simp only [executeBound, unslotted, Option.map_some, hbindings]
    cases Handle.executePrepared (ps.bindings, h, w.server) <;> rfl

theorem blind_takeResult (execution : Execution) : Blind unslot (takeResult execution) := by
  rintro ⟨s, w⟩
  cases execution with
  | update rowsAffected => rfl
  | query rows =>
    have hoptions : s.unslotted.options = s.options := rfl
    simp only [takeResult, hoptions]
    cases openCursor s.options rows w <;> rfl

/-- Binding does nothing but bind the parameters. -/
theorem mapState_bind_eq (hlink : s.link = some ⟨h, some ps⟩) (args : Arguments) (w : ClientWorld) :
    mapState unslot (bind args (s, w)) =
      match mapState Parameters.unslotted (Parameters.bind args ps) with
      | .ok () ps => .ok () ({ s with link := some ⟨h, some ps⟩ }, w)
      | .error e ps => .error e ({ s with link := some ⟨h, some ps⟩ }, w) := by
  rw [bind_eq hlink]
  cases Parameters.bind args ps <;> rfl

/-- **The server cannot tell the executions apart**: all steps up to the result are the same but
for the slots. -/
theorem perform_reordered (hlink : s.link = some ⟨h, some ps⟩)
    (reordered : Arguments.Reordered ps entries entries') (w : ClientWorld) :
    mapState unslot (perform (.named entries) (s, w)) =
      mapState unslot (perform (.named entries') (s, w)) := by
  obtain ⟨w₁, -, hrefresh⟩ := refresh_eq hlink w
  rw [perform, perform]
  split at hrefresh
  · rw [run_bind_error hrefresh, run_bind_error hrefresh]
  · rw [run_bind_ok hrefresh, run_bind_ok hrefresh]
    apply mapState_bind
    · rw [mapState_bind_eq rfl, mapState_bind_eq rfl, Parameters.bind_reordered reordered]
    · exact fun _ => blind_executeBound.bind blind_takeResult

/-- What an execution with a result leaves to be written back. -/
theorem exists_performed {count : Int} {w w' : ClientWorld} (hlink : s.link = some ⟨h, some ps⟩)
    (hperform : perform args (s, w) = .ok count (s', w')) :
    ∃ h' ps' bound outputs, s'.link = some ⟨h', some ps'⟩ ∧
      Parameters.Performed args s.options h w.server ps bound outputs count ps' := by
  obtain ⟨entries, h', cursor, w₁, -, -, -, hrun⟩ := perform_eq hlink args w
  rw [hperform] at hrun
  cases hresult : Parameters.perform args s.options h w.server ps with
  | error e ps' =>
    rw [hresult] at hrun
    cases hrun
  | ok count' ps' =>
    rw [hresult] at hrun
    cases hrun
    obtain ⟨bound, outputs, hperformed⟩ := Parameters.perform_eq_ok_iff.mp hresult
    exact ⟨h', ps', bound, outputs, rfl, hperformed⟩

/-- **The order of named arguments does not matter.**  An execution with the same named arguments in
another order has the same result or the same error.  It leaves the same world, the books of the
server and what they say about inputs included, and a statement that differs in nothing but the
slots.  In both lists every name has its place as before, and afterwards the same value. -/
theorem executeWith_reordered {w : ClientWorld} (linked : s.link = some ⟨h, some ps⟩)
    (reordered : Arguments.Reordered ps entries entries') :
    ∃ after after' s₁ s₁' w₁,
      ((∃ count, executeWith (.named entries, s, w) = .ok count (.named after, s₁, w₁) ∧
          executeWith (.named entries', s, w) = .ok count (.named after', s₁', w₁)) ∨
        ∃ e, executeWith (.named entries, s, w) = .error e (.named after, s₁, w₁) ∧
          executeWith (.named entries', s, w) = .error e (.named after', s₁', w₁)) ∧
      s₁'.unslotted = s₁.unslotted ∧
      after.map (·.1) = entries.map (·.1) ∧ after'.map (·.1) = entries'.map (·.1) ∧
      (Arguments.keyed after).Perm (Arguments.keyed after') := by
  have hsame := perform_reordered linked reordered w
  cases hperform : perform (.named entries) (s, w) with
  | error e state =>
    obtain ⟨s₁, w₁⟩ := state
    rw [hperform] at hsame
    obtain ⟨⟨s₁', w₁'⟩, hperform', hstate⟩ := mapState_eq_error hsame
    obtain ⟨hs, rfl⟩ := Prod.mk.inj hstate
    rw [executeWith_of_error linked hperform, executeWith_of_error linked hperform']
    exact ⟨entries, entries', s₁, s₁', w₁', .inr ⟨e, rfl, rfl⟩, hs, rfl, rfl, reordered.same⟩
  | ok count state =>
    obtain ⟨s₁, w₁⟩ := state
    rw [hperform] at hsame
    obtain ⟨⟨s₁', w₁'⟩, hperform', hstate⟩ := mapState_eq_ok hsame
    obtain ⟨hs, rfl⟩ := Prod.mk.inj hstate
    rw [executeWith_of_result linked hperform, executeWith_of_result linked hperform']
    obtain ⟨h₁, qs, bound, outputs, hlink₁, hperformed⟩ := exists_performed linked hperform
    obtain ⟨h₁', rs, bound', outputs', hlink₁', hperformed'⟩ := exists_performed linked hperform'
    -- nothing is left but writing back, from the same parameters but for their slots
    have hitems : qs.items = rs.items := by
      have hlinks := congrArg Statement.link hs
      simp only [unslotted, hlink₁, hlink₁', Option.map_some, Option.some.injEq, Link.mk.injEq]
        at hlinks
      exact (congrArg Parameters.items hlinks.2).symm
    have hreplaced : qs.replaced (.named entries) = rs.replaced (.named entries') :=
      Parameters.replaced_eq hitems
        (reordered.map_get_eq hperformed.slots_resolution hperformed'.slots_resolution)
    have hrun := writeBack_eq hlink₁ (.named entries) w₁'
    have hrun' := writeBack_eq hlink₁' (.named entries') w₁'
    rcases Parameters.writeBack_reordered reordered hperformed hperformed' hitems with
      ⟨e, hback, hback'⟩ | ⟨after, after', hback, hback', hnames, hnames', hperm⟩
    · rw [hback] at hrun
      rw [hback'] at hrun'
      rw [run_bind_error hrun, run_bind_error hrun']
      exact ⟨entries, entries', s₁, s₁', w₁', .inr ⟨e, rfl, rfl⟩, hs, rfl, rfl, reordered.same⟩
    · rw [hback, hreplaced] at hrun
      rw [hback'] at hrun'
      rw [run_bind_ok hrun, run_bind_ok hrun']
      exact ⟨after, after', s₁, s₁', _, .inl ⟨count, rfl, rfl⟩, hs, hnames, hnames', hperm⟩

/-- The first parameter takes an input, the second gives it back. -/
theorem executeWith_reordered_swapped :
    let parameter (name : String) (mode : ParameterMode) : Parameter :=
      ⟨some name, .fixed, 5, 5, 0, 5, ⟨.int32, mode, .new 4⟩⟩
    let ps : Parameters := ⟨[parameter "A" .input, parameter "B" .output], true, []⟩
    let described (mode : ParameterMode) := ParameterDescription.ofDigits 5 0 mode
    let server := Server.empty.register "CALL P(:A, :B)"
      ⟨.call fun inputs => .ok (inputs.reverse), [described .input, described .output], none⟩
    let s : Statement :=
      ⟨some ⟨{ Handle.new with prepared := some "CALL P(:A, :B)" }, some ps⟩, none, .empty⟩
    Arguments.Reordered ps [("b", .null), (":a", .int32 7)] [("A", .int32 7), (":B", .null)] ∧
    ∃ s₁ s₁' w₁, executeWith (.named [("b", .null), (":a", .int32 7)], s, .new server) =
        .ok 0 (.named [("b", .int32 7), (":a", .int32 7)], s₁, w₁) ∧
      executeWith (.named [("A", .int32 7), (":B", .null)], s, .new server) =
        .ok 0 (.named [("A", .int32 7), (":B", .int32 7)], s₁', w₁) := by
  intro parameter ps described server s
  have reordered : Arguments.Reordered ps [("b", .null), (":a", .int32 7)]
      [("A", .int32 7), (":B", .null)] :=
    ⟨by decide +kernel, by decide +kernel, by decide +kernel⟩
  have hfirst : ∃ s₁ w₁, executeWith (.named [("b", .null), (":a", .int32 7)], s, .new server) =
      .ok 0 (.named [("b", .int32 7), (":a", .int32 7)], s₁, w₁) := ⟨_, _, by cbv⟩
  have hnext : ∃ s₁ w₁, executeWith (.named [("A", .int32 7), (":B", .null)], s, .new server) =
      .ok 0 (.named [("A", .int32 7), (":B", .int32 7)], s₁, w₁) := ⟨_, _, by cbv⟩
  obtain ⟨s₁, w₁, hfirst⟩ := hfirst
  obtain ⟨s₁', w₁', hnext⟩ := hnext
  obtain ⟨after, after', t, t', w, hruns, -⟩ :=
    executeWith_reordered (s := s) (w := .new server) rfl reordered
  rw [hfirst, hnext] at hruns
  rcases hruns with ⟨count, hrun, hrun'⟩ | ⟨e, hrun, -⟩
  · cases hrun
    cases hrun'
    exact ⟨reordered, s₁, s₁', w₁, hfirst, hnext⟩
  · cases hrun

end Statement
end SqlClient
