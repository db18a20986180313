import SqlClient.Parameter.Set
import SqlClient.Proofs.Outcome

/-! # Outputs go back into their slots

`Parameters.writeBack` reads the output of every parameter that has one and puts it into the slot
of that parameter.  As long as no slot is taken twice, the order does not matter: the slot of an
output parameter ends up with its output, and any other slot keeps its argument
(`getElem?_of_writeBack_output`, `getElem?_of_writeBack_input`).  Names stay, and so does the
number of arguments.
-/
namespace SqlClient

namespace Arguments

/-- The names of the arguments, if they have names. -/
def names? : Arguments → Option (List String)
  | positional _ => none
  | named entries => some (entries.map (·.1))

/-- A change that can be followed through a function. -/
theorem map_modify {α β : Type} {f : α → β} {g : α → α} {k : β → β} (h : ∀ a, f (g a) = k (f a))
    (l : List α) (i : Nat) : (l.modify i g).map f = (l.map f).modify i k := by
  induction l generalizing i with
  | nil => simp
  | cons a l ih =>
    cases i with
    | zero => simp [h]
    | succ i => simp [ih]

/-- What a slot has, if it has a value at all, is one of the arguments. -/
theorem mem_values_of_get {args : Arguments} {slot : Nat} {v : Value} (h : args.get slot = v)
    (hv : v ≠ .null) : v ∈ args.values := by
  rw [Arguments.get] at h
  cases hslot : args.values[slot]? with
  | none =>
    rw [hslot] at h
    exact absurd h.symm hv
  | some found =>
    rw [hslot] at h
    exact h ▸ List.mem_of_getElem? hslot

@[simp] theorem values_set (args : Arguments) (slot : Nat) (v : Value) :
    (args.set slot v).values = args.values.set slot v := by
  cases args with
  | positional values => rfl
  | named entries =>
    rw [List.set_eq_modify]
    change (entries.modify slot fun entry => (entry.1, v)).map Prod.snd =
      (entries.map Prod.snd).modify slot fun _ => v
    exact map_modify (by intro entry; rfl) entries slot

@[simp] theorem names?_set (args : Arguments) (slot : Nat) (v : Value) :
    (args.set slot v).names? = args.names? := by
  cases args with
  | positional values => rfl
  | named entries =>
    have hnames : (entries.modify slot fun entry => (entry.1, v)).map Prod.fst =
        (entries.map Prod.fst).modify slot id := map_modify (by intro entry; rfl) entries slot
    rw [List.modify_id] at hnames
    exact congrArg some hnames

@[simp] theorem size_set (args : Arguments) (slot : Nat) (v : Value) :
    (args.set slot v).size = args.size := by
  simp [size]

end Arguments

namespace Parameters

variable {args args' : Arguments} {written : List (Nat × Value)} {slot : Nat} {v : Value}

/-! ## Into the slots -/

theorem assign_cons_eq_ok (h : assign args ((slot, v) :: written) = .ok args') :
    slot < args.size ∧ assign (args.set slot v) written = .ok args' := by
  rw [assign] at h
  split at h
  · exact ⟨‹_›, h⟩
  · cases h

/-- A slot that nothing is written to keeps its argument. -/
theorem values_assign_of_notMem (h : assign args written = .ok args')
    (hslot : slot ∉ written.map (·.1)) : args'.values[slot]? = args.values[slot]? := by
  induction written generalizing args with
  | nil =>
    cases h
    rfl
  | cons entry rest ih =>
    obtain ⟨slot', v'⟩ := entry
    rw [List.map_cons, List.mem_cons, not_or] at hslot
    rw [ih (assign_cons_eq_ok h).2 hslot.2, Arguments.values_set,
      List.getElem?_set_ne (Ne.symm hslot.1)]

/-- **A slot that is written to once holds what was written.** -/
theorem values_assign_of_mem (h : assign args written = .ok args')
    (hnodup : (written.map (·.1)).Nodup) (hmem : (slot, v) ∈ written) :
    args'.values[slot]? = some v := by
  induction written generalizing args with
  | nil => cases hmem
  | cons entry rest ih =>
    obtain ⟨slot', v'⟩ := entry
    obtain ⟨hlt, hassign⟩ := assign_cons_eq_ok h
    obtain ⟨hfresh, hrest⟩ := List.nodup_cons.mp hnodup
    rcases List.mem_cons.mp hmem with heq | hmem
    · cases heq
      rw [values_assign_of_notMem hassign hfresh, Arguments.values_set, List.getElem?_set_self hlt]
    · exact ih hassign hrest hmem

/-- What writing to one slot keeps, writing to many keeps. -/
theorem assign_keeps {α : Type} {f : Arguments → α}
    (hset : ∀ (args : Arguments) (slot : Nat) (v : Value), f (args.set slot v) = f args)
    (h : assign args written = .ok args') : f args' = f args := by
  induction written generalizing args with
  | nil =>
    cases h
    rfl
  | cons entry rest ih =>
    obtain ⟨slot', v'⟩ := entry
    rw [ih (assign_cons_eq_ok h).2, hset]

theorem names?_assign (h : assign args written = .ok args') : args'.names? = args.names? :=
  assign_keeps Arguments.names?_set h

theorem size_assign (h : assign args written = .ok args') : args'.size = args.size :=
  assign_keeps Arguments.size_set h

/-- Values are assigned to slots that are all there. -/
theorem slot_lt_of_assign (h : assign args written = .ok args') :
    ∀ entry ∈ written, entry.1 < args.size := by
  induction written generalizing args with
  | nil => exact nofun
  | cons entry rest ih =>
    obtain ⟨slot, v⟩ := entry
    obtain ⟨hlt, hrest⟩ := assign_cons_eq_ok h
    intro entry hmem
    rcases List.mem_cons.mp hmem with rfl | hmem
    · exact hlt
    · simpa using ih hrest entry hmem

/-- Assigning fails for a slot that is missing. -/
theorem assign_error {e : Error} (h : assign args written = .error e) :
    ∃ entry ∈ written, args.size ≤ entry.1 ∧ e = .slotOutOfRange entry.1 args.size := by
  induction written generalizing args with
  | nil => cases h
  | cons entry rest ih =>
    obtain ⟨slot, v⟩ := entry
    rw [assign] at h
    split at h
    · obtain ⟨entry, hmem, hle, he⟩ := ih h
      rw [Arguments.size_set] at hle he
      exact ⟨entry, List.mem_cons_of_mem _ hmem, hle, he⟩
    · rename_i hle
      cases h
      exact ⟨(slot, v), List.mem_cons_self .., Nat.not_lt.mp hle, rfl⟩

/-- Nothing but a slot that is missing is refused. -/
theorem assign_eq_ok (hslots : ∀ entry ∈ written, entry.1 < args.size) :
    ∃ args', assign args written = .ok args' := by
  cases hassign : assign args written with
  | ok args' => exact ⟨args', rfl⟩
  | error e =>
    obtain ⟨entry, hmem, hle, -⟩ := assign_error hassign
    exact absurd (hslots entry hmem) (Nat.not_lt.mpr hle)

/-! ## Out of the parameters -/

variable {ps : Parameters} {i : Nat} {p : Parameter}

theorem output_slot {entry : Parameter × Nat} {result : Nat × Value}
    (h : (entry.1.output.map fun v => (entry.2, v)) = .ok result) :
    entry.1.output = .ok result.2 ∧ entry.2 = result.1 := by
  obtain ⟨v, hv, rfl⟩ := map_eq_ok h
  exact ⟨hv, rfl⟩

/-- Outputs carry the slots of their parameters. -/
theorem slots_of_outputs (h : ps.outputs = .ok written) :
    written.map (·.1) =
      ((ps.items.zip ps.slots).filter fun (p, _) => p.binding.mode.isOutput).map (·.2) := by
  have hall := (mapM_eq_ok_iff.mp h).imp fun _ _ hresult => (output_slot hresult).2
  have hsame := List.forall₂_map_left_iff.mpr (List.forall₂_map_right_iff.mpr hall)
  rw [List.forall₂_eq_eq_eq] at hsame
  exact hsame.symm

/-- The arguments that outputs replace, in the order of the parameters. -/
def replaced (ps : Parameters) (args : Arguments) : List Value :=
  ((ps.items.zip ps.slots).filter fun (p, _) => p.binding.mode.isOutput).map fun (_, slot) =>
    args.get slot

theorem replaced_of_outputs (h : ps.outputs = .ok written) (args : Arguments) :
    written.map (fun entry => args.get entry.1) = ps.replaced args := by
  have hslots := congrArg (List.map args.get) (slots_of_outputs h)
  rwa [List.map_map, List.map_map] at hslots

/-- Every output parameter gives its output. -/
theorem mem_of_outputs (h : ps.outputs = .ok written) (hp : ps.items[i]? = some p)
    (hslot : ps.slots[i]? = some slot) (hout : p.binding.mode.isOutput = true) :
    ∃ v, p.output = .ok v ∧ (slot, v) ∈ written := by
  have hmem : (p, slot) ∈ (ps.items.zip ps.slots).filter fun (p, _) => p.binding.mode.isOutput :=
    List.mem_filter.mpr
      ⟨List.mem_of_getElem? (List.getElem?_zip_eq_some.mpr ⟨hp, hslot⟩), hout⟩
  obtain ⟨j, hj⟩ := List.mem_iff_getElem?.mp hmem
  obtain ⟨⟨slot', v⟩, hentry, hresult⟩ := getElem?_of_mapM_eq_ok h hj
  obtain ⟨hv, rfl⟩ := @output_slot (p, slot) _ hresult
  exact ⟨v, hv, List.mem_of_getElem? hentry⟩

theorem map_snd_zip_sublist {α β : Type} (l : List α) (l' : List β) :
    ((l.zip l').map Prod.snd).Sublist l' := by
  induction l generalizing l' with
  | nil => simp
  | cons a l ih =>
    cases l' with
    | nil => simp
    | cons b l' => simpa using ih l'

theorem nodup_of_outputs (h : ps.outputs = .ok written) (hnodup : ps.slots.Nodup) :
    (written.map (·.1)).Nodup := by
  rw [slots_of_outputs h]
  exact ((List.filter_sublist.map _).trans (map_snd_zip_sublist ..)).nodup hnodup

/-- What is written goes to the slot of an output parameter. -/
theorem exists_output_of_mem (h : ps.outputs = .ok written) (hmem : slot ∈ written.map (·.1)) :
    ∃ (i : Nat) (p : Parameter), ps.items[i]? = some p ∧ ps.slots[i]? = some slot ∧
      p.binding.mode.isOutput = true := by
  rw [slots_of_outputs h] at hmem
  obtain ⟨⟨p, slot'⟩, hseat, rfl⟩ := List.mem_map.mp hmem
  obtain ⟨hzip, hout⟩ := List.mem_filter.mp hseat
  obtain ⟨i, hi⟩ := List.mem_iff_getElem?.mp hzip
  obtain ⟨hp, hslot⟩ := List.getElem?_zip_eq_some.mp hi
  exact ⟨i, p, hp, hslot, hout⟩

/-- Any other parameter gives none. -/
theorem notMem_of_outputs (h : ps.outputs = .ok written) (hnodup : ps.slots.Nodup)
    (hp : ps.items[i]? = some p) (hslot : ps.slots[i]? = some slot)
    (hin : p.binding.mode.isOutput = false) : slot ∉ written.map (·.1) := by
  intro hmem
  obtain ⟨j, q, hq, hslot', hout⟩ := exists_output_of_mem h hmem
  -- both parameters have the same slot, so they are the same
  obtain ⟨hi, hgi⟩ := List.getElem?_eq_some_iff.mp hslot
  obtain ⟨hj', hgj⟩ := List.getElem?_eq_some_iff.mp hslot'
  obtain rfl := (hnodup.getElem_inj_iff).mp (hgi.trans hgj.symm)
  cases hp.symm.trans hq
  exact absurd hout (by simp [hin])

/-! ## Both together -/

theorem writeBack_eq_ok (h : ps.writeBack args = .ok args') :
    ∃ written, ps.outputs = .ok written ∧ assign args written = .ok args' := bind_eq_ok h

/-- Outputs that were read are assigned to arguments that have their slots. -/
theorem exists_assign_of_outputs (h : ps.outputs = .ok written)
    (hslots : ∀ slot ∈ ps.slots, slot < args.size) :
    ∃ args', assign args written = .ok args' := by
  apply assign_eq_ok
  intro entry hentry
  have hmem : entry.1 ∈ written.map (·.1) := List.mem_map.mpr ⟨entry, hentry, rfl⟩
  rw [slots_of_outputs h] at hmem
  exact hslots _ (((List.filter_sublist.map _).trans (map_snd_zip_sublist ..)).subset hmem)

/-- Outputs that are all readable are written back, into arguments that have their slots. -/
theorem exists_writeBack_eq_ok
    (hread : ∀ (i : Nat) (p : Parameter), ps.items[i]? = some p →
      p.binding.mode.isOutput = true → ∃ v, p.output = .ok v)
    (hslots : ∀ slot ∈ ps.slots, slot < args.size) : ∃ args', ps.writeBack args = .ok args' := by
  have houtputs : ∃ written, ps.outputs = .ok written := by
    apply exists_mapM_eq_ok
    intro entry hentry
    obtain ⟨hzip, hout⟩ := List.mem_filter.mp hentry
    obtain ⟨i, hi⟩ := List.mem_iff_getElem?.mp hzip
    obtain ⟨v, hv⟩ := hread i entry.1 (List.getElem?_zip_eq_some.mp hi).1 hout
    exact ⟨(entry.2, v), by simp [hv, Except.map]⟩
  obtain ⟨written, hwritten⟩ := houtputs
  obtain ⟨args', hargs'⟩ := exists_assign_of_outputs hwritten hslots
  exact ⟨args', by rw [writeBack, hwritten]; exact hargs'⟩

/-- Only reading an output can fail, where the arguments have the slots. -/
theorem outputs_of_writeBack_error {e : Error} (h : ps.writeBack args = .error e)
    (hslots : ∀ slot ∈ ps.slots, slot < args.size) : ps.outputs = .error e := by
  rcases bind_eq_error h with houtputs | ⟨written, houtputs, hassign⟩
  · exact houtputs
  · obtain ⟨args', hargs'⟩ := exists_assign_of_outputs houtputs hslots
    rw [hargs'] at hassign
    cases hassign

/-- **The slot of an output parameter holds its output.** -/
theorem getElem?_of_writeBack_output (h : ps.writeBack args = .ok args')
    (hnodup : ps.slots.Nodup) (hp : ps.items[i]? = some p) (hslot : ps.slots[i]? = some slot)
    (hout : p.binding.mode.isOutput = true) :
    ∃ v, p.output = .ok v ∧ args'.values[slot]? = some v := by
  obtain ⟨written, houtputs, hassign⟩ := writeBack_eq_ok h
  obtain ⟨v, hv, hmem⟩ := mem_of_outputs houtputs hp hslot hout
  exact ⟨v, hv, values_assign_of_mem hassign (nodup_of_outputs houtputs hnodup) hmem⟩

/-- **The slot of any other parameter keeps its argument.** -/
theorem getElem?_of_writeBack_input (h : ps.writeBack args = .ok args')
    (hnodup : ps.slots.Nodup) (hp : ps.items[i]? = some p) (hslot : ps.slots[i]? = some slot)
    (hin : p.binding.mode.isOutput = false) : args'.values[slot]? = args.values[slot]? := by
  obtain ⟨written, houtputs, hassign⟩ := writeBack_eq_ok h
  exact values_assign_of_notMem hassign (notMem_of_outputs houtputs hnodup hp hslot hin)

end Parameters
end SqlClient
