import Mathlib
import SqlClient.Named

/-! # Tables of named things

What `put` and `erase` do to the names and the things of a table, and to a quantity that is summed
over the things (`total`).  Names stay distinct, so that a name that is erased took one thing with
it.
-/
namespace SqlClient

namespace Named

variable {α : Type} {table : Named α} {name : String} {a b : α}

/-- The names of a table, in order. -/
def names (table : Named α) : List String := table.map (·.1)

/-- The sum of a quantity over the things in a table. -/
def total (f : α → Nat) (table : Named α) : Nat := (table.things.map f).sum

theorem mem_things_of_get? (h : table.get? name = some a) : a ∈ table.things := by
  induction table with
  | nil => cases h
  | cons entry rest ih =>
    obtain ⟨n, b⟩ := entry
    rw [get?_cons] at h
    split at h
    · cases h
      exact List.mem_cons_self ..
    · exact List.mem_cons_of_mem _ (ih h)

theorem mem_put {entry : String × α} (h : entry ∈ table.put name b) :
    entry = (name, b) ∨ entry ∈ table := by
  induction table with
  | nil => exact .inl (List.mem_singleton.mp h)
  | cons first rest ih =>
    obtain ⟨n, c⟩ := first
    by_cases hname : n = name
    · rw [put, if_pos hname] at h
      exact (List.mem_cons.mp h).imp_right (List.mem_cons_of_mem _)
    · rw [put, if_neg hname] at h
      rcases List.mem_cons.mp h with rfl | hrest
      · exact .inr (List.mem_cons_self ..)
      · exact (ih hrest).imp_right (List.mem_cons_of_mem _)

/-- What holds of all things holds of them with one more. -/
theorem forall_things_put {P : α → Prop} (h : ∀ a ∈ table.things, P a) (hb : P b) :
    ∀ a ∈ (table.put name b).things, P a := by
  intro a hmem
  obtain ⟨entry, hentry, rfl⟩ := List.mem_map.mp hmem
  rcases mem_put hentry with rfl | hentry
  · exact hb
  · exact h entry.2 (List.mem_map_of_mem hentry)

/-- A thing that takes its own place changes nothing. -/
theorem put_of_get? (h : table.get? name = some a) : table.put name a = table := by
  induction table with
  | nil => cases h
  | cons entry rest ih =>
    obtain ⟨n, b⟩ := entry
    by_cases hname : name = n
    · subst hname
      rw [get?_cons, if_pos rfl] at h
      cases h
      rw [put, if_pos rfl]
    · rw [get?_cons, if_neg hname] at h
      rw [put, if_neg (Ne.symm hname), ih h]

theorem mem_things_erase (h : a ∈ (table.erase name).things) : a ∈ table.things :=
  (List.filter_sublist.map _).subset h

/-- Under another name the same is found. -/
theorem get?_erase_of_ne {other : String} (h : other ≠ name) (table : Named α) :
    (table.erase name).get? other = table.get? other := by
  induction table with
  | nil => rfl
  | cons entry rest ih =>
    obtain ⟨n, b⟩ := entry
    by_cases same : n = name
    · subst same
      have herase : erase ((n, b) :: rest) n = erase rest n := List.filter_cons_of_neg (by simp)
      rw [herase, ih, get?_cons, if_neg h]
    · have herase : erase ((n, b) :: rest) name = (n, b) :: erase rest name :=
        List.filter_cons_of_pos (by simpa using same)
      rw [herase, get?_cons, get?_cons, ih]

theorem nodup_erase (h : table.names.Nodup) : (table.erase name).names.Nodup :=
  h.sublist (List.filter_sublist.map _)

theorem mem_names_put {other : String} (h : other ∈ (table.put name b).names) :
    other = name ∨ other ∈ table.names := by
  obtain ⟨entry, hentry, rfl⟩ := List.mem_map.mp h
  rcases mem_put hentry with rfl | hentry
  · exact .inl rfl
  · exact .inr (List.mem_map_of_mem hentry)

theorem nodup_put (h : table.names.Nodup) : (table.put name b).names.Nodup := by
  induction table with
  | nil => exact List.nodup_singleton name
  | cons entry rest ih =>
    obtain ⟨n, c⟩ := entry
    obtain ⟨hfresh, hrest⟩ := List.nodup_cons.mp h
    by_cases hname : n = name
    · subst hname
      rw [put, if_pos rfl]
      exact h
    · rw [put, if_neg hname]
      refine List.nodup_cons.mpr ⟨fun hmem => ?_, ih hrest⟩
      rcases mem_names_put hmem with heq | hmem
      · exact hname heq
      · exact hfresh hmem

/-- In place of a thing another is counted. -/
theorem total_put_of_some (f : α → Nat) (h : table.get? name = some a) (b : α) :
    total f (table.put name b) + f a = total f table + f b := by
  induction table with
  | nil => cases h
  | cons entry rest ih =>
    obtain ⟨n, c⟩ := entry
    by_cases hname : name = n
    · subst hname
      rw [get?_cons, if_pos rfl] at h
      cases h
      rw [put, if_pos rfl]
      simp only [total, things, List.map_cons, List.sum_cons]
      omega
    · rw [get?_cons, if_neg hname] at h
      rw [put, if_neg (Ne.symm hname)]
      have hrest := ih h
      simp only [total, things, List.map_cons, List.sum_cons] at hrest ⊢
      omega

/-- A thing of a new name is counted in addition. -/
theorem total_put_of_none (f : α → Nat) (h : table.get? name = none) (b : α) :
    total f (table.put name b) = total f table + f b := by
  induction table with
  | nil => simp [total, things, put]
  | cons entry rest ih =>
    obtain ⟨n, c⟩ := entry
    by_cases hname : name = n
    · rw [get?_cons, if_pos hname] at h
      cases h
    · rw [get?_cons, if_neg hname] at h
      rw [put, if_neg (Ne.symm hname)]
      have hrest := ih h
      simp only [total, things, List.map_cons, List.sum_cons] at hrest ⊢
      omega

/-- Whatever had the name, the new thing is counted in its place. -/
theorem total_put (f : α → Nat) (table : Named α) (name : String) (b : α) :
    total f (table.put name b) + (table.get? name).elim 0 f = total f table + f b := by
  cases h : table.get? name with
  | none => exact total_put_of_none f h b
  | some a => exact total_put_of_some f h b

/-- Nothing in a table is more than the total. -/
theorem le_total (f : α → Nat) (h : table.get? name = some a) : f a ≤ total f table :=
  List.le_sum_of_mem (List.mem_map_of_mem (mem_things_of_get? h))

/-- A total of zeros and ones is a count. -/
theorem total_eq_countP {f : α → Nat} {p : α → Bool}
    (h : ∀ a ∈ table.things, f a = (p a).toNat) : total f table = table.things.countP p := by
  induction table with
  | nil => rfl
  | cons entry rest ih =>
    obtain ⟨n, a⟩ := entry
    have hrest := ih fun b hb => h b (List.mem_cons_of_mem _ hb)
    have ha := h a (List.mem_cons_self ..)
    simp only [total, things, List.map_cons, List.sum_cons, List.countP_cons] at hrest ⊢
    rw [hrest, ha]
    cases p a <;> simp [Nat.add_comm]

theorem erase_of_notMem (h : name ∉ table.names) : table.erase name = table := by
  rw [erase, List.filter_eq_self]
  intro entry hentry
  have hmem : entry.1 ∈ table.names := List.mem_map.mpr ⟨entry, hentry, rfl⟩
  exact decide_eq_true fun heq => h (heq ▸ hmem)

/-- A thing that is erased is counted no longer. -/
theorem total_erase (f : α → Nat) (hnodup : table.names.Nodup) (h : table.get? name = some a) :
    total f (table.erase name) + f a = total f table := by
  induction table with
  | nil => cases h
  | cons entry rest ih =>
    obtain ⟨n, c⟩ := entry
    obtain ⟨hfresh, hrest⟩ := List.nodup_cons.mp hnodup
    by_cases hname : name = n
    · subst hname
      rw [get?_cons, if_pos rfl] at h
      cases h
      have herase : erase ((name, a) :: rest) name = rest := by
        rw [erase, List.filter_cons_of_neg (by simp)]
        exact erase_of_notMem hfresh
      rw [herase]
      simp only [total, things, List.map_cons, List.sum_cons]
      omega
    · rw [get?_cons, if_neg hname] at h
      have herase : erase ((n, c) :: rest) name = (n, c) :: erase rest name := by
        rw [erase, List.filter_cons_of_pos (by simpa using Ne.symm hname)]
        rfl
      have htotal := ih hrest h
      rw [herase]
      simp only [total, things, List.map_cons, List.sum_cons] at htotal ⊢
      omega

end Named

end SqlClient
