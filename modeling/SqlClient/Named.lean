/-!
# Named things

A small table from names to things, in the order in which the names were first used.
-/

namespace SqlClient

/-- A table of named things. -/
abbrev Named (α : Type) := List (String × α)

namespace Named

variable {α : Type}

/-- The thing of a name. -/
def get? (table : Named α) (name : String) : Option α := List.lookup name table

/-- Give a name to a thing, in place of what had it. -/
def put (table : Named α) (name : String) (a : α) : Named α :=
  match table with
  | [] => [(name, a)]
  | (n, b) :: rest => if n = name then (name, a) :: rest else (n, b) :: put rest name a

/-- Take a name away. -/
def erase (table : Named α) (name : String) : Named α := table.filter fun (n, _) => n ≠ name

/-- The things in the table. -/
def things (table : Named α) : List α := table.map (·.2)

theorem get?_cons (n : String) (b : α) (rest : Named α) (name : String) :
    get? ((n, b) :: rest) name = if name = n then some b else rest.get? name := by
  by_cases h : name = n
  · simp [get?, h]
  · simp [get?, List.lookup_cons, beq_false_of_ne h, h]

@[simp] theorem get?_put_self (table : Named α) (name : String) (a : α) :
    (table.put name a).get? name = some a := by
  induction table with
  | nil => simp [put, get?_cons]
  | cons entry rest ih =>
    obtain ⟨n, b⟩ := entry
    by_cases same : n = name
    · simp [put, get?_cons, same]
    · simp [put, get?_cons, same, Ne.symm same, ih]

theorem get?_put_of_ne {name other : String} (h : other ≠ name) (table : Named α) (a : α) :
    (table.put name a).get? other = table.get? other := by
  induction table with
  | nil => simp [put, get?_cons, h]
  | cons entry rest ih =>
    obtain ⟨n, b⟩ := entry
    by_cases same : n = name
    · simp [put, get?_cons, same, h]
    · simp [put, get?_cons, same, ih]

@[simp] theorem get?_erase_self (table : Named α) (name : String) :
    (table.erase name).get? name = none := by
  rw [get?, List.lookup_eq_none_iff]
  intro entry kept
  have other : entry.1 ≠ name := by simpa using (List.mem_filter.1 kept).2
  simpa using other.symm

end Named
end SqlClient
