import Mathlib

/-! # What operations leave behind

Operations of this library return a result together with a state, also when they fail.  `leaves`
is that state, whatever the result; `run_bind_ok` and `run_bind_error` take the steps of an
operation one at a time, and `leaves_bind` carries what each step keeps over to the whole.

Where there is no state, a result is taken apart into the results it was made from (`map_eq_ok`,
`bind_eq_ok`, `bind_eq_error`).  A list of steps, `mapM` in `Except`, succeeds exactly when every
step does (`mapM_eq_ok_iff`); `getElem?_of_mapM_eq_ok` reads this at one index.

The last section is about two lists that agree step by step, and about looking the same thing up
in both: either it is missing from both or what is found agrees (`rel_cases`).
-/
namespace SqlClient

variable {ε σ α β : Type}

/-- The state that an operation leaves, whether it succeeds or fails. -/
def leaves : EStateM.Result ε σ α → σ
  | .ok _ state => state
  | .error _ state => state

@[simp] theorem leaves_ok (a : α) (state : σ) :
    leaves (.ok a state : EStateM.Result ε σ α) = state := rfl

@[simp] theorem leaves_error (e : ε) (state : σ) :
    leaves (.error e state : EStateM.Result ε σ α) = state := rfl

/-- The result of an operation that succeeds. -/
def result? : EStateM.Result ε σ α → Option α
  | .ok a _ => some a
  | .error _ _ => none

@[simp] theorem result?_ok (a : α) (state : σ) :
    result? (.ok a state : EStateM.Result ε σ α) = some a := rfl

@[simp] theorem result?_error (e : ε) (state : σ) :
    result? (.error e state : EStateM.Result ε σ α) = none := rfl

/-- After a step that succeeds comes the next. -/
theorem run_bind_ok {x : EStateM ε σ α} {f : α → EStateM ε σ β} {a : α} {s s' : σ}
    (h : x s = .ok a s') : (x >>= f) s = f a s' := by
  simp only [bind, EStateM.bind, h]

/-- A step that fails is the last. -/
theorem run_bind_error {x : EStateM ε σ α} {f : α → EStateM ε σ β} {e : ε} {s s' : σ}
    (h : x s = .error e s') : (x >>= f) s = .error e s' := by
  simp only [bind, EStateM.bind, h]

/-- **What every step keeps is kept by all of them.**  The second step starts where a successful
first step ends. -/
theorem leaves_bind {R : σ → σ → Prop} (htrans : ∀ {s₁ s₂ s₃}, R s₁ s₂ → R s₂ s₃ → R s₁ s₃)
    {x : EStateM ε σ α} {f : α → EStateM ε σ β} {s : σ} (hfirst : R s (leaves (x s)))
    (hnext : ∀ a s', x s = .ok a s' → R s' (leaves (f a s'))) : R s (leaves ((x >>= f) s)) := by
  cases hx : x s with
  | error e s' =>
    rw [run_bind_error hx]
    rwa [hx] at hfirst
  | ok a s' =>
    rw [run_bind_ok hx]
    rw [hx] at hfirst
    exact htrans hfirst (hnext a s' hx)

@[simp] theorem run_bind_get (f : σ → EStateM ε σ β) (s : σ) :
    ((get : EStateM ε σ σ) >>= f) s = f s s := rfl

@[simp] theorem run_bind_modify (g : σ → σ) (f : PUnit → EStateM ε σ β) (s : σ) :
    ((modify g : EStateM ε σ PUnit) >>= f) s = f () (g s) := rfl

/-- What is done with a result leaves the state alone. -/
@[simp] theorem leaves_bind_pure (x : EStateM ε σ α) (f : α → β) (s : σ) :
    leaves ((x >>= fun a => pure (f a)) s) = leaves (x s) := by
  cases hx : x s with
  | error e s' => rw [run_bind_error hx, leaves_error, leaves_error]
  | ok a s' => rw [run_bind_ok hx]; rfl

@[simp] theorem run_pure (a : α) (s : σ) : (pure a : EStateM ε σ α) s = .ok a s := rfl

@[simp] theorem run_throw (e : ε) (s : σ) : (throw e : EStateM ε σ α) s = .error e s := rfl

/-- What was mapped was a result. -/
theorem map_eq_ok {x : Except ε α} {f : α → β} {b : β} (h : x.map f = .ok b) :
    ∃ a, x = .ok a ∧ f a = b := by
  cases x with
  | error e => cases h
  | ok a => exact ⟨a, rfl, Except.ok.inj h⟩

/-- Two steps succeed when both do. -/
theorem bind_eq_ok {x : Except ε α} {f : α → Except ε β} {b : β} (h : x >>= f = .ok b) :
    ∃ a, x = .ok a ∧ f a = .ok b := by
  cases x with
  | error e => cases h
  | ok a => exact ⟨a, rfl, h⟩

/-- Two steps fail when the first does, or the second after it. -/
theorem bind_eq_error {x : Except ε α} {f : α → Except ε β} {e : ε} (h : x >>= f = .error e) :
    x = .error e ∨ ∃ a, x = .ok a ∧ f a = .error e := by
  cases x with
  | error e' => exact Or.inl (congrArg Except.error (Except.error.inj h))
  | ok a => exact Or.inr ⟨a, rfl, h⟩

theorem mapM_cons_ok {f : α → Except ε β} {a : α} {l : List α} {b : β} (h : f a = .ok b) :
    (a :: l).mapM f = (l.mapM f).map (b :: ·) := by
  rw [List.mapM_cons, h]
  cases l.mapM f <;> rfl

theorem mapM_cons_error {f : α → Except ε β} {a : α} {l : List α} {e : ε} (h : f a = .error e) :
    (a :: l).mapM f = .error e := by
  rw [List.mapM_cons, h]
  rfl

/-- What is made of a list of results is made of each of them. -/
theorem map_mapM {γ : Type} (f : α → Except ε β) (g : β → γ) (l : List α) :
    (l.mapM f).map (List.map g) = l.mapM fun a => (f a).map g := by
  induction l with
  | nil => rfl
  | cons a l ih =>
    rw [List.mapM_cons, List.mapM_cons, ← ih]
    cases f a with
    | error e => rfl
    | ok b => cases l.mapM f <;> rfl

/-- **All steps succeed exactly when each does.** -/
theorem mapM_eq_ok_iff {f : α → Except ε β} {l : List α} {l' : List β} :
    l.mapM f = .ok l' ↔ List.Forall₂ (fun a b => f a = .ok b) l l' := by
  induction l generalizing l' with
  | nil =>
    rw [List.forall₂_nil_left_iff, List.mapM_nil]
    exact ⟨fun h => (Except.ok.inj h).symm, fun h => congrArg Except.ok h.symm⟩
  | cons a l ih =>
    rw [List.forall₂_cons_left_iff]
    cases ha : f a with
    | error e =>
      rw [mapM_cons_error ha]
      constructor
      · intro h
        cases h
      · rintro ⟨b, _, hb, -⟩
        cases hb
    | ok b =>
      rw [mapM_cons_ok ha]
      cases hl : l.mapM f with
      | error e =>
        constructor
        · intro h
          cases h
        · rintro ⟨b', l'', -, hrest, -⟩
          rw [ih.mpr hrest] at hl
          cases hl
      | ok bs =>
        constructor
        · intro h
          exact ⟨b, bs, rfl, ih.mp hl, (Except.ok.inj h).symm⟩
        · rintro ⟨b', l'', hb, hrest, rfl⟩
          rw [ih.mpr hrest] at hl
          cases hl
          cases hb
          rfl

/-- Steps that succeed one by one succeed together. -/
theorem exists_mapM_eq_ok {f : α → Except ε β} {l : List α} (h : ∀ a ∈ l, ∃ b, f a = .ok b) :
    ∃ l', l.mapM f = .ok l' := by
  induction l with
  | nil => exact ⟨[], rfl⟩
  | cons a l ih =>
    obtain ⟨b, hb⟩ := h a (List.mem_cons_self ..)
    obtain ⟨l', hl'⟩ := ih fun a ha => h a (List.mem_cons_of_mem _ ha)
    exact ⟨b :: l', by rw [mapM_cons_ok hb, hl']; rfl⟩

/-- Steps that fail together fail at one of them. -/
theorem exists_of_mapM_eq_error {f : α → Except ε β} {l : List α} {e : ε}
    (h : l.mapM f = .error e) : ∃ a ∈ l, f a = .error e := by
  induction l with
  | nil => cases h
  | cons a l ih =>
    cases ha : f a with
    | error e' =>
      rw [mapM_cons_error ha] at h
      cases h
      exact ⟨a, List.mem_cons_self .., ha⟩
    | ok b =>
      rw [mapM_cons_ok ha] at h
      cases hl : l.mapM f with
      | ok bs =>
        rw [hl] at h
        cases h
      | error e' =>
        rw [hl] at h
        cases h
        obtain ⟨a', hmem, ha'⟩ := ih hl
        exact ⟨a', List.mem_cons_of_mem _ hmem, ha'⟩

/-- The first step that fails is the error of all. -/
theorem mapM_append_error {f : α → Except ε β} {before : List α} {a : α} {e : ε}
    (hbefore : ∀ b ∈ before, ∃ c, f b = .ok c) (ha : f a = .error e) (after : List α) :
    (before ++ a :: after).mapM f = .error e := by
  induction before with
  | nil => exact mapM_cons_error ha
  | cons b before ih =>
    obtain ⟨⟨c, hc⟩, hrest⟩ := List.forall_mem_cons.mp hbefore
    rw [List.cons_append, mapM_cons_ok hc, ih hrest]
    rfl

/-- Lists that agree step by step agree at every index. -/
theorem getElem?_of_forall₂ {R : α → β → Prop} {l : List α} {l' : List β}
    (h : List.Forall₂ R l l') {i : Nat} {a : α} (ha : l[i]? = some a) :
    ∃ b, l'[i]? = some b ∧ R a b := by
  induction h generalizing i with
  | nil => cases ha
  | cons hab _ ih =>
    cases i with
    | zero =>
      cases ha
      exact ⟨_, rfl, hab⟩
    | succ i => exact ih ha

/-- Steps that succeed depend on nothing but their own arguments. -/
theorem getElem?_of_mapM_eq_ok {f : α → Except ε β} {l : List α} {l' : List β}
    (h : l.mapM f = .ok l') {i : Nat} {a : α} (ha : l[i]? = some a) :
    ∃ b, l'[i]? = some b ∧ f a = .ok b :=
  getElem?_of_forall₂ (mapM_eq_ok_iff.mp h) ha

/-! ## Lists and what may not be there -/

/-- Lists that agree step by step still do when one step of both is replaced. -/
theorem forall₂_set {R : α → β → Prop} {l : List α} {l' : List β}
    (h : List.Forall₂ R l l') (i : Nat) {a : α} {b : β} (hab : R a b) :
    List.Forall₂ R (l.set i a) (l'.set i b) := by
  induction h generalizing i with
  | nil => exact .nil
  | cons hhead hrest ih =>
    cases i with
    | zero => exact .cons hab hrest
    | succ i => exact .cons hhead (ih i)

/-- At every index both have a step, and the steps agree, or neither has. -/
theorem rel_getElem? {R : α → β → Prop} {l : List α} {l' : List β} (h : List.Forall₂ R l l')
    (i : Nat) : Option.Rel R l[i]? l'[i]? := by
  cases hi : l[i]? with
  | none =>
    have hlength := h.length_eq
    rw [List.getElem?_eq_none_iff] at hi
    rw [List.getElem?_eq_none (by omega)]
    exact .none
  | some a =>
    obtain ⟨b, hb, hab⟩ := getElem?_of_forall₂ h hi
    rw [hb]
    exact .some hab

/-- What is related is related more loosely. -/
theorem rel_mono {R R' : α → β → Prop} (hR : ∀ a b, R a b → R' a b) {x : Option α}
    {y : Option β} (h : Option.Rel R x y) : Option.Rel R' x y := by
  cases h with
  | some hab => exact .some (hR _ _ hab)
  | none => exact .none

/-- Both are there, and related, or neither. -/
theorem rel_cases {R : α → β → Prop} {x : Option α} {y : Option β}
    (h : Option.Rel R x y) : (x = none ∧ y = none) ∨ ∃ a b, x = some a ∧ y = some b ∧ R a b := by
  cases h with
  | some hab => exact .inr ⟨_, _, rfl, rfl, hab⟩
  | none => exact .inl ⟨rfl, rfl⟩

theorem eq_of_rel {x y : Option α} (h : Option.Rel Eq x y) : x = y := by
  cases h with
  | some heq => rw [heq]
  | none => rfl

/-- What a list starts with is where it was. -/
theorem getElem?_of_prefix {l l' : List α} (h : l <+: l') {i : Nat} {a : α}
    (ha : l[i]? = some a) : l'[i]? = some a := by
  obtain ⟨more, rfl⟩ := h
  exact (List.getElem?_append_left (List.getElem?_eq_some_iff.mp ha).1).trans ha

end SqlClient
