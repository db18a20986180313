import SqlClient.Parameter.Set
import SqlClient.Proofs.CanonicalForm
import SqlClient.Proofs.Outcome

/-! # Binding arguments to parameters

An execution changes nothing of a parameter but what its buffer holds; the rest is its *shape*
(`Parameter.shape`).  Binding keeps the shape whether it succeeds or fails (`shape_bindFrom`).

When it succeeds, every parameter that takes input holds its own argument, and an output parameter
is as it was (`getElem?_of_bindFrom`).  What an input parameter holds then does not depend on what
it held before, so two lists of parameters of the same shape come out of binding with the same
failure or with the same inputs (`bindFrom_agree`).
-/
namespace SqlClient
namespace Parameter

/-- What of a parameter no execution changes: all but what its buffer holds. -/
def shape (p : Parameter) : Parameter :=
  { p with binding := { p.binding with buffer := p.binding.buffer.clear } }

/-- The parameter with another buffer. -/
def withBuffer (p : Parameter) (buffer : Buffer) : Parameter :=
  { p with binding := { p.binding with buffer } }

variable {p p' q : Parameter} {position : Nat} {v : Value}

theorem host_eq_of_shape_eq (h : p.shape = q.shape) : p.binding.host = q.binding.host :=
  congrArg (·.binding.host) h

theorem mode_eq_of_shape_eq (h : p.shape = q.shape) : p.binding.mode = q.binding.mode :=
  congrArg (·.binding.mode) h

theorem capacity_eq_of_shape_eq (h : p.shape = q.shape) :
    p.binding.buffer.capacity = q.binding.buffer.capacity :=
  congrArg (·.binding.buffer.capacity) h

/-- Parameters of one shape that get the same buffer are the same. -/
theorem withBuffer_eq_of_shape_eq (h : p.shape = q.shape) (buffer : Buffer) :
    p.withBuffer buffer = q.withBuffer buffer :=
  congrArg (·.withBuffer buffer) h

theorem shape_withBuffer {buffer : Buffer} (h : buffer.capacity = p.binding.buffer.capacity) :
    (p.withBuffer buffer).shape = p.shape := by
  simp [shape, withBuffer, Buffer.clear, h]

/-! ## One parameter -/

/-- An output parameter ignores its argument. -/
theorem bind_of_not_isInput (h : p.binding.mode.isInput = false) :
    p.bind position v = .ok p := by
  simp [bind, h]

/-- A parameter that takes input gets a new buffer. -/
theorem bind_eq_ok (h : p.bind position v = .ok p') (hin : p.binding.mode.isInput = true) :
    ∃ buffer, p.binding.buffer.encode p.binding.host v = .ok buffer ∧
      p' = p.withBuffer buffer := by
  rw [bind, if_pos hin] at h
  split at h
  · rename_i buffer henc
    exact ⟨buffer, henc, (Except.ok.inj h).symm⟩
  · cases h
  · cases h

theorem shape_of_bind (h : p.bind position v = .ok p') : p'.shape = p.shape := by
  by_cases hin : p.binding.mode.isInput = true
  · obtain ⟨buffer, henc, rfl⟩ := bind_eq_ok h hin
    exact shape_withBuffer (Buffer.capacity_of_encode henc)
  · rw [bind_of_not_isInput (Bool.eq_false_iff.mpr hin)] at h
    rw [Except.ok.inj h]

/-- An argument that was bound is read back in its canonical form. -/
theorem output_of_bind (h : p.bind position v = .ok p') (hin : p.binding.mode.isInput = true) :
    ∃ c, v.canonical? p.binding.host = .ok c ∧ p'.output = .ok c := by
  obtain ⟨buffer, henc, rfl⟩ := bind_eq_ok h hin
  exact Buffer.decode_of_encode henc

/-- What an input parameter held before has no influence. -/
theorem bind_eq_of_shape_eq (h : p.shape = q.shape) (hin : p.binding.mode.isInput = true) :
    p.bind position v = q.bind position v := by
  have hmode := mode_eq_of_shape_eq h
  unfold bind
  rw [if_pos hin, if_pos (hmode ▸ hin), ← host_eq_of_shape_eq h,
    ← Buffer.encode_eq_of_capacity_eq (capacity_eq_of_shape_eq h)]
  cases henc : p.binding.buffer.encode p.binding.host v with
  | ok buffer => exact congrArg Except.ok (withBuffer_eq_of_shape_eq h buffer)
  | error e => cases e <;> rfl

/-- Binding fails for a conversion or for the length of the value. -/
theorem bind_error {e : Error} (h : p.bind position v = .error e) :
    (∃ fault, e = .conversion fault) ∨ ∃ length limit, e = .valueTooLong position length limit := by
  unfold bind at h
  split at h
  · split at h
    · cases h
    · cases h
      exact Or.inr ⟨_, _, rfl⟩
    · rename_i e' hlong henc
      obtain rfl := Except.error.inj h
      rcases Buffer.encode_error henc with hfault | ⟨needed, rfl⟩
      · exact Or.inl hfault
      · exact absurd rfl (hlong needed _)
  · cases h

end Parameter

namespace Parameters

/-- **Two states of the same parameters.**  They may differ in what their buffers hold and in the
slots of the last binding. -/
structure SameShape (ps qs : Parameters) : Prop where
  items : ps.items.map Parameter.shape = qs.items.map Parameter.shape
  named : ps.named = qs.named

namespace SameShape

variable {ps qs rs : Parameters}

theorem refl (ps : Parameters) : SameShape ps ps := ⟨rfl, rfl⟩

theorem symm (h : SameShape ps qs) : SameShape qs ps := ⟨h.items.symm, h.named.symm⟩

theorem trans (hfirst : SameShape ps qs) (hnext : SameShape qs rs) : SameShape ps rs :=
  ⟨hfirst.items.trans hnext.items, hfirst.named.trans hnext.named⟩

theorem size_eq (h : SameShape ps qs) : ps.size = qs.size := by
  simpa [size] using congrArg List.length h.items

theorem names (h : SameShape ps qs) : ps.items.map (·.name) = qs.items.map (·.name) := by
  have hnames := congrArg (List.map (·.name)) h.items
  simpa only [List.map_map, Function.comp_def, Parameter.shape] using hnames

theorem exists_item (h : SameShape ps qs) {i : Nat} {q : Parameter} (hq : qs.items[i]? = some q) :
    ∃ p, ps.items[i]? = some p ∧ p.shape = q.shape := by
  have hget : (ps.items.map Parameter.shape)[i]? = some q.shape := by
    rw [h.items, List.getElem?_map, hq, Option.map_some]
  rw [List.getElem?_map] at hget
  exact Option.map_eq_some_iff.mp hget

end SameShape

variable {items others items' : List Parameter} {values : List Value} {position : Nat}

theorem getElem?_bindings {ps : Parameters} {i : Nat} {p : Parameter}
    (hp : ps.items[i]? = some p) : ps.bindings[i]? = some p.binding := by
  simp [bindings, hp]

@[simp] theorem length_bindings (ps : Parameters) : ps.bindings.length = ps.size :=
  List.length_map _

/-! ## All parameters -/

theorem bindFrom_cons_error {p : Parameter} {v : Value} {e : Error}
    (h : p.bind position v = .error e) (items : List Parameter) (values : List Value) :
    bindFrom position (p :: items) (v :: values) = .error e (p :: items) := by
  rw [bindFrom, h]

theorem bindFrom_cons_ok {p p' : Parameter} {v : Value} (h : p.bind position v = .ok p')
    (items : List Parameter) (values : List Value) :
    bindFrom position (p :: items) (v :: values) =
      match bindFrom (position + 1) items values with
      | .error e rest => .error e (p' :: rest)
      | .ok () rest => .ok () (p' :: rest) := by
  cases hrest : bindFrom (position + 1) items values <;> simp only [bindFrom, h, hrest]

/-- Binding succeeds at the first parameter and at the others. -/
theorem bindFrom_cons_eq_ok {p : Parameter} {v : Value}
    (h : bindFrom position (p :: items) (v :: values) = .ok () items') :
    ∃ p' rest, p.bind position v = .ok p' ∧
      bindFrom (position + 1) items values = .ok () rest ∧ items' = p' :: rest := by
  cases hbind : p.bind position v with
  | error e =>
    rw [bindFrom_cons_error hbind] at h
    cases h
  | ok p' =>
    rw [bindFrom_cons_ok hbind] at h
    split at h
    · cases h
    · rename_i rest hrest
      cases h
      exact ⟨p', rest, rfl, hrest, rfl⟩

/-- Binding fails at the first parameter, or at a later one. -/
theorem bindFrom_cons_eq_error {p : Parameter} {v : Value} {e : Error}
    (h : bindFrom position (p :: items) (v :: values) = .error e items') :
    p.bind position v = .error e ∨
      ∃ rest, bindFrom (position + 1) items values = .error e rest := by
  cases hbind : p.bind position v with
  | error e' =>
    rw [bindFrom_cons_error hbind] at h
    cases h
    exact Or.inl rfl
  | ok p' =>
    rw [bindFrom_cons_ok hbind] at h
    split at h
    · rename_i rest hrest
      cases h
      exact Or.inr ⟨rest, hrest⟩
    · cases h

/-- **Binding keeps the shape**, also when it stops half way. -/
theorem shape_bindFrom (position : Nat) (items : List Parameter) (values : List Value) :
    (leaves (bindFrom position items values)).map Parameter.shape =
      items.map Parameter.shape := by
  induction items generalizing position values with
  | nil => simp [bindFrom]
  | cons p items ih =>
    cases values with
    | nil => simp [bindFrom]
    | cons v values =>
      cases hbind : p.bind position v with
      | error e => rw [bindFrom_cons_error hbind, leaves_error]
      | ok p' =>
        have hrest := ih (position + 1) values
        rw [bindFrom_cons_ok hbind]
        cases hb : bindFrom (position + 1) items values <;> rw [hb] at hrest <;>
          simpa [Parameter.shape_of_bind hbind] using hrest

theorem shape_bind (args : Arguments) (ps : Parameters) :
    SameShape (leaves (bind args ps)) ps := by
  unfold bind
  cases hslots : ps.slotsFor args with
  | error e => exact .refl ps
  | ok slots =>
    have hshape := shape_bindFrom 1 ps.items (slots.map args.get)
    simp only
    cases hbound : bindFrom 1 ps.items (slots.map args.get) <;> rw [hbound] at hshape <;>
      exact ⟨hshape, rfl⟩

/-- Binding stops because an argument does not convert or is too long. -/
theorem bindFrom_error {e : Error} (h : bindFrom position items values = .error e items') :
    (∃ fault, e = .conversion fault) ∨
      ∃ place length limit, e = .valueTooLong place length limit := by
  induction items generalizing position values items' with
  | nil => simp [bindFrom] at h
  | cons p items ih =>
    cases values with
    | nil => simp [bindFrom] at h
    | cons v values =>
      rcases bindFrom_cons_eq_error h with hbind | ⟨rest, hrest⟩
      · exact (Parameter.bind_error hbind).imp_right fun hlong => ⟨position, hlong⟩
      · exact ih hrest

/-- **Every parameter gets its own argument.** -/
theorem getElem?_of_bindFrom (h : bindFrom position items values = .ok () items') {i : Nat}
    {p : Parameter} {v : Value} (hp : items[i]? = some p) (hv : values[i]? = some v) :
    ∃ p', items'[i]? = some p' ∧ p.bind (position + i) v = .ok p' := by
  induction items generalizing position values items' i with
  | nil => cases hp
  | cons q items ih =>
    cases values with
    | nil => cases hv
    | cons w values =>
      obtain ⟨q', rest, hbind, hrest, rfl⟩ := bindFrom_cons_eq_ok h
      cases i with
      | zero =>
        cases hp
        cases hv
        exact ⟨q', rfl, hbind⟩
      | succ i =>
        have hnext := ih hrest hp hv
        rwa [Nat.add_right_comm, Nat.add_assoc] at hnext

/-- Binding that succeeds has found slots, and binds the arguments in them. -/
theorem exists_slots_of_bind {ps ps' : Parameters} {args : Arguments}
    (h : bind args ps = .ok () ps') :
    ∃ slots items, ps.slotsFor args = .ok slots ∧
      bindFrom 1 ps.items (slots.map args.get) = .ok () items ∧
      ps' = { ps with items, slots } := by
  unfold bind at h
  split at h
  · cases h
  · rename_i slots hslots
    split at h
    · cases h
    · rename_i items hbound
      cases h
      exact ⟨slots, items, hslots, hbound, rfl⟩

/-- Two parameters that hold the same input: of the same shape, and the same if they take
input. -/
def SameInput (p q : Parameter) : Prop :=
  p.shape = q.shape ∧ (p.binding.mode.isInput = true → p = q)

/-- **Binding forgets earlier inputs.**  Parameters of the same shape fail with the same error, or
hold the same inputs afterwards. -/
theorem bindFrom_agree (position : Nat)
    (hshape : items.map Parameter.shape = others.map Parameter.shape)
    (hlen : values.length = items.length) :
    (∃ e items' others', bindFrom position items values = .error e items' ∧
      bindFrom position others values = .error e others') ∨
    ∃ items' others', bindFrom position items values = .ok () items' ∧
      bindFrom position others values = .ok () others' ∧
      List.Forall₂ SameInput items' others' := by
  induction items generalizing others values position with
  | nil =>
    obtain rfl : others = [] := List.map_eq_nil_iff.mp hshape.symm
    exact Or.inr ⟨[], [], by simp [bindFrom], by simp [bindFrom], .nil⟩
  | cons p items ih =>
    cases others with
    | nil => cases hshape
    | cons q others =>
      obtain ⟨hpq, hrest⟩ := List.cons.inj hshape
      cases values with
      | nil => cases hlen
      | cons v values =>
        have hmode := Parameter.mode_eq_of_shape_eq hpq
        -- the heads fail together, or hold the same input
        have hhead : (∃ e, p.bind position v = .error e ∧ q.bind position v = .error e) ∨
            ∃ p' q', p.bind position v = .ok p' ∧ q.bind position v = .ok q' ∧
              SameInput p' q' := by
          by_cases hin : p.binding.mode.isInput = true
          · have heq : p.bind position v = q.bind position v :=
              Parameter.bind_eq_of_shape_eq hpq hin
            cases hbind : p.bind position v with
            | error e => exact Or.inl ⟨e, rfl, heq.symm.trans hbind⟩
            | ok p' =>
              exact Or.inr ⟨p', p', rfl, heq.symm.trans hbind, rfl, fun _ => rfl⟩
          · have hout := Bool.eq_false_iff.mpr hin
            exact Or.inr ⟨p, q, Parameter.bind_of_not_isInput hout,
              Parameter.bind_of_not_isInput (hmode ▸ hout), hpq, fun h => absurd h hin⟩
        rcases hhead with ⟨e, hp, hq⟩ | ⟨p', q', hp, hq, hsame⟩
        · exact Or.inl ⟨e, _, _, bindFrom_cons_error hp .., bindFrom_cons_error hq ..⟩
        · rw [bindFrom_cons_ok hp, bindFrom_cons_ok hq]
          rcases ih (position + 1) hrest (Nat.succ.inj hlen) with
            ⟨e, items', others', h, h'⟩ | ⟨items', others', h, h', hall⟩
          · exact Or.inl ⟨e, p' :: items', q' :: others', by rw [h], by rw [h']⟩
          · exact Or.inr ⟨p' :: items', q' :: others', by rw [h], by rw [h'], .cons hsame hall⟩

end Parameters
end SqlClient
