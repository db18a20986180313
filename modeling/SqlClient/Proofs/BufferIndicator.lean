import SqlClient.Buffer.InPlace
import SqlClient.Proofs.CanonicalForm

/-! # The length indicator of a buffer

Bytes and length indicator are two fields of a buffer, and a reader trusts the indicator.  The two
agree (`Counted`): under the indicator of NULL there are no bytes, and any other indicator is the
number of bytes.

A change in place goes from field to field, and between two steps they do not agree.  `perform_eq`
says what the steps come to: the buffer that the operation gives, or the buffer as it was if the
operation is refused.  Whatever an operation gives is counted, also where the buffer before was not,
and so is every buffer after any run (`Counted.performAll`).
-/
namespace SqlClient.Buffer

variable {b b' : Buffer} {call : Call}

/-! ## What the steps of a change come to -/

/-- The buffer that an operation gives, or why it is refused. -/
def changed? (b : Buffer) : Call → Except Error Buffer
  | .putInt32 n => .ok (b.putInt32 n)
  | .putInt64 n => .ok (b.putInt64 n)
  | .putDouble d => .ok (b.putDouble d)
  | .putBytes data => b.putBytes data
  | .encode host v => b.encode host v
  | .setNull => .ok b.setNull
  | .clear => .ok b.clear
  | .reset capacity => .ok (b.reset capacity)

/-- A buffer that was changed, or is as it was because the change was refused. -/
def settle (b : Buffer) : Except Error Buffer → EStateM.Result Error Buffer Unit
  | .ok b' => .ok () b'
  | .error e => .error e b

theorem replaceByBytes_eq (data : Bytes) (b : Buffer) :
    replaceByBytes data b = b.settle (b.putBytes data) := by
  simp only [replaceByBytes, run_bind_get, putBytes]
  split <;> rfl

/-- A conversion comes in front of the first step, so one that fails leaves the buffer alone. -/
theorem ofExcept_bind_eq {α : Type} {x : Except Error α} {f : α → EStateM Error Buffer Unit}
    {g : α → Except Error Buffer} (h : ∀ a, f a b = b.settle (g a)) :
    ((MonadExcept.ofExcept x : EStateM Error Buffer α) >>= f) b = b.settle (x.bind g) := by
  cases x with
  | error e => rfl
  | ok a => exact h a

theorem replaceByValue_eq (host : HostType) (v : Value) (b : Buffer) :
    replaceByValue host v b = b.settle (b.encode host v) := by
  unfold replaceByValue encode
  split
  · rfl
  · cases host with
    | int32 => exact ofExcept_bind_eq (g := fun n => .ok (b.putInt32 n)) fun _ => rfl
    | int64 => exact ofExcept_bind_eq (g := fun n => .ok (b.putInt64 n)) fun _ => rfl
    | double => exact ofExcept_bind_eq (g := fun d => .ok (b.putDouble d)) fun _ => rfl
    | bytes | blob => exact ofExcept_bind_eq fun data => replaceByBytes_eq data b
    | decimal | text | clob =>
      exact ofExcept_bind_eq fun s => replaceByBytes_eq (Utf8.encode s) b

/-- **The steps of a change come to the buffer that the operation gives**, or to the buffer as it
was. -/
theorem perform_eq (call : Call) (b : Buffer) : perform call b = b.settle (b.changed? call) := by
  cases call with
  | putBytes data => exact replaceByBytes_eq data b
  | encode host v => exact replaceByValue_eq host v b
  | putInt32 | putInt64 | putDouble | setNull | clear | reset => rfl

/-- Bytes that do not fit do not even discard the others. -/
example :
    perform (.putBytes [1, 2]) ⟨[7], 1, 1⟩ = .error (.bufferTooSmall 2 1) ⟨[7], 1, 1⟩ := by rfl

/-- An operation changes the buffer, or is refused and leaves it as it was. -/
theorem perform_cases (call : Call) (b : Buffer) :
    (∃ b', b.changed? call = .ok b' ∧ perform call b = .ok () b') ∨
      ∃ e, perform call b = .error e b := by
  rw [perform_eq]
  cases hchanged : b.changed? call with
  | ok b' => exact .inl ⟨b', rfl, rfl⟩
  | error e => exact .inr ⟨e, rfl⟩

/-! ## What an operation gives -/

/-- **Indicator and bytes agree**: NULL has no bytes, and otherwise the indicator counts them. -/
def Counted (b : Buffer) : Prop :=
  b.indicator = nullIndicator ∧ b.content = [] ∨ b.indicator = b.content.length

theorem counted_of_putBytes {data : Bytes} (h : b.putBytes data = .ok b') : b'.Counted := by
  obtain ⟨-, rfl⟩ := putBytes_eq_ok_iff.mp h
  exact .inr rfl

theorem counted_putInt32 (b : Buffer) (n : Int32) : (b.putInt32 n).Counted :=
  .inr (congrArg Int.ofNat (Bytes.length_ofNat 4 _).symm)

theorem counted_putInt64 (b : Buffer) (n : Int64) : (b.putInt64 n).Counted :=
  .inr (congrArg Int.ofNat (Bytes.length_ofNat 8 _).symm)

theorem counted_putDouble (b : Buffer) (d : Binary64) : (b.putDouble d).Counted :=
  .inr (congrArg Int.ofNat (Bytes.length_ofNat 8 _).symm)

theorem counted_setNull (b : Buffer) : b.setNull.Counted := .inl ⟨rfl, rfl⟩

theorem counted_of_encode {host : HostType} {v : Value} (h : b.encode host v = .ok b') :
    b'.Counted := by
  rcases encode_cases h with ⟨-, rfl⟩ | ⟨-, hwritten⟩
  · exact b.counted_setNull
  · cases hwritten with
    | int32 => exact b.counted_putInt32 _
    | int64 => exact b.counted_putInt64 _
    | double => exact b.counted_putDouble _
    | bytes _ _ hput | text _ _ hput => exact counted_of_putBytes hput

/-- **Whatever an operation gives is counted**, whatever was in the buffer. -/
theorem counted_of_changed? (h : b.changed? call = .ok b') : b'.Counted := by
  cases call with
  | putBytes data => exact counted_of_putBytes h
  | encode host v => exact counted_of_encode h
  | putInt32 n => exact Except.ok.inj h ▸ b.counted_putInt32 n
  | putInt64 n => exact Except.ok.inj h ▸ b.counted_putInt64 n
  | putDouble d => exact Except.ok.inj h ▸ b.counted_putDouble d
  | setNull => exact Except.ok.inj h ▸ b.counted_setNull
  | clear | reset capacity => exact Except.ok.inj h ▸ .inr rfl

/-- Only `reset` gives another capacity. -/
theorem capacity_of_changed? (h : b.changed? call = .ok b') (hcall : ∀ n, call ≠ .reset n) :
    b'.capacity = b.capacity := by
  cases call with
  | putBytes data => exact capacity_of_putBytes h
  | encode host v => exact capacity_of_encode h
  | reset capacity => exact absurd rfl (hcall capacity)
  | putInt32 | putInt64 | putDouble | setNull | clear => exact Except.ok.inj h ▸ rfl

/-! ## Runs -/

theorem Counted.perform (h : b.Counted) (call : Call) : (leaves (perform call b)).Counted := by
  rcases perform_cases call b with ⟨b', hchanged, hperform⟩ | ⟨e, hperform⟩
  · rw [hperform]
    exact counted_of_changed? hchanged
  · rwa [hperform]

theorem capacity_perform (hcall : ∀ n, call ≠ .reset n) (b : Buffer) :
    (leaves (perform call b)).capacity = b.capacity := by
  rcases perform_cases call b with ⟨b', hchanged, hperform⟩ | ⟨e, hperform⟩
  · rw [hperform]
    exact capacity_of_changed? hchanged hcall
  · rw [hperform, leaves_error]

/-- An operation that is refused leaves the buffer as it was. -/
theorem eq_of_perform_error {e : Error} (h : perform call b = .error e b') : b' = b := by
  rcases perform_cases call b with ⟨_, -, hperform⟩ | ⟨e', hperform⟩
  · cases hperform.symm.trans h
  · cases hperform.symm.trans h
    rfl

/-- The buffer after operations one after the other, those that are refused included. -/
def performAll (calls : List Call) (b : Buffer) : Buffer :=
  calls.foldl (fun b call => leaves (perform call b)) b

theorem Origin.counted (origin : Origin) : origin.buffer.Counted := by
  cases origin <;> exact .inr rfl

theorem Counted.performAll (h : b.Counted) (calls : List Call) : (performAll calls b).Counted := by
  induction calls generalizing b with
  | nil => exact h
  | cons call calls ih => exact ih (h.perform call)

/-- **What a reader relies on**, and what the next operation does with it. -/
structure Coherent (b : Buffer) : Prop where
  /-- The buffer holds NULL and no bytes, or as many bytes as it says. -/
  shown : b.indicator = -1 ∧ b.content = [] ∧ b.length? = none ∧ b.bytes? = none ∨
    b.indicator = b.content.length ∧ b.length? = some b.content.length ∧
      b.bytes? = some b.content
  /-- The capacity changes by `reset` only. -/
  capacity : ∀ call, (∀ n, call ≠ .reset n) → (leaves (perform call b)).capacity = b.capacity
  /-- Bytes, indicator and capacity survive an operation that is refused. -/
  refused : ∀ call e b', perform call b = .error e b' →
    b'.content = b.content ∧ b'.indicator = b.indicator ∧ b'.capacity = b.capacity

theorem Counted.coherent (h : b.Counted) : b.Coherent where
  shown := by
    rcases h with ⟨hnull, hcontent⟩ | hcount
    · have hisNull : b.isNull = true := beq_iff_eq.mpr hnull
      exact .inl ⟨hnull, hcontent, if_pos hisNull, if_pos hisNull⟩
    · have hisNull : ¬ b.isNull = true := by
        rw [isNull, beq_iff_eq, hcount, nullIndicator]
        omega
      exact .inr ⟨hcount, if_neg hisNull, if_neg hisNull⟩
  capacity := fun call hcall => capacity_perform hcall b
  refused := by
    intro call e b' hrefused
    rw [eq_of_perform_error hrefused]
    exact ⟨rfl, rfl, rfl⟩

/-- **A buffer is coherent after every run**, however it was made and whatever was refused. -/
theorem coherent_of_run (origin : Origin) (calls : List Call) :
    (performAll calls origin.buffer).Coherent :=
  (origin.counted.performAll calls).coherent

end SqlClient.Buffer
