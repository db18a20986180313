import SqlClient.Proofs.ExecutionHistory
import SqlClient.Proofs.LobFrames

/-! # What a failed execution leaves to the caller

An execution with arguments can fail in many places: the statement is closed or direct, the server
refuses the options, an argument does not bind, the server fails, no cursor can be opened over the
result set, or an output cannot be read.  In all of them the caller has the arguments that were
passed in (`executeWith_error_keeps_arguments`), and the large objects they refer to have as many
aliases as before, since up to its result an execution leaves large objects alone
(`aside_perform`).

The last place is the delicate one, since outputs are assigned slot by slot.  All of them are read
before the first is assigned, and no slot lies beyond the arguments, so the failure is always one
of reading.
-/
namespace SqlClient

open Scripted

namespace Statement

variable {args args' : Arguments} {s s' : Statement} {w w' : ClientWorld} {e : Error}

theorem writeBack_error (h : writeBack (args, s, w) = .error e (args', s', w')) :
    args' = args ∧ s' = s ∧ w' = w := by
  simp only [writeBack] at h
  split at h
  · cases h
  · split at h
    · cases h
      exact ⟨rfl, rfl, rfl⟩
    · split at h
      · cases h
        exact ⟨rfl, rfl, rfl⟩
      · cases h

/-- A failed execution leaves the statement and the world as the steps up to the result leave them,
whether one of these steps failed or writing back did. -/
theorem perform_of_executeWith_error {h : Handle} {ps : Parameters}
    (hlink : s.link = some ⟨h, some ps⟩)
    (failed : executeWith (args, s, w) = .error e (args', s', w')) :
    args' = args ∧ (perform args (s, w) = .error e (s', w') ∨
      ∃ count, perform args (s, w) = .ok count (s', w')) := by
  cases hperform : perform args (s, w) with
  | error e' state =>
    rw [executeWith_of_error hlink hperform] at failed
    cases failed
    exact ⟨rfl, .inl rfl⟩
  | ok count state =>
    obtain ⟨s₁, w₁⟩ := state
    rw [executeWith_of_result hlink hperform] at failed
    cases hback : writeBack (args, s₁, w₁) with
    | ok _ state =>
      rw [run_bind_ok hback] at failed
      cases failed
    | error e' state =>
      rw [run_bind_error hback] at failed
      cases failed
      obtain ⟨rfl, rfl, rfl⟩ := writeBack_error hback
      exact ⟨rfl, .inr ⟨count, rfl⟩⟩

theorem executeWith_error (failed : executeWith (args, s, w) = .error e (args', s', w')) :
    args' = args ∧ w'.handles = w.handles := by
  cases hlink : s.link with
  | none =>
    rw [executeWith_of_closed hlink] at failed
    cases failed
    exact ⟨rfl, rfl⟩
  | some link =>
    obtain ⟨h, _ | ps⟩ := link
    · rw [executeWith_of_direct hlink] at failed
      cases failed
      exact ⟨rfl, rfl⟩
    · have hhandles := congrArg (·.1) (aside_perform args (s, w)).lobState
      obtain ⟨hargs, hperform | ⟨count, hperform⟩⟩ := perform_of_executeWith_error hlink failed
      · rw [hperform] at hhandles
        exact ⟨hargs, hhandles⟩
      · rw [hperform] at hhandles
        exact ⟨hargs, hhandles⟩

/-- After an execution that had a result, nothing but reading an output can fail. -/
theorem outputs_of_executeWith_error {h : Handle} {ps ps' : Parameters} {count : Int}
    (failed : executeWith (args, s, w) = .error e (args', s', w'))
    (hlink : s.link = some ⟨h, some ps⟩)
    (hperform : Parameters.perform args s.options h w.server ps = .ok count ps') :
    ps'.outputs = .error e := by
  obtain ⟨_, _, _, _, -, -, -, hexecute⟩ := executeWith_eq hlink args w
  obtain ⟨bound, outputs, hperformed⟩ := Parameters.perform_eq_ok_iff.mp hperform
  rw [hexecute, Parameters.transact, hperform] at failed
  cases hback : ps'.writeBack args with
  | ok written =>
    simp only [hback] at failed
    cases failed
  | error e' =>
    simp only [hback] at failed
    cases failed
    exact Parameters.outputs_of_writeBack_error hback hperformed.slot_lt

/-- **A failed execution keeps the arguments**, with their names and values, and with all that can
be seen of the values.  If the execution had come as far as writing back, an output could not be
read. -/
theorem executeWith_error_keeps_arguments
    (failed : executeWith (args, s, w) = .error e (args', s', w')) :
    args' = args ∧ args'.values.map w'.view = args.values.map w.view ∧
      ∀ h ps count ps', s.link = some ⟨h, some ps⟩ →
        Parameters.perform args s.options h w.server ps = .ok count ps' →
        ps'.outputs = .error e := by
  obtain ⟨rfl, hhandles⟩ := executeWith_error failed
  refine ⟨rfl, ?_, fun h ps count ps' hlink hperform =>
    outputs_of_executeWith_error failed hlink hperform⟩
  have hview : w'.view = w.view := by
    funext v
    cases v <;> simp [World.view, World.handle?, hhandles]
  rw [hview]

/-- The first output can be read, but the server has none for the second parameter, whose buffer
was never filled. -/
theorem executeWith_error_keeps_arguments_second :
    let ps : Parameters :=
      ⟨[⟨none, .varcharAscii, 5, 5, 0, 5, ⟨.text, .output, .new 5⟩⟩,
        ⟨none, .integer, 10, 10, 0, 10, ⟨.int32, .output, .new 4⟩⟩], false, []⟩
    let described (type : SqlType) := ParameterDescription.ofLength type.code 5 .output
    let server := Server.empty.register "CALL P(?, ?)"
      ⟨.call fun _ => .ok [.text "new"], [described .varcharAscii, described .integer], none⟩
    let h : Handle := { Handle.new with prepared := some "CALL P(?, ?)" }
    let args : Arguments := .positional [.text "old", .int32 7]
    ∃ s' w' count ps', executeWith (args, ⟨some ⟨h, some ps⟩, none, .empty⟩, .new server) =
        .error (.bufferTooSmall 4 0) (args, s', w') ∧
      Parameters.perform args .empty h server ps = .ok count ps' ∧
      ps'.outputs = .error (.bufferTooSmall 4 0) := by
  intro ps described server h args
  have hfailed : ∃ args' s' w', executeWith (args, ⟨some ⟨h, some ps⟩, none, .empty⟩,
      .new server) = .error (.bufferTooSmall 4 0) (args', s', w') := ⟨_, _, _, by cbv⟩
  have hperform : ∃ count ps', Parameters.perform args .empty h server ps = .ok count ps' :=
    ⟨_, _, by cbv⟩
  obtain ⟨args', s', w', hfailed⟩ := hfailed
  obtain ⟨count, ps', hperform⟩ := hperform
  obtain ⟨rfl, -, hread⟩ := executeWith_error_keeps_arguments hfailed
  exact ⟨s', w', count, ps', hfailed, hperform, hread h ps count ps' rfl hperform⟩

end Statement
end SqlClient
