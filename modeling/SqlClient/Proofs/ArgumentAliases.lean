import SqlClient.Proofs.ArgumentTransfer
import SqlClient.Proofs.LobFrames

/-! # Large objects among arguments

Arguments own the aliases in them.  An execution writes its outputs over some of them and drops
what it writes over; outputs are never aliases themselves.  So what the arguments hold after it and
what was written over is together what they held before (`Parameters.aliasCount_assign`), and after an
execution, however it ends, every alias has an owner again (`Statement.passes_executeWith`).
-/
namespace SqlClient

open Scripted

namespace Arguments

/-- In place of an argument another one is held. -/
theorem aliasCount_set {args : Arguments} {slot : Nat} (hslot : slot < args.size) (v : Value) (id : Nat) :
    aliasCount (args.set slot v).values id + aliasCount [args.get slot] id =
      aliasCount args.values id + aliasCount [v] id := by
  have hfound : args.values[slot]? = some (args.get slot) := by
    rw [get, List.getElem?_eq_getElem hslot, Option.getD_some]
  have hcount := countP_set_add (fun v => decide (v.handle? = some id)) hfound v
  have hone (v : Value) : aliasCount [v] id = (decide (v.handle? = some id)).toNat := by
    by_cases halias : v.handle? = some id <;> simp [aliasCount, halias]
  rw [values_set, hone, hone]
  exact hcount

/-- Another slot keeps its argument. -/
theorem get_set_of_ne {args : Arguments} {slot other : Nat} (hne : slot ≠ other) (v : Value) :
    (args.set slot v).get other = args.get other := by
  rw [get, get, values_set, List.getElem?_set_ne hne]

end Arguments

namespace Parameters

variable {args args' : Arguments} {written : List (Nat × Value)} {ps : Parameters}

/-- **What is held after an assignment, with what was written over, is what was held before, with
what was written.** -/
theorem aliasCount_assign (h : assign args written = .ok args') (hnodup : (written.map (·.1)).Nodup)
    (id : Nat) :
    aliasCount args'.values id + aliasCount (written.map fun entry => args.get entry.1) id =
      aliasCount args.values id + aliasCount (written.map (·.2)) id := by
  induction written generalizing args with
  | nil =>
    cases h
    rfl
  | cons entry rest ih =>
    obtain ⟨slot, v⟩ := entry
    obtain ⟨hlt, hassign⟩ := assign_cons_eq_ok h
    obtain ⟨hfresh, hrest⟩ := List.nodup_cons.mp hnodup
    have hothers : (rest.map fun entry => (args.set slot v).get entry.1) =
        rest.map fun entry => args.get entry.1 := by
      apply List.map_congr_left
      intro entry hentry
      apply Arguments.get_set_of_ne
      rintro rfl
      exact hfresh (List.mem_map.mpr ⟨entry, hentry, rfl⟩)
    have hafter := ih hassign hrest
    have hset := Arguments.aliasCount_set hlt v id
    rw [hothers] at hafter
    rw [List.map_cons, List.map_cons, aliasCount_cons (args.get slot), aliasCount_cons v]
    omega

/-- No output is an alias. -/
theorem lob?_of_outputs (h : ps.outputs = .ok written) {entry : Nat × Value}
    (hentry : entry ∈ written) : entry.2.lob? = none := by
  obtain ⟨i, hi⟩ := List.mem_iff_getElem?.mp hentry
  obtain ⟨source, -, hsource⟩ := getElem?_of_forall₂ (mapM_eq_ok_iff.mp h).flip hi
  exact Buffer.lob?_of_decode (output_slot hsource).1

theorem aliasCount_of_outputs (h : ps.outputs = .ok written) (id : Nat) :
    aliasCount (written.map (·.2)) id = 0 := by
  rw [aliasCount, List.countP_eq_zero]
  intro v hv
  obtain ⟨entry, hentry, rfl⟩ := List.mem_map.mp hv
  simp [Value.handle?, lob?_of_outputs h hentry]

end Parameters

namespace Statement

variable {args args' : Arguments} {s s' : Statement} {w w' : ClientWorld}
  {x y : Statement × ClientWorld}

/-- **From owner to owner**: the arguments before own what the arguments after own, but for the
aliases that are dropped. -/
structure Passes (args : Arguments) (x : Statement × ClientWorld) (args' : Arguments)
    (y : Statement × ClientWorld) : Prop where
  owned : ∀ (base : Nat) (owners : Nat → Nat),
    World.Owned base (fun id => owners id + aliasCount args.values id) x.2 →
      World.Owned base (fun id => owners id + aliasCount args'.values id) y.2
  length : y.2.handles.length = x.2.handles.length
  fewer : World.Fewer x.2 y.2
  stored : ∀ limit, x.2.server.Stored limit → x.1.Stored limit → y.1.Stored limit

/-- What does not concern large objects leaves them to the same arguments. -/
theorem Passes.of_aside (h : Aside x y) : Passes args x args y := by
  have hgains := World.gains_of_lobState_eq h.lobState
  refine ⟨fun base owners howned => ?_, hgains.length, hgains.fewer, h.stored⟩
  have hhandles : y.2.handles = x.2.handles := congrArg (·.1) h.lobState
  have hclosed : y.2.server.closedLobs = x.2.server.closedLobs := congrArg (·.2.2.1) h.lobState
  exact ⟨hhandles ▸ howned.aliases, hhandles ▸ howned.live, by rw [hclosed, hhandles, howned.closed]⟩

/-- **Writing back drops what is written over.** -/
theorem passes_writeBack (hslots : ∀ ps, s.parameters? = some ps → ps.slots.Nodup) :
    Passes args (s, w) (leaves (writeBack (args, s, w))).1 (leaves (writeBack (args, s, w))).2 := by
  have hnothing : Passes args (s, w) args (s, w) := .of_aside (.refl _)
  simp only [writeBack]
  cases hparameters : s.parameters? with
  | none => exact hnothing
  | some ps =>
    simp only
    cases houtputs : ps.outputs with
    | error e => exact hnothing
    | ok outputs =>
      simp only
      cases hassign : Parameters.assign args outputs with
      | error e => exact hnothing
      | ok written =>
        have hnodup := Parameters.nodup_of_outputs houtputs (hslots ps hparameters)
        simp only [leaves_ok]
        refine ⟨fun base owners howned => ?_, World.length_releaseAll .., World.fewer_releaseAll ..,
          fun _ _ hs => hs⟩
        apply World.Owned.releaseAll
        refine howned.congr fun id => ?_
        have hcount := Parameters.aliasCount_assign hassign hnodup id
        have hplain := Parameters.aliasCount_of_outputs houtputs id
        omega

/-- **An execution with arguments** drops the aliases that it writes its outputs over, and no
others. -/
theorem passes_executeWith (args : Arguments) (s : Statement) (w : ClientWorld) :
    Passes args (s, w) (leaves (executeWith (args, s, w))).1
      (leaves (executeWith (args, s, w))).2 := by
  cases hlink : s.link with
  | none =>
    rw [executeWith_of_closed hlink]
    exact .of_aside (.refl _)
  | some link =>
    obtain ⟨h, _ | ps⟩ := link
    · rw [executeWith_of_direct hlink]
      exact .of_aside (.refl _)
    · have haside := aside_perform args (s, w)
      obtain ⟨entries, h', cursor, w', -, -, -, hperform⟩ := perform_eq hlink args w
      cases hresult : Parameters.perform args s.options h w.server ps with
      | error e ps' =>
        rw [hresult] at hperform
        rw [hperform] at haside
        rw [executeWith_of_error hlink hperform]
        exact .of_aside haside
      | ok count ps' =>
        obtain ⟨bound, outputs, hperformed⟩ := Parameters.perform_eq_ok_iff.mp hresult
        rw [hresult] at hperform
        rw [hperform] at haside
        rw [executeWith_of_result hlink hperform, leaves_bind_pure]
        obtain ⟨howned, hlength, hfewer, hstored⟩ := @passes_writeBack args
          { s with link := some ⟨h', some ps'⟩, cursor } w' (by
            rintro _ ⟨⟩
            exact hperformed.nodup_slots)
        have hbefore : Passes args (s, w) args _ := .of_aside haside
        exact ⟨fun base owners h => howned base owners (hbefore.owned base owners h),
          hlength.trans hbefore.length, hbefore.fewer.trans hfewer,
          fun limit hserver hs => hstored limit
            (Server.stored_of_lobState_eq (server_lobState_eq haside.lobState) hserver)
            (hbefore.stored limit hserver hs)⟩

end Statement
end SqlClient
