import SqlClient.Proofs.RowDecoding
import SqlClient.Proofs.ScriptedObjects

/-! # Who owns a LOB handle

A handle lives as long as it has aliases, and every alias has an owner.  `World.Owned` says that
the aliases of each handle are as many as its owners, and that the server was asked to close as
many objects as there are handles that are open no longer.  It is kept when an alias is made or
dropped, when a handle is entered, and by every call on a handle.

A value that is dropped gives up the alias it is (`Owned.releaseAll`).  So decoding a row, which
opens handles as it goes and drops them when a column fails, leaves the values of the row as the
owners of all that is new, or nothing (`gains_decodeCells`).
-/
namespace SqlClient

open Scripted

/-- What a server knows of large objects: the contents, how many objects it was given back, and
the scripts, which name contents. -/
def Scripted.Server.lobState (s : Server) : List Bytes × Nat × List (String × Script) :=
  (s.contents, s.closedLobs, s.scripts)

/-- The number of the handle that a value is an alias of. -/
def Value.handle? (v : Value) : Option Nat := v.lob?.map LobRef.id

/-- How many of some values are aliases of the handle of a number. -/
def aliasCount (vs : List Value) (id : Nat) : Nat := vs.countP fun v => v.handle? = some id

@[simp] theorem aliasCount_nil (id : Nat) : aliasCount [] id = 0 := rfl

theorem aliasCount_cons (v : Value) (vs : List Value) (id : Nat) :
    aliasCount (v :: vs) id = aliasCount vs id + aliasCount [v] id := by
  simp [aliasCount, List.countP_cons]

theorem aliasCount_append (us vs : List Value) (id : Nat) :
    aliasCount (us ++ vs) id = aliasCount us id + aliasCount vs id :=
  List.countP_append

theorem aliasCount_lob (ref : LobRef) (id : Nat) :
    aliasCount [.lob ref] id = if ref.id = id then 1 else 0 := by
  simp [aliasCount, Value.handle?, Value.lob?]

theorem aliasCount_of_lob?_eq_none {v : Value} (h : v.lob? = none) (id : Nat) : aliasCount [v] id = 0 := by
  simp [aliasCount, Value.handle?, h]

/-- What is found after an element was replaced. -/
theorem getElem?_set_cases {α : Type} {l : List α} {i j : Nat} {a b : α}
    (h : (l.set i a)[j]? = some b) : j = i ∧ b = a ∨ j ≠ i ∧ l[j]? = some b := by
  by_cases hj : i = j
  · subst hj
    obtain ⟨hlt, hb⟩ := List.getElem?_eq_some_iff.mp h
    exact .inl ⟨rfl, by rw [← hb, List.getElem_set_self]⟩
  · rw [List.getElem?_set_ne hj] at h
    exact .inr ⟨Ne.symm hj, h⟩

/-- In place of an element another one is counted. -/
theorem countP_set_add {α : Type} (p : α → Bool) {l : List α} {i : Nat} {a : α}
    (h : l[i]? = some a) (b : α) :
    (l.set i b).countP p + (p a).toNat = l.countP p + (p b).toNat := by
  induction l generalizing i with
  | nil => cases h
  | cons c rest ih =>
    cases i with
    | zero =>
      have hhead : c = a := Option.some.inj h
      rw [List.set_cons_zero, List.countP_cons, List.countP_cons, hhead]
      cases p a <;> cases p b <;> simp
    | succ i =>
      have hrest := ih h
      rw [List.set_cons_succ, List.countP_cons, List.countP_cons]
      omega

namespace World

variable {w w' w'' : ClientWorld} {base : Nat} {owners owners' : Nat → Nat} {id : Nat}
  {x x' : LobHandle Lob}

/-- Dropping an alias of a handle that there is. -/
theorem dropAlias_of_some {ref : LobRef} (hfound : w.handles[ref.id]? = some x) :
    w.dropAlias ref =
      if x.aliases ≤ 1 ∧ x.isOpen = true then
        ⟨{ w.server with closedLobs := w.server.closedLobs + 1 },
          w.handles.set ref.id { x with aliases := x.aliases - 1, isOpen := false }⟩
      else ⟨w.server, w.handles.set ref.id { x with aliases := x.aliases - 1 }⟩ := by
  have hlast : x.aliases - 1 = 0 ↔ x.aliases ≤ 1 := by omega
  simp only [World.dropAlias, World.handle?, hfound, LobHandle.drop, hlast]
  by_cases hclose : x.aliases ≤ 1 ∧ x.isOpen = true
  · rw [if_pos hclose, if_pos hclose]
    rfl
  · rw [if_neg hclose, if_neg hclose]

theorem dropAlias_of_none {ref : LobRef} (habsent : w.handles[ref.id]? = none) :
    w.dropAlias ref = w := by
  simp [World.dropAlias, World.handle?, habsent]

/-- What a call leaves of a handle that there is. -/
theorem leaves_call_of_some {ref : LobRef} (hfound : w.handles[ref.id]? = some x) (c : LobCall) :
    leaves (w.call ref c) =
      ⟨(leaves (LobHandle.perform c (x, w.server))).2,
        w.handles.set ref.id (leaves (LobHandle.perform c (x, w.server))).1⟩ := by
  simp only [World.call, World.onHandle, World.handle?, hfound]
  cases LobHandle.perform c (x, w.server) <;> rfl

theorem leaves_call_of_none {ref : LobRef} (habsent : w.handles[ref.id]? = none) (c : LobCall) :
    leaves (w.call ref c) = w := by
  simp [World.call, World.onHandle, World.handle?, habsent]

/-! ## Owners -/

/-- **Every alias has an owner**, and the server was asked to close what is open no longer. -/
structure Owned (base : Nat) (owners : Nat → Nat) (w : ClientWorld) : Prop where
  aliases : ∀ (id : Nat) (x : LobHandle Lob), w.handles[id]? = some x → x.aliases = owners id
  live : ∀ (id : Nat) (x : LobHandle Lob), w.handles[id]? = some x → x.isOpen = true →
    0 < x.aliases
  closed : w.server.closedLobs + w.handles.countP LobHandle.isOpen = base + w.handles.length

/-- The owners, counted in another way. -/
theorem Owned.congr (h : Owned base owners w) (hsame : ∀ id, owners' id = owners id) :
    Owned base owners' w := by
  obtain rfl : owners' = owners := funext hsame
  exact h

/-- One handle is replaced. -/
theorem Owned.set {server : Server} (h : Owned base owners w) (hfound : w.handles[id]? = some x)
    (haliases : x'.aliases = owners' id) (hothers : ∀ j, j ≠ id → owners' j = owners j)
    (hlive : x'.isOpen = true → 0 < x'.aliases)
    (hclosed : server.closedLobs + x'.isOpen.toNat = w.server.closedLobs + x.isOpen.toNat) :
    Owned base owners' ⟨server, w.handles.set id x'⟩ := by
  refine ⟨fun j y hy => ?_, fun j y hy => ?_, ?_⟩
  · rcases getElem?_set_cases hy with ⟨rfl, rfl⟩ | ⟨hj, hy⟩
    · exact haliases
    · rw [hothers j hj]
      exact h.aliases j y hy
  · rcases getElem?_set_cases hy with ⟨rfl, rfl⟩ | ⟨-, hy⟩
    · exact hlive
    · exact h.live j y hy
  · have hcount := countP_set_add LobHandle.isOpen hfound x'
    have hbefore := h.closed
    show server.closedLobs + (w.handles.set id x').countP LobHandle.isOpen =
      base + (w.handles.set id x').length
    rw [List.length_set]
    omega

/-- The owners of a number that is no handle do not matter. -/
theorem Owned.of_absent (h : Owned base owners w) (habsent : w.handles[id]? = none)
    (hothers : ∀ j, j ≠ id → owners' j = owners j) : Owned base owners' w := by
  refine ⟨fun j y hy => ?_, h.live, h.closed⟩
  have hj : j ≠ id := by
    rintro rfl
    rw [habsent] at hy
    cases hy
  rw [hothers j hj]
  exact h.aliases j y hy

/-- **An alias that is made has an owner more.** -/
theorem Owned.addAlias (h : Owned base owners w) (ref : LobRef) :
    Owned base (fun id => owners id + aliasCount [.lob ref] id) (w.addAlias ref) := by
  have hothers (j : Nat) (hj : j ≠ ref.id) : owners j + aliasCount [.lob ref] j = owners j := by
    rw [aliasCount_lob, if_neg (Ne.symm hj), Nat.add_zero]
  cases hfound : w.handles[ref.id]? with
  | none =>
    have hsame : w.addAlias ref = w := by
      simp [World.addAlias, List.modify_eq_set_getElem?, hfound]
    rw [hsame]
    exact h.of_absent hfound hothers
  | some x =>
    have hset : w.addAlias ref = ⟨w.server, w.handles.set ref.id x.addAlias⟩ := by
      simp [World.addAlias, List.modify_eq_set_getElem?, hfound]
    have haliases : x.addAlias.aliases = owners ref.id + aliasCount [.lob ref] ref.id := by
      rw [aliasCount_lob, if_pos rfl, ← h.aliases ref.id x hfound]
      rfl
    rw [hset]
    exact h.set hfound haliases hothers (fun _ => Nat.succ_pos x.aliases) rfl

/-- **An alias that is dropped has an owner less**, and the last one closes what is open. -/
theorem Owned.dropAlias {ref : LobRef}
    (h : Owned base (fun id => owners id + aliasCount [.lob ref] id) w) :
    Owned base owners (w.dropAlias ref) := by
  have hothers (j : Nat) (hj : j ≠ ref.id) : owners j = owners j + aliasCount [.lob ref] j := by
    rw [aliasCount_lob, if_neg (Ne.symm hj), Nat.add_zero]
  cases hfound : w.handles[ref.id]? with
  | none =>
    rw [dropAlias_of_none hfound]
    exact h.of_absent hfound hothers
  | some x =>
    have haliases : x.aliases = owners ref.id + 1 := by
      rw [h.aliases ref.id x hfound, aliasCount_lob, if_pos rfl]
    rw [dropAlias_of_some hfound]
    by_cases hlast : x.aliases ≤ 1 ∧ x.isOpen = true
    · rw [if_pos hlast]
      exact h.set hfound (by simp only; omega) hothers nofun (by simp [hlast.2])
    · rw [if_neg hlast]
      refine h.set hfound (by simp only; omega) hothers (fun hopen => ?_) rfl
      have hmore : ¬x.aliases ≤ 1 := fun hone => hlast ⟨hone, hopen⟩
      simp only
      omega

/-- A call on a handle makes no alias and drops none. -/
theorem Owned.call (h : Owned base owners w) (ref : LobRef) (c : LobCall) :
    Owned base owners (leaves (w.call ref c)) := by
  cases hfound : w.handles[ref.id]? with
  | none =>
    rw [leaves_call_of_none hfound]
    exact h
  | some x =>
    rw [leaves_call_of_some hfound, LobHandle.leaves_perform]
    cases hrequest : x.request? c with
    | error e => exact h.set hfound (h.aliases _ x hfound) (fun _ _ => rfl) (h.live _ x hfound) rfl
    | ok r =>
      obtain ⟨_, _, contents, hserve, -⟩ := Lob.leaves_serve x.lob w.server r
      have hopen := LobHandle.isOpen_of_request? hrequest
      have hlive := h.live _ x hfound hopen
      refine h.set hfound (h.aliases _ x hfound) (fun _ _ => rfl) (fun _ => hlive) ?_
      simp only [hserve, hopen]
      by_cases hclose : r = .close
      · subst hclose
        simp [LobHandle.after, Lob.fulfilled_close]
      · simp [LobHandle.after, hclose, hopen]

/-- **A handle that is entered** belongs to whoever gets its reference. -/
theorem Owned.enter (h : Owned base owners w) (hfresh : owners w.handles.length = 0) (lob : Lob)
    (kind : LobKind) :
    Owned base (fun id => owners id + aliasCount [.lob (w.enter lob kind).1] id)
      (w.enter lob kind).2 := by
  have hget (j : Nat) (y : LobHandle Lob) (hy : (w.handles ++ [.new lob kind])[j]? = some y) :
      w.handles[j]? = some y ∧ j ≠ w.handles.length ∨
        j = w.handles.length ∧ y = .new lob kind := by
    rcases Nat.lt_trichotomy j w.handles.length with hlt | rfl | hgt
    · rw [List.getElem?_append_left hlt] at hy
      exact .inl ⟨hy, Nat.ne_of_lt hlt⟩
    · rw [List.getElem?_concat_length] at hy
      exact .inr ⟨rfl, (Option.some.inj hy).symm⟩
    · rw [List.getElem?_eq_none (by simp; omega)] at hy
      cases hy
  have hid : (w.enter lob kind).1.id = w.handles.length := rfl
  refine ⟨fun j y hy => ?_, fun j y hy hopen => ?_, ?_⟩
  · rw [aliasCount_lob, hid]
    rcases hget j y hy with ⟨hold, hj⟩ | ⟨rfl, rfl⟩
    · rw [if_neg (Ne.symm hj)]
      exact h.aliases j y hold
    · rw [hfresh, if_pos rfl]
      rfl
  · rcases hget j y hy with ⟨hold, -⟩ | ⟨-, rfl⟩
    · exact h.live j y hold hopen
    · exact Nat.one_pos
  · have hcount : (w.handles ++ [LobHandle.new lob kind]).countP LobHandle.isOpen =
        w.handles.countP LobHandle.isOpen + 1 := by
      rw [List.countP_append]
      rfl
    have hbefore := h.closed
    show w.server.closedLobs + (w.handles ++ [LobHandle.new lob kind]).countP LobHandle.isOpen =
      base + (w.handles ++ [LobHandle.new lob kind]).length
    rw [hcount, List.length_append, List.length_singleton]
    omega

/-! ## Many aliases -/

/-- Values that are shared have owners more. -/
theorem Owned.shareAll (h : Owned base owners w) (vs : List Value) :
    Owned base (fun id => owners id + aliasCount vs id) (vs.foldl World.share w) := by
  induction vs generalizing owners w with
  | nil => exact h
  | cons v vs ih =>
    have hfirst : Owned base (fun id => owners id + aliasCount [v] id) (w.share v) := by
      cases v with
      | lob ref => exact h.addAlias ref
      | _ => exact h
    refine (ih hfirst).congr fun id => ?_
    rw [aliasCount_cons v vs]
    omega

/-- **Values that are dropped have owners less.** -/
theorem Owned.releaseAll {vs : List Value}
    (h : Owned base (fun id => owners id + aliasCount vs id) w) : Owned base owners (w.releaseAll vs) := by
  induction vs generalizing w with
  | nil => exact h
  | cons v vs ih =>
    have hall : Owned base (fun id => owners id + aliasCount vs id + aliasCount [v] id) w :=
      h.congr fun id => by rw [aliasCount_cons v vs]; omega
    have hfirst : Owned base (fun id => owners id + aliasCount vs id) (w.release v) := by
      cases v with
      | lob ref => exact hall.dropAlias
      | _ => exact hall
    exact ih hfirst

/-! ## What is left of handles -/

/-- **Aliases may have been dropped**, with the last of which a handle is open no longer.  Nothing
else happened to the handles there were, and to what they read. -/
structure Fewer (w w' : ClientWorld) : Prop where
  handle : ∀ (id : Nat) (x : LobHandle Lob), w.handles[id]? = some x →
    ∃ x', w'.handles[id]? = some x' ∧ x'.lob = x.lob ∧ x'.kind = x.kind ∧
      x'.aliases ≤ x.aliases ∧ (x'.isOpen = x.isOpen ∨ x'.aliases = 0)
  contents : w.server.contents <+: w'.server.contents
  scripts : w'.server.scripts = w.server.scripts

theorem Fewer.refl (w : ClientWorld) : Fewer w w where
  handle := fun _ x hx => ⟨x, hx, rfl, rfl, le_refl _, .inl rfl⟩
  contents := List.prefix_rfl
  scripts := rfl

theorem Fewer.trans (hfirst : Fewer w w') (hnext : Fewer w' w'') : Fewer w w'' where
  handle := by
    intro id x hx
    obtain ⟨x', hx', hlob, hkind, hle, hopen⟩ := hfirst.handle id x hx
    obtain ⟨x'', hx'', hlob', hkind', hle', hopen'⟩ := hnext.handle id x' hx'
    refine ⟨x'', hx'', hlob'.trans hlob, hkind'.trans hkind, hle'.trans hle, ?_⟩
    rcases hopen with hopen | hdead
    · rwa [hopen] at hopen'
    · exact .inr (by omega)
  contents := hfirst.contents.trans hnext.contents
  scripts := hnext.scripts.trans hfirst.scripts

theorem fewer_dropAlias (w : ClientWorld) (ref : LobRef) : Fewer w (w.dropAlias ref) := by
  cases hfound : w.handles[ref.id]? with
  | none =>
    rw [dropAlias_of_none hfound]
    exact .refl w
  | some x =>
    have hlt : ref.id < w.handles.length := (List.getElem?_eq_some_iff.mp hfound).1
    have hset (server : Server) (x' : LobHandle Lob)
        (hcontents : server.contents = w.server.contents)
        (hscripts : server.scripts = w.server.scripts)
        (hx' : x'.lob = x.lob ∧ x'.kind = x.kind ∧ x'.aliases ≤ x.aliases ∧
          (x'.isOpen = x.isOpen ∨ x'.aliases = 0)) :
        Fewer w ⟨server, w.handles.set ref.id x'⟩ := by
      refine ⟨fun j y hy => ?_, hcontents ▸ List.prefix_rfl, hscripts⟩
      by_cases hj : ref.id = j
      · subst hj
        cases hfound.symm.trans hy
        exact ⟨x', List.getElem?_set_self hlt, hx'⟩
      · exact ⟨y, (List.getElem?_set_ne hj).trans hy, rfl, rfl, le_refl _, .inl rfl⟩
    rw [dropAlias_of_some hfound]
    by_cases hlast : x.aliases ≤ 1 ∧ x.isOpen = true
    · rw [if_pos hlast]
      have hzero : x.aliases - 1 = 0 := Nat.sub_eq_zero_of_le hlast.1
      exact hset _ _ rfl rfl ⟨rfl, rfl, Nat.sub_le .., .inr hzero⟩
    · rw [if_neg hlast]
      exact hset _ _ rfl rfl ⟨rfl, rfl, Nat.sub_le .., .inl rfl⟩

theorem fewer_releaseAll (w : ClientWorld) (vs : List Value) : Fewer w (w.releaseAll vs) := by
  induction vs generalizing w with
  | nil => exact .refl w
  | cons v vs ih =>
    have hfirst : Fewer w (w.release v) := by
      cases v with
      | lob ref => exact fewer_dropAlias w ref
      | _ => exact .refl w
    exact hfirst.trans (ih _)

theorem length_dropAlias (w : ClientWorld) (ref : LobRef) :
    (w.dropAlias ref).handles.length = w.handles.length := by
  cases hfound : w.handles[ref.id]? with
  | none => rw [dropAlias_of_none hfound]
  | some x =>
    rw [dropAlias_of_some hfound]
    split <;> exact List.length_set

theorem length_releaseAll (w : ClientWorld) (vs : List Value) :
    (w.releaseAll vs).handles.length = w.handles.length := by
  induction vs generalizing w with
  | nil => rfl
  | cons v vs ih =>
    refine (ih _).trans ?_
    cases v with
    | lob ref => exact length_dropAlias w ref
    | _ => rfl

/-! ## Handles that are opened -/

/-- **Some handles were opened**, and the aliases that are left of them are these values. -/
structure Gains (w : ClientWorld) (opened : Nat) (vs : List Value) (w' : ClientWorld) : Prop where
  length : w'.handles.length = w.handles.length + opened
  owned : ∀ (base : Nat) (owners : Nat → Nat), (∀ id, w.handles.length ≤ id → owners id = 0) →
    Owned base owners w → Owned base (fun id => owners id + aliasCount vs id) w'
  known : ∀ id, w'.handles.length ≤ id → aliasCount vs id = 0
  fewer : Fewer w w'

theorem Gains.refl (w : ClientWorld) : Gains w 0 [] w :=
  ⟨rfl, fun _ _ _ h => h, fun _ _ => rfl, .refl w⟩

/-- First some handles are opened, and then more. -/
theorem Gains.trans {m n : Nat} {us vs : List Value} (hfirst : Gains w m us w')
    (hnext : Gains w' n vs w'') : Gains w (m + n) (us ++ vs) w'' where
  length := by rw [hnext.length, hfirst.length, Nat.add_assoc]
  owned := by
    intro base owners hfresh howned
    have hknown (id : Nat) (hid : w'.handles.length ≤ id) : owners id + aliasCount us id = 0 := by
      rw [hfirst.known id hid, hfresh id (by have := hfirst.length; omega)]
    refine (hnext.owned base _ hknown (hfirst.owned base owners hfresh howned)).congr fun id => ?_
    rw [aliasCount_append]
    omega
  known := by
    intro id hid
    rw [aliasCount_append, hnext.known id hid, hfirst.known id (by have := hnext.length; omega)]
  fewer := hfirst.fewer.trans hnext.fewer

/-- Values that were gained are dropped again. -/
theorem Gains.releaseAll {n : Nat} {vs : List Value} (h : Gains w n vs w') :
    Gains w n [] (w'.releaseAll vs) where
  length := (length_releaseAll w' vs).trans h.length
  owned := fun base owners hfresh howned => (h.owned base owners hfresh howned).releaseAll
  known := fun _ _ => rfl
  fewer := h.fewer.trans (fewer_releaseAll w' vs)

/-- A value that is no alias is gained for nothing. -/
theorem Gains.of_plain {n : Nat} {v : Value} (h : Gains w n [] w') (hplain : v.lob? = none) :
    Gains w n [v] w' where
  length := h.length
  owned := fun base owners hfresh howned =>
    (h.owned base owners hfresh howned).congr fun id => by
      rw [aliasCount_of_lob?_eq_none hplain, aliasCount_nil]
  known := fun id _ => aliasCount_of_lob?_eq_none hplain id
  fewer := h.fewer

/-- All that concerns large objects: the handles, and what the server knows of objects. -/
def lobState (w : ClientWorld) :
    List (LobHandle Lob) × List Bytes × Nat × List (String × Script) :=
  (w.handles, w.server.lobState)

/-- Where nothing concerns large objects, nothing is gained. -/
theorem gains_of_lobState_eq (h : w'.lobState = w.lobState) : Gains w 0 [] w' := by
  simp only [lobState, Server.lobState, Prod.mk.injEq] at h
  obtain ⟨hhandles, hcontents, hclosed, hscripts⟩ := h
  refine ⟨by rw [hhandles]; rfl, fun base owners _ howned => ?_, fun _ _ => rfl, ?_⟩
  · obtain ⟨haliases, hlive, hcount⟩ := howned
    exact ⟨hhandles ▸ haliases, hhandles ▸ hlive, by rw [hclosed, hhandles, hcount]⟩
  · exact ⟨fun id x hx => ⟨x, hhandles ▸ hx, rfl, rfl, le_refl _, .inl rfl⟩,
      hcontents ▸ List.prefix_rfl, hscripts⟩

/-- A handle that is entered belongs to its reference. -/
theorem gains_enter (w : ClientWorld) (lob : Lob) (kind : LobKind) :
    Gains w 1 [.lob (w.enter lob kind).1] (w.enter lob kind).2 where
  length := by simp [World.enter]
  owned := fun base owners hfresh howned => howned.enter (hfresh _ (le_refl _)) lob kind
  known := by
    intro id hid
    rw [aliasCount_lob]
    simp only [World.enter, List.length_append, List.length_singleton] at hid ⊢
    exact if_neg (by omega)
  fewer := by
    refine ⟨fun id x hx => ?_, List.prefix_rfl, rfl⟩
    have hlt := (List.getElem?_eq_some_iff.mp hx).1
    exact ⟨x, (List.getElem?_append_left hlt).trans hx, rfl, rfl, le_refl _, .inl rfl⟩

/-- A content of its own is kept besides those there were. -/
theorem gains_lobContent (w : ClientWorld) (cell : Cell) :
    Gains w 0 [] { w with server := (ResultSet.lobContent w.server cell).2 } := by
  have hserver : ∃ more, (ResultSet.lobContent w.server cell).2 =
      { w.server with contents := w.server.contents ++ more } := by
    cases cell with
    | null | lob => exact ⟨[], by simp [ResultSet.lobContent]⟩
    | int | double | text | bytes => exact ⟨_, rfl⟩
  obtain ⟨more, hserver⟩ := hserver
  rw [hserver]
  exact ⟨rfl, fun _ _ _ h => ⟨h.aliases, h.live, h.closed⟩, fun _ _ => rfl,
    ⟨fun id x hx => ⟨x, hx, rfl, rfl, le_refl _, .inl rfl⟩, List.prefix_append .., rfl⟩⟩

end World

/-! ## Rows -/

/-- The values that an operation gave to its caller; there are none of one that failed. -/
def given {σ α : Type} (values : α → List Value) (result : EStateM.Result Error σ α) :
    List Value :=
  ((result? result).map values).getD []

/-- Nothing that is read from a buffer is an alias. -/
theorem Buffer.lob?_of_decode {b : Buffer} {host : HostType} {v : Value}
    (h : b.decode host = .ok v) : v.lob? = none := by
  rw [decode] at h
  cases hbytes : b.bytes? with
  | none =>
    simp only [hbytes] at h
    cases h
    rfl
  | some content =>
    simp only [hbytes] at h
    cases host with
    | int32 | int64 | double =>
      obtain ⟨n, -, rfl⟩ := map_eq_ok h
      rfl
    | bytes | blob =>
      cases h
      rfl
    | decimal | text | clob =>
      cases hdecode : Utf8.decode content with
      | error fault =>
        simp only [hdecode] at h
        cases h
      | ok text =>
        simp only [hdecode] at h
        cases h
        rfl

namespace Scripted

/-- A handle is opened for every large object that is not NULL. -/
def Cell.handles (column : Column) (cell : Cell) : Nat :=
  if column.hostType.isLob ∧ cell ≠ .null then 1 else 0

/-- The number of handles that are opened when cells are decoded from a column on: one for each
large object in front of the first column that fails. -/
def handlesOpened (cell : Nat → Except Error Cell) (number : Nat) :
    List Column → ClientWorld → Nat
  | [], _ => 0
  | column :: rest, w =>
    match cell number with
    | .error _ => 0
    | .ok c =>
      match c.decode column w with
      | .ok _ w => c.handles column + handlesOpened cell (number + 1) rest w
      | .error _ _ => 0

variable {w w' : ClientWorld} {e : Error}

/-- A cell that cannot be decoded changes nothing. -/
theorem Cell.decode_eq_error {column : Column} {cell : Cell}
    (h : cell.decode column w = .error e w') : w' = w := by
  unfold Cell.decode at h
  split at h
  · split at h <;> cases h
  · split at h
    · cases h
    · cases h
      rfl

theorem lobContent_eq_none_iff (s : Server) (cell : Cell) :
    (ResultSet.lobContent s cell).1 = none ↔ cell = .null := by
  cases cell <;> simp [ResultSet.lobContent]

/-- **How a cell is decoded**: as a plain value and nothing else happens, or as the alias of a handle
that is entered for its content. -/
theorem Cell.decode_eq_ok {column : Column} {cell : Cell} {v : Value}
    (h : cell.decode column w = .ok v w') :
    (cell.handles column = 0 ∧ v.lob? = none ∧ w' = w) ∨
      ∃ kind content server, cell.handles column = 1 ∧
        ResultSet.lobContent w.server cell = (some content, server) ∧
        v = .lob (World.enter { w with server } (Lob.new content kind) kind).1 ∧
        w' = (World.enter { w with server } (Lob.new content kind) kind).2 := by
  unfold Cell.decode at h
  cases hkind : column.hostType.lobKind? with
  | none =>
    simp only [hkind] at h
    cases hread : (ResultSet.putCell w.server column.hostType cell (.new column.bufferSize)).bind
        (·.decode column.hostType) with
    | error e =>
      rw [hread] at h
      cases h
    | ok v' =>
      rw [hread] at h
      cases h
      obtain ⟨buffer, -, hdecode⟩ := bind_eq_ok hread
      exact .inl ⟨by simp [Cell.handles, HostType.isLob, hkind], Buffer.lob?_of_decode hdecode, rfl⟩
  | some kind =>
    simp only [hkind] at h
    by_cases hnull : cell = .null
    · subst hnull
      cases h
      exact .inl ⟨if_neg fun hsome => hsome.2 rfl, rfl, rfl⟩
    · have hsome := mt (lobContent_eq_none_iff w.server cell).mp hnull
      have hone : cell.handles column = 1 :=
        if_pos ⟨by simp [HostType.isLob, hkind], hnull⟩
      rcases hcontent : ResultSet.lobContent w.server cell with ⟨_ | content, server⟩
      · exact absurd (congrArg Prod.fst hcontent) hsome
      · rw [hcontent] at h
        cases h
        exact .inr ⟨kind, content, server, hone, rfl, rfl, rfl⟩

/-- **A cell that is decoded** opens a handle for a large object, and the value is its alias. -/
theorem Cell.gains_decode {column : Column} {cell : Cell} {v : Value}
    (h : cell.decode column w = .ok v w') : World.Gains w (cell.handles column) [v] w' := by
  rcases Cell.decode_eq_ok h with
    ⟨hnone, hplain, rfl⟩ | ⟨kind, content, server, hone, hcontent, rfl, rfl⟩
  · rw [hnone]
    exact (World.Gains.refl w').of_plain hplain
  · have hstored := w.gains_lobContent cell
    rw [hcontent] at hstored
    rw [hone]
    exact hstored.trans (World.gains_enter _ (Lob.new content kind) kind)

/-- **A row that is decoded owns the handles that were opened for it.**  A row that fails leaves
them without an owner, closed. -/
theorem gains_decodeCells (cell : Nat → Except Error Cell) (number : Nat) {w₀ w : ClientWorld}
    {n : Nat} {decoded : List Value} (h : World.Gains w₀ n decoded w) (columns : List Column) :
    World.Gains w₀ (n + handlesOpened cell number columns w)
      (given id (decodeCells cell number decoded.reverse columns w))
      (leaves (decodeCells cell number decoded.reverse columns w)) := by
  induction columns generalizing number decoded n w with
  | nil =>
    simp only [decodeCells, List.reverse_reverse]
    exact h
  | cons column rest ih =>
    rw [decodeCells, handlesOpened, List.reverse_reverse]
    cases hcell : cell number with
    | error e =>
      simp only
      exact h.releaseAll
    | ok c =>
      simp only
      cases hdecode : c.decode column w with
      | error e w' =>
        obtain rfl := Cell.decode_eq_error hdecode
        simp only
        exact h.releaseAll
      | ok v w' =>
        have hall := ih (number + 1) (h.trans (Cell.gains_decode hdecode))
        rw [List.reverse_append, Nat.add_assoc] at hall
        exact hall

end Scripted
end SqlClient
