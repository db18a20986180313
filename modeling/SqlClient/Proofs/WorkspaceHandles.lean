import SqlClient.Proofs.ArgumentAliases
import SqlClient.Proofs.CursorHandles
import SqlClient.Proofs.WorkspaceRuns

/-! # Who holds the LOB handles of a program

A program holds a LOB handle through the rows that it keeps and the names that it gave
(`Workspace.holders`).  Handles are opened by commands that decode a row, and by no others
(`Workspace.opens`).

What a command does to handles is the same for all of them (`Effect`): the aliases of a handle stay
as many as its holders, and whatever is open no longer was given back.  Unless the command is a
call on a handle, a handle that is held after it is as it was before.  `effect_step` reads this off
every command, and runs follow by induction.
-/
namespace SqlClient

open Scripted (Server Handle Lob ResultSet Script)

namespace World

variable {w w' : ClientWorld} {limit id : Nat} {x x' : LobHandle Lob} {vs : List Value}

/-! ## Handles that stay -/

/-- **Handles stay as they are**, but for those that nobody is left to hold. -/
structure Steady (w w' : ClientWorld) : Prop where
  handle : ∀ (id : Nat) (x : LobHandle Lob), w.handles[id]? = some x →
    ∃ x', w'.handles[id]? = some x' ∧ x'.lob = x.lob ∧ x'.kind = x.kind ∧
      (x'.isOpen = x.isOpen ∨ x'.aliases = 0)
  contents : w.server.contents <+: w'.server.contents

theorem Fewer.steady (h : Fewer w w') : Steady w w' where
  handle := by
    intro id x hx
    obtain ⟨x', hx', hlob, hkind, -, hopen⟩ := h.handle id x hx
    exact ⟨x', hx', hlob, hkind, hopen⟩
  contents := h.contents

/-- A handle that is shared has more aliases, and nothing else happens to it. -/
theorem handle_shareAll (hx : w.handles[id]? = some x) (vs : List Value) :
    ∃ aliases, (vs.foldl share w).handles[id]? = some { x with aliases } := by
  induction vs generalizing w x with
  | nil => exact ⟨x.aliases, hx⟩
  | cons v vs ih =>
    have hfirst : ∃ aliases, (w.share v).handles[id]? = some { x with aliases } := by
      cases v with
      | lob ref =>
        refine ⟨if ref.id = id then x.aliases + 1 else x.aliases, ?_⟩
        simp only [share, addAlias, List.getElem?_modify, hx]
        by_cases hid : ref.id = id
        · simp [hid, LobHandle.addAlias]
        · simp [hid]
      | _ => exact ⟨x.aliases, hx⟩
    obtain ⟨aliases, hshared⟩ := hfirst
    obtain ⟨more, hall⟩ := ih hshared
    exact ⟨more, hall⟩

theorem length_shareAll (w : ClientWorld) (vs : List Value) :
    (vs.foldl share w).handles.length = w.handles.length := by
  induction vs generalizing w with
  | nil => rfl
  | cons v vs ih =>
    refine (ih _).trans ?_
    cases v with
    | lob ref => exact List.length_modify ..
    | _ => rfl

/-- Values that were shared first may be dropped again. -/
theorem steady_of_shareAll (h : Fewer (vs.foldl share w) w') : Steady w w' where
  handle := by
    intro id x hx
    obtain ⟨aliases, hshared⟩ := handle_shareAll hx vs
    obtain ⟨x', hx', hlob, hkind, -, hopen⟩ := h.handle id _ hshared
    exact ⟨x', hx', hlob, hkind, hopen⟩
  contents := w.server_share vs ▸ h.contents

/-! ## Contents that are kept -/

/-- The scripts of a server name contents that it keeps, and so do the handles. -/
structure Stocked (limit : Nat) (w : ClientWorld) : Prop where
  scripts : w.server.Stored limit
  enough : limit ≤ w.server.contents.length
  backed : w.Backed

theorem Fewer.stocked (h : Fewer w w') (hbacked : w'.Backed) (hw : w.Stocked limit) :
    w'.Stocked limit where
  scripts := by
    rw [Server.Stored, h.scripts]
    exact hw.scripts
  enough := hw.enough.trans h.contents.length_le
  backed := hbacked

theorem stocked_of_lobState_eq (hstate : w'.lobState = w.lobState) (hw : w.Stocked limit) :
    w'.Stocked limit :=
  (gains_of_lobState_eq hstate).fewer.stocked (backed_of_lobState_eq hstate hw.backed) hw

theorem stocked_releaseAll (hw : w.Stocked limit) (vs : List Value) :
    (w.releaseAll vs).Stocked limit :=
  (fewer_releaseAll w vs).stocked (backed_releaseAll hw.backed vs) hw

theorem stocked_shareAll (hw : w.Stocked limit) (vs : List Value) :
    (vs.foldl share w).Stocked limit where
  scripts := w.server_share vs ▸ hw.scripts
  enough := w.server_share vs ▸ hw.enough
  backed := by
    intro id x' hx'
    have hlt : id < w.handles.length :=
      w.length_shareAll vs ▸ (List.getElem?_eq_some_iff.mp hx').1
    obtain ⟨aliases, hshared⟩ := handle_shareAll (List.getElem?_eq_getElem hlt) vs
    cases hx'.symm.trans hshared
    have hbefore := hw.backed id _ (List.getElem?_eq_getElem hlt)
    rw [w.server_share vs]
    exact hbefore

/-- A handle that stays on its content can be put in its own place. -/
theorem Backed.set {server : Server} (hw : w.Backed) (hx : w.handles[id]? = some x)
    (hcontent : x'.lob.content = x.lob.content)
    (hlength : w.server.contents.length ≤ server.contents.length) :
    Backed ⟨server, w.handles.set id x'⟩ := by
  intro j y hy
  rcases getElem?_set_cases hy with ⟨rfl, rfl⟩ | ⟨-, hy⟩
  · rw [hcontent]
    exact (hw j x hx).trans_le hlength
  · exact (hw j y hy).trans_le hlength

/-- A call on a handle leaves it on its content. -/
theorem stocked_call (hw : w.Stocked limit) (ref : LobRef) (c : LobCall) :
    (leaves (w.call ref c)).Stocked limit := by
  cases hfound : w.handles[ref.id]? with
  | none =>
    rw [leaves_call_of_none hfound]
    exact hw
  | some x =>
    rw [leaves_call_of_some hfound, LobHandle.leaves_perform]
    cases hrequest : x.request? c with
    | error e => exact ⟨hw.scripts, hw.enough, hw.backed.set hfound rfl (le_refl _)⟩
    | ok r =>
      obtain ⟨offset, isNull, contents, hserve, hlength⟩ := Lob.leaves_serve x.lob w.server r
      simp only [hserve]
      exact ⟨hw.scripts, hw.enough.trans_eq hlength.symm,
        hw.backed.set hfound rfl hlength.symm.le⟩

theorem length_call (w : ClientWorld) (ref : LobRef) (c : LobCall) :
    (leaves (w.call ref c)).handles.length = w.handles.length := by
  cases hfound : w.handles[ref.id]? with
  | none => rw [leaves_call_of_none hfound]
  | some x =>
    rw [leaves_call_of_some hfound]
    exact List.length_set

end World

namespace Statement

/-! ## Operations of a statement -/

variable {s : Statement} {w : ClientWorld}

/-- **What an operation of a statement does to large objects**: it opens handles that the values
own, and shows contents that are kept. -/
structure Yields (x : Statement × ClientWorld) (n : Nat) (vs : List Value)
    (y : Statement × ClientWorld) : Prop where
  gains : World.Gains x.2 n vs y.2
  stored : ∀ limit, x.2.Stocked limit → x.1.Stored limit → y.1.Stored limit
  stocked : ∀ limit, x.2.Stocked limit → x.1.Stored limit → y.2.Stocked limit

theorem Yields.of_aside {x y : Statement × ClientWorld} (h : Aside x y) : Yields x 0 [] y where
  gains := World.gains_of_lobState_eq h.lobState
  stored := fun limit hworld => h.stored limit hworld.scripts
  stocked := fun _ hworld _ => World.stocked_of_lobState_eq h.lobState hworld

/-- What an operation on the cursor opens, the statement opens. -/
theorem yields_onCursor {α : Type} {op : EStateM Error (Cursor ResultSet × ClientWorld) α}
    {values : α → List Value} {n : Cursor ResultSet → Nat}
    (hop : ∀ c, s.cursor = some c →
      Cursor.Yields (c, w) (n c) (given values (op (c, w))) (leaves (op (c, w)))) :
    Yields (s, w) (s.cursor.elim 0 n) (given values (onCursor op (s, w)))
      (leaves (onCursor op (s, w))) := by
  cases hcursor : s.cursor with
  | none =>
    simp only [onCursor, hcursor]
    exact .of_aside (.refl _)
  | some c =>
    obtain ⟨hgains, hrows, hbacked⟩ := hop c hcursor
    have hgiven : given values (onCursor op (s, w)) = given values (op (c, w)) := by
      simp only [onCursor, hcursor]
      cases op (c, w) <;> rfl
    rw [leaves_onCursor, hgiven]
    simp only [hcursor]
    refine ⟨hgains, fun limit _ hs => ?_, fun limit hw hs => ?_⟩
    · rintro _ ⟨⟩
      rw [ResultSet.Stored, hrows]
      exact hs c hcursor
    · exact hgains.fewer.stocked (hbacked limit (hs c hcursor) hw.enough hw.backed) hw

/-- The number of handles that a call on the cursor of a statement opens. -/
def opens (call : Cursor.Call) (s : Statement) (w : ClientWorld) : Nat :=
  s.cursor.elim 0 (Cursor.opened call · w)

end Statement

/-- The contents that a command names are kept. -/
def Command.Stored (limit : Nat) : Command → Prop
  | .register _ script => script.Stored limit
  | _ => True

namespace Workspace

variable {ws ws' : Workspace} {c : Command} {base : Nat} {name : String} {s : Statement}
  {y : Statement × ClientWorld}

/-! ## Holders -/

/-- How many aliases of the handle of a number a workspace holds, in rows and under names. -/
def holders (ws : Workspace) (id : Nat) : Nat :=
  ws.rows.total (fun row => aliasCount row.values id) +
    ws.lobs.total (fun ref => aliasCount [.lob ref] id)

/-- **What a workspace keeps**: every alias has a holder, and what is open no longer was given back,
besides what the server was given back at the start. -/
structure Conserved (base : Nat) (ws : Workspace) : Prop where
  owned : World.Owned base ws.holders ws.world
  known : ∀ id, ws.world.handles.length ≤ id → ws.holders id = 0
  rows : ws.rows.names.Nodup
  lobs : ws.lobs.names.Nodup

/-- The result sets of all statements show contents that are kept. -/
structure Stocked (limit : Nat) (ws : Workspace) : Prop where
  world : ws.world.Stocked limit
  statements : ∀ s ∈ ws.statements.things, s.Stored limit

/-- The number of handles that a command opens: those of the row that it decodes, if it does. -/
def opens (ws : Workspace) (c : Command) : Nat :=
  match c.operation? with
  | some (name, .cursor call) => (ws.statements.get? name).elim 0 (·.opens call ws.world)
  | _ => 0

/-- The number of handles that commands open, one after the other. -/
def opened (ws : Workspace) : List Command → Nat
  | [] => 0
  | c :: rest => ws.opens c + (ws.step c).2.opened rest

/-- **What a command does to handles.** -/
structure Effect (ws : Workspace) (c : Command) (ws' : Workspace) : Prop where
  conserved : ∀ base, ws.Conserved base → ws'.Conserved base
  length : ws'.world.handles.length = ws.world.handles.length + ws.opens c
  steady : (∀ lob call, c ≠ .lob lob call) → ws.world.Steady ws'.world
  stocked : ∀ limit, c.Stored limit → ws.Stocked limit → ws'.Stocked limit

/-- Rows and names that stay hold the same. -/
theorem Conserved.beside (h : ws.Conserved base) (hrows : ws'.rows = ws.rows)
    (hlobs : ws'.lobs = ws.lobs) (howned : World.Owned base ws.holders ws'.world)
    (hlength : ws.world.handles.length ≤ ws'.world.handles.length) : ws'.Conserved base := by
  have hholders : ws'.holders = ws.holders := by
    funext id
    rw [holders, hrows, hlobs, holders]
  exact ⟨hholders ▸ howned, fun id hid => hholders ▸ h.known id (hlength.trans hid),
    hrows ▸ h.rows, hlobs ▸ h.lobs⟩

theorem Effect.of_gains (hrows : ws'.rows = ws.rows) (hlobs : ws'.lobs = ws.lobs)
    (hgains : ws.world.Gains (ws.opens c) [] ws'.world)
    (hstocked : ∀ limit, ws.Stocked limit → ws'.Stocked limit) : Effect ws c ws' where
  conserved := by
    intro base h
    exact h.beside hrows hlobs (hgains.owned base ws.holders h.known h.owned)
      (hgains.length ▸ Nat.le_add_right ..)
  length := hgains.length
  steady := fun _ => hgains.fewer.steady
  stocked := fun limit _ => hstocked limit

/-- A command that does nothing. -/
theorem effect_refl (hopens : ws.opens c = 0) : Effect ws c ws :=
  .of_gains rfl rfl (hopens ▸ .refl ws.world) fun _ h => h

/-- No statement comes to show other contents. -/
theorem Stocked.put {limit n : Nat} {vs : List Value} (h : ws.Stocked limit)
    (found : ws.statements.get? name = some s) (hop : Statement.Yields (s, ws.world) n vs y) :
    Stocked limit { ws with world := y.2, statements := ws.statements.put name y.1 } := by
  have hs := h.statements s (Named.mem_things_of_get? found)
  exact ⟨hop.stocked limit h.world hs,
    Named.forall_things_put h.statements (hop.stored limit h.world hs)⟩

/-- What a statement opens is dropped after the report. -/
theorem effect_onStatement {α : Type} {op : EStateM Error (Statement × ClientWorld) α}
    {report : α → ClientWorld → Report × ClientWorld} {values : α → List Value}
    (found : ws.statements.get? name = some s)
    (hop : Statement.Yields (s, ws.world) (ws.opens c) (given values (op (s, ws.world)))
      (leaves (op (s, ws.world))))
    (hreport : ∀ a w, (report a w).2 = w.releaseAll (values a)) :
    Effect ws c (ws.onStatement name op report).2 := by
  simp only [onStatement, found]
  cases hresult : op (s, ws.world) with
  | ok a state =>
    rw [hresult] at hop
    simp only [hreport]
    refine .of_gains rfl rfl hop.gains.releaseAll fun limit h => ?_
    obtain ⟨hworld, hstatements⟩ := h.put found hop
    exact ⟨World.stocked_releaseAll hworld _, hstatements⟩
  | error e state =>
    rw [hresult] at hop
    exact .of_gains rfl rfl hop.gains fun limit h => h.put found hop

/-- An operation that does not concern large objects. -/
theorem effect_aside {α : Type} {op : EStateM Error (Statement × ClientWorld) α}
    (found : ws.statements.get? name = some s) (hopens : ws.opens c = 0)
    (hop : Statement.Aside (s, ws.world) (leaves (op (s, ws.world)))) (f : α → Report) :
    Effect ws c (ws.onStatement name op (just f)).2 := by
  have hgiven : given (fun _ => []) (op (s, ws.world)) = [] := by
    cases op (s, ws.world) <;> rfl
  have hyields := Statement.Yields.of_aside hop
  rw [← hopens, ← hgiven] at hyields
  exact effect_onStatement found hyields fun _ _ => rfl

/-- The arguments hold aliases while they are used. -/
theorem effect_executeWith (found : ws.statements.get? name = some s) (args : Arguments) :
    Effect ws (.executeWith name args) (ws.executeWith name args).2 := by
  -- what is written over is dropped by the execution, and the rest when the arguments are
  have hpasses := Statement.passes_executeWith args s (args.values.foldl World.share ws.world)
  have hstep : ∃ args' s' w',
      leaves (Statement.executeWith (args, s, args.values.foldl World.share ws.world)) =
        (args', s', w') ∧
      (ws.executeWith name args).2 =
        { ws with world := w'.releaseAll args'.values, statements := ws.statements.put name s' } := by
    simp only [executeWith, found]
    cases Statement.executeWith (args, s, args.values.foldl World.share ws.world) with
    | ok count state => exact ⟨state.1, state.2.1, state.2.2, rfl, rfl⟩
    | error e state => exact ⟨state.1, state.2.1, state.2.2, rfl, rfl⟩
  obtain ⟨args', s', w', hleaves, hstep⟩ := hstep
  rw [hleaves] at hpasses
  obtain ⟨howned, hlength, hfewer, hstored⟩ := hpasses
  have hall := hfewer.trans (w'.fewer_releaseAll args'.values)
  have hkept : (w'.releaseAll args'.values).handles.length = ws.world.handles.length :=
    (World.length_releaseAll ..).trans (hlength.trans (World.length_shareAll ..))
  rw [hstep]
  exact
    { conserved := fun base h => h.beside rfl rfl
        (World.Owned.releaseAll (howned base ws.holders (h.owned.shareAll args.values))) hkept.ge
      length := hkept
      steady := fun _ => World.steady_of_shareAll hall
      stocked := by
        intro limit _ h
        have hshared := World.stocked_shareAll h.world args.values
        have hs := h.statements s (Named.mem_things_of_get? found)
        refine ⟨hall.stocked ?_ hshared,
          Named.forall_things_put h.statements (hstored limit hshared.scripts hs)⟩
        exact hall.backed ((World.length_releaseAll ..).trans hlength) hshared.backed }

/-- **One thing takes the place of another**: what the old one held is dropped. -/
theorem Conserved.replace {w : ClientWorld} (old new : List Value)
    (howned : World.Owned base (fun id => ws.holders id + aliasCount new id) w)
    (hknown : ∀ id, w.handles.length ≤ id → ws.holders id + aliasCount new id = 0)
    (hworld : ws'.world = w.releaseAll old)
    (hholders : ∀ id, ws'.holders id + aliasCount old id = ws.holders id + aliasCount new id)
    (hrows : ws'.rows.names.Nodup) (hlobs : ws'.lobs.names.Nodup) : ws'.Conserved base := by
  refine ⟨?_, fun id hid => ?_, hrows, hlobs⟩
  · rw [hworld]
    exact World.Owned.releaseAll (howned.congr hholders)
  · rw [hworld, World.length_releaseAll] at hid
    have hnone := hknown id hid
    have hsame := hholders id
    omega

theorem effect_fetchAndKeep (found : ws.statements.get? name = some s) (move : Seek)
    (keep : String)
    (hop : Statement.Yields (s, ws.world) (ws.opens c)
      (given Cursor.valuesOf (Statement.fetch move (s, ws.world)))
      (leaves (Statement.fetch move (s, ws.world)))) :
    Effect ws c (ws.fetchAndKeep name move keep).2 := by
  simp only [fetchAndKeep, found]
  cases hresult : Statement.fetch move (s, ws.world) with
  | error e state =>
    rw [hresult] at hop
    exact .of_gains rfl rfl hop.gains fun limit h => h.put found hop
  | ok row state =>
    rw [hresult] at hop
    cases row with
    | none => exact .of_gains rfl rfl hop.gains fun limit h => h.put found hop
    | some r =>
      have hrow : ws.world.Gains (ws.opens c) r.values state.2 := hop.gains
      have hold (id : Nat) : aliasCount ((ws.rows.get? keep).elim [] Row.values) id =
          (ws.rows.get? keep).elim 0 fun row => aliasCount row.values id := by
        cases ws.rows.get? keep <;> rfl
      exact
        { conserved := by
            intro base h
            have hlength := hrow.length
            refine .replace _ r.values (hrow.owned base ws.holders h.known h.owned)
              (fun id hid => ?_) rfl (fun id => ?_) (Named.nodup_put h.rows) h.lobs
            · rw [hrow.known id hid, h.known id (by omega)]
            · have htotal := Named.total_put (fun row => aliasCount row.values id) ws.rows keep r
              simp only [holders, hold]
              omega
          length := (World.length_releaseAll ..).trans hrow.length
          steady := fun _ => (hrow.fewer.trans (World.fewer_releaseAll ..)).steady
          stocked := by
            intro limit _ h
            obtain ⟨hworld, hstatements⟩ := h.put found hop
            exact ⟨World.stocked_releaseAll hworld _, hstatements⟩ }

/-! ## Statements that come and go -/

/-- What had the name of a new statement is closed, which does not concern large objects. -/
theorem effect_settle {outcome : EStateM.Result Error ClientWorld Statement}
    (hopens : ws.opens c = 0) (hstate : (leaves outcome).lobState = ws.world.lobState)
    (hcursor : ∀ s, result? outcome = some s → s.cursor = none) :
    Effect ws c (ws.settle name outcome).2 := by
  have hnothing (w : ClientWorld) (hw : w.lobState = ws.world.lobState) :
      ws.world.Gains (ws.opens c) [] w := hopens ▸ World.gains_of_lobState_eq hw
  cases outcome with
  | error e w =>
    exact .of_gains rfl rfl (hnothing w hstate) fun limit h =>
      ⟨World.stocked_of_lobState_eq hstate h.world, h.statements⟩
  | ok s w =>
    have hworld : (ws.settle name (.ok s w)).2.world.lobState = ws.world.lobState := by
      simp only [settle]
      cases ws.statements.get? name with
      | none => exact hstate
      | some old => exact (Statement.aside_close (old, w)).lobState.trans hstate
    refine .of_gains rfl rfl (hnothing _ hworld) fun limit h =>
      ⟨World.stocked_of_lobState_eq hworld h.world, ?_⟩
    apply Named.forall_things_put h.statements
    intro c hc
    rw [hcursor s rfl] at hc
    cases hc

theorem lobState_handle (released : Bool) (w : ClientWorld) :
    (handle released w).2.lobState = w.lobState := by
  cases released with
  | true => exact congrArg (w.handles, ·) (Scripted.Handle.aside_release (Handle.new, w.server))
  | false => rfl

theorem effect_drop (name : String) : Effect ws (.drop name) (ws.step (.drop name)).2 := by
  simp only [step]
  cases found : ws.statements.get? name with
  | none => exact effect_refl rfl
  | some s =>
    have hworld := (Statement.aside_close (s, ws.world)).lobState
    exact .of_gains rfl rfl (World.gains_of_lobState_eq hworld) fun limit h =>
      ⟨World.stocked_of_lobState_eq hworld h.world,
        fun s' hs' => h.statements s' (Named.mem_things_erase hs')⟩

/-! ## Rows and names -/

/-- A value at a path is a value of the row. -/
theorem mem_of_valueAt {row : Row} {path : CellPath} {v : Value} (h : valueAt row path = some v) :
    v ∈ row.values := by
  cases path with
  | index n => exact List.mem_of_getElem? h
  | label l =>
    obtain ⟨index, -, hindex⟩ := Option.bind_eq_some_iff.mp h
    exact List.mem_of_getElem? hindex

/-- What is taken from a row has a holder. -/
theorem holders_pos_of_row {row : String} {path : CellPath} {ref : LobRef}
    (h : ((ws.rows.get? row).bind (valueAt · path)).bind Value.lob? = some ref) :
    0 < ws.holders ref.id := by
  obtain ⟨v, hvalue, hlob⟩ := Option.bind_eq_some_iff.mp h
  obtain ⟨r, hrow, hat⟩ := Option.bind_eq_some_iff.mp hvalue
  have hpos : 0 < aliasCount r.values ref.id :=
    List.countP_pos_iff.mpr ⟨v, mem_of_valueAt hat, by simp [Value.handle?, hlob]⟩
  have hle := Named.le_total (fun row => aliasCount row.values ref.id) hrow
  rw [holders]
  omega

theorem effect_take (row : String) (path : CellPath) (lob : String) :
    Effect ws (.take row path lob) (ws.take row path lob).2 := by
  cases href : ((ws.rows.get? row).bind (valueAt · path)).bind Value.lob? with
  | none =>
    simp only [take, href]
    exact effect_refl rfl
  | some ref =>
    have hstep : (ws.take row path lob).2 =
        { ws with
          world := ([.lob ref].foldl World.share ws.world).releaseAll
            ((ws.lobs.get? lob).elim [] fun old => [.lob old])
          lobs := ws.lobs.put lob ref } := by
      simp only [take, href]
      cases ws.lobs.get? lob <;> rfl
    have hold (id : Nat) :
        aliasCount ((ws.lobs.get? lob).elim [] fun old => [Value.lob old]) id =
          (ws.lobs.get? lob).elim 0 fun old => aliasCount [.lob old] id := by
      cases ws.lobs.get? lob <;> rfl
    rw [hstep]
    exact
      { conserved := by
          intro base h
          refine .replace _ [.lob ref] (h.owned.shareAll [.lob ref]) (fun id hid => ?_) rfl
            (fun id => ?_) h.rows (Named.nodup_put h.lobs)
          · rw [World.length_shareAll] at hid
            have hnone := h.known id hid
            have hne : ref.id ≠ id := by
              rintro rfl
              have hpos := holders_pos_of_row href
              omega
            rw [hnone, aliasCount_lob, if_neg hne]
          · have htotal := Named.total_put (fun ref => aliasCount [.lob ref] id) ws.lobs lob ref
            simp only [holders, hold]
            omega
        length := (World.length_releaseAll ..).trans (World.length_shareAll ..)
        steady := fun _ => World.steady_of_shareAll (World.fewer_releaseAll ..)
        stocked := fun limit _ h =>
          ⟨World.stocked_releaseAll (World.stocked_shareAll h.world _) _, h.statements⟩ }

/-- What is held under a name that is taken away is dropped. -/
theorem effect_release (old : List Value) (hopens : ws.opens c = 0)
    (hstatements : ws'.statements = ws.statements) (hworld : ws'.world = ws.world.releaseAll old)
    (hholders : ∀ base, ws.Conserved base → ∀ id, ws'.holders id + aliasCount old id = ws.holders id)
    (hnames : ∀ base, ws.Conserved base → ws'.rows.names.Nodup ∧ ws'.lobs.names.Nodup) :
    Effect ws c ws' where
  conserved := fun base h =>
    .replace old [] h.owned h.known hworld (hholders base h) (hnames base h).1 (hnames base h).2
  length := by rw [hworld, World.length_releaseAll, hopens, Nat.add_zero]
  steady := fun _ => hworld ▸ (World.fewer_releaseAll ..).steady
  stocked := fun limit _ h =>
    ⟨hworld ▸ World.stocked_releaseAll h.world old, hstatements ▸ h.statements⟩

theorem effect_dropRow (row : String) : Effect ws (.dropRow row) (ws.step (.dropRow row)).2 := by
  simp only [step]
  cases found : ws.rows.get? row with
  | none => exact effect_refl rfl
  | some r =>
    refine effect_release r.values rfl rfl rfl (fun base h id => ?_)
      (fun base h => ⟨Named.nodup_erase h.rows, h.lobs⟩)
    have htotal := Named.total_erase (fun row => aliasCount row.values id) h.rows found
    simp only [holders]
    omega

theorem effect_dropLob (lob : String) : Effect ws (.dropLob lob) (ws.step (.dropLob lob)).2 := by
  simp only [step]
  cases found : ws.lobs.get? lob with
  | none => exact effect_refl rfl
  | some ref =>
    refine effect_release [.lob ref] rfl rfl rfl (fun base h id => ?_)
      (fun base h => ⟨h.rows, Named.nodup_erase h.lobs⟩)
    have htotal := Named.total_erase (fun ref => aliasCount [.lob ref] id) h.lobs found
    simp only [holders]
    omega

/-! ## Every command -/

theorem effect_register (sql : String) (script : Script) :
    Effect ws (.register sql script) (ws.step (.register sql script)).2 where
  conserved := fun _ h =>
    ⟨⟨h.owned.aliases, h.owned.live, h.owned.closed⟩, h.known, h.rows, h.lobs⟩
  length := rfl
  steady := fun _ => ⟨fun _ x hx => ⟨x, hx, rfl, rfl, .inl rfl⟩, List.prefix_rfl⟩
  stocked := by
    intro limit hscript h
    refine ⟨⟨fun sql' script' hmem => ?_, h.world.enough, h.world.backed⟩, h.statements⟩
    rcases List.mem_cons.mp hmem with heq | hold
    · cases heq
      exact hscript
    · exact h.world.scripts sql' script' hold

/-- A call on a handle makes no alias and drops none. -/
theorem effect_lob (lob : String) (call : LobCall) :
    Effect ws (.lob lob call) (ws.step (.lob lob call)).2 := by
  cases found : ws.lobs.get? lob with
  | none =>
    simp only [step, found]
    exact effect_refl rfl
  | some ref =>
    have hstep : (ws.step (.lob lob call)).2 =
        { ws with world := leaves (ws.world.call ref call) } := by
      simp only [step, found]
      cases ws.world.call ref call <;> rfl
    have hlength := ws.world.length_call ref call
    rw [hstep]
    exact
      { conserved := fun base h => h.beside rfl rfl (h.owned.call ref call) hlength.ge
        length := hlength
        steady := fun hc => absurd rfl (hc lob call)
        stocked := fun limit _ h => ⟨World.stocked_call h.world ref call, h.statements⟩ }

theorem opens_of_absent {op : Statement.Operation} (command : c.operation? = some (name, op))
    (absent : ws.statements.get? name = none) : ws.opens c = 0 := by
  unfold opens
  rw [command]
  cases op with
  | cursor call => simp [absent]
  | _ => rfl

theorem opens_of_found {call : Cursor.Call} (command : c.operation? = some (name, .cursor call))
    (found : ws.statements.get? name = some s) : ws.opens c = s.opens call ws.world := by
  unfold opens
  rw [command]
  simp [found]

/-- **A command for a statement** opens the handles of the row that it decodes. -/
theorem effect_operation {op : Statement.Operation} (command : c.operation? = some (name, op))
    (found : ws.statements.get? name = some s) : Effect ws c (ws.step c).2 := by
  have hyields (move : Seek) : Statement.Yields (s, ws.world) (s.opens (.fetch move) ws.world)
      (given Cursor.valuesOf (Statement.fetch move (s, ws.world)))
      (leaves (Statement.fetch move (s, ws.world))) :=
    Statement.yields_onCursor fun c _ => Cursor.yields_fetch move c ws.world
  cases c with
  | close =>
    cases command
    exact effect_aside found rfl (Statement.aside_close _) _
  | configure =>
    cases command
    exact effect_aside found rfl (.of_cursor rfl rfl) _
  | execute name sql =>
    cases command
    exact effect_aside found rfl (Statement.aside_execute sql _) _
  | batch name sqls =>
    cases command
    exact effect_aside found rfl (Statement.aside_batch sqls _) _
  | serial name choice =>
    cases command
    exact effect_aside found rfl (Statement.aside_serial choice _) _
  | executeWith name args =>
    cases command
    exact effect_executeWith found args
  | fetch name move keep =>
    cases command
    have hop := hyields move
    cases keep with
    | none =>
      rw [← opens_of_found (c := .fetch name move none) rfl found] at hop
      exact effect_onStatement found hop fun _ _ => rfl
    | some keep =>
      rw [← opens_of_found (c := .fetch name move (some keep)) rfl found] at hop
      exact effect_fetchAndKeep found move keep hop
  | cursor name call =>
    cases command
    have hopens := opens_of_found (c := .cursor name call) rfl found
    simp only [step, found, Option.bind_some]
    cases hcursor : s.cursor with
    | none => exact effect_refl (by rw [hopens, Statement.opens, hcursor]; rfl)
    | some cursor =>
      have hop : Statement.Yields (s, ws.world) (s.opens call ws.world)
          (given Cursor.Answer.values (Statement.onCursor (Cursor.perform call) (s, ws.world)))
          (leaves (Statement.onCursor (Cursor.perform call) (s, ws.world))) :=
        Statement.yields_onCursor fun c _ => Cursor.yields_perform call c ws.world
      rw [← hopens] at hop
      refine effect_onStatement found hop fun answer w => ?_
      cases answer <;> rfl
  | _ => cases command

/-- **What every command does to handles.** -/
theorem effect_step (ws : Workspace) (c : Command) : Effect ws c (ws.step c).2 := by
  cases hoperation : c.operation? with
  | some operation =>
    obtain ⟨name, op⟩ := operation
    cases found : ws.statements.get? name with
    | none =>
      rw [step_of_absent hoperation found]
      exact effect_refl (opens_of_absent hoperation found)
    | some s => exact effect_operation hoperation found
  | none =>
    cases c with
    | register sql script => exact effect_register sql script
    | create name options released =>
      obtain ⟨hrows, -⟩ := handle_eq released ws.world
      exact effect_settle rfl
        ((Statement.lobState_new _ options _).trans (lobState_handle released ws.world))
        (Statement.made_new hrows options _).cursor
    | prepare name sql options released =>
      obtain ⟨hrows, -⟩ := handle_eq released ws.world
      exact effect_settle rfl
        ((Statement.lobState_prepare _ sql options _).trans (lobState_handle released ws.world))
        (Statement.made_prepare hrows sql options _).cursor
    | drop name => exact effect_drop name
    | take row path lob => exact effect_take row path lob
    | dropRow row => exact effect_dropRow row
    | dropLob lob => exact effect_dropLob lob
    | lob lob call => exact effect_lob lob call
    | _ => cases hoperation

end Workspace
end SqlClient
