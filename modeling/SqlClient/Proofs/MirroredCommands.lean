import SqlClient.Proofs.EmbeddedOperations
import SqlClient.Proofs.WorkspaceHandles

/-! # Commands in workspaces inside workspaces

Several parties may use one workspace, each with things of its own: statements, rows and LOB
handles, by name.  What a party has there it would have alone as well, up to the numbers of handles
(`Workspace.Mirrors`).  A command for things of the party reports the same in both workspaces, and
the party has the same afterwards (`Workspace.Mirrors.step`).

A command changes nothing under other names than those in it (`Workspace.beside_step`), and what it
does to handles others do not notice.  So whatever another party does, the party has what it had
(`Workspace.Mirrors.spared`).
-/
namespace SqlClient

open Scripted (Server Handle Lob ResultSet Script)

namespace Named

variable {α β : Type} {R R' : α → β → Prop} {own : String → Prop} {t : Named α} {t' : Named β}
  {name : String}

/-- Two tables agree on some of the names. -/
def Agree (R : α → β → Prop) (own : String → Prop) (t : Named α) (t' : Named β) : Prop :=
  ∀ name, own name → Option.Rel R (t.get? name) (t'.get? name)

theorem Agree.mono (h : Agree R own t t') (hR : ∀ a b, R a b → R' a b) : Agree R' own t t' :=
  fun name hname => rel_mono hR (h name hname)

theorem Agree.put (h : Agree R own t t') (name : String) {a : α} {b : β} (hab : R a b) :
    Agree R own (t.put name a) (t'.put name b) := by
  intro other hother
  by_cases hname : other = name
  · rw [hname, get?_put_self, get?_put_self]
    exact .some hab
  · rw [get?_put_of_ne hname, get?_put_of_ne hname]
    exact h other hother

theorem Agree.erase (h : Agree R own t t') (name : String) :
    Agree R own (t.erase name) (t'.erase name) := by
  intro other hother
  by_cases hname : other = name
  · rw [hname, get?_erase_self, get?_erase_self]
    exact .none
  · rw [get?_erase_of_ne hname, get?_erase_of_ne hname]
    exact h other hother

/-- One table changes, but under other names. -/
theorem Agree.congr {t'' : Named β} (h : Agree R own t t')
    (hsame : ∀ name, own name → t''.get? name = t'.get? name) : Agree R own t t'' := by
  intro name hname
  rw [hsame name hname]
  exact h name hname

end Named

/-- A thing of a program, by its name. -/
inductive Thing where
  | statement (name : String)
  | row (name : String)
  | lob (name : String)
  deriving DecidableEq, Repr

/-- The things that a command is about. -/
def Command.things : Command → List Thing
  | .register _ _ => []
  | .create name _ _ | .prepare name _ _ _ | .drop name | .close name | .configure name _
  | .execute name _ | .executeWith name _ | .batch name _ | .serial name _ | .cursor name _
  | .fetch name _ none => [.statement name]
  | .fetch name _ (some keep) => [.statement name, .row keep]
  | .take row _ handle => [.row row, .lob handle]
  | .dropRow row => [.row row]
  | .dropLob handle | .lob handle _ => [.lob handle]

/-- No script is registered, and nothing is written to a large object. -/
def Command.Quiet : Command → Prop
  | .register _ _ => False
  | .lob _ (.write _) => False
  | _ => True

/-- The same command, up to the numbers of handles among its arguments. -/
inductive Command.Renumbered (ids : List Nat) : Command → Command → Prop
  | same (c : Command) (h : ∀ name args, c ≠ .executeWith name args) : Renumbered ids c c
  | executeWith (name : String) {args args' : Arguments} (h : args.Renumbered ids args') :
    Renumbered ids (.executeWith name args) (.executeWith name args')

namespace Workspace

/-! ## Other names -/

/-- **Under other names everything is as it was.** -/
structure Beside (things : List Thing) (ws ws' : Workspace) : Prop where
  statements : ∀ name, .statement name ∉ things → ws'.statements.get? name = ws.statements.get? name
  rows : ∀ name, .row name ∉ things → ws'.rows.get? name = ws.rows.get? name
  lobs : ∀ name, .lob name ∉ things → ws'.lobs.get? name = ws.lobs.get? name

variable {ws ws' vs : Workspace} {name : String}

theorem Beside.refl (things : List Thing) (ws : Workspace) : Beside things ws ws :=
  ⟨fun _ _ => rfl, fun _ _ => rfl, fun _ _ => rfl⟩

/-- The statement of one name changes. -/
theorem Beside.of_statement {things : List Thing} (hname : .statement name ∈ things)
    (hput : ∀ other, other ≠ name → ws'.statements.get? other = ws.statements.get? other)
    (hrows : ws'.rows = ws.rows) (hlobs : ws'.lobs = ws.lobs) : Beside things ws ws' where
  statements := by
    intro other hother
    refine hput other ?_
    rintro rfl
    exact hother hname
  rows := fun _ _ => by rw [hrows]
  lobs := fun _ _ => by rw [hlobs]

theorem beside_settle (things : List Thing) (hname : .statement name ∈ things)
    (outcome : EStateM.Result Error ClientWorld Statement) :
    Beside things ws (ws.settle name outcome).2 := by
  cases outcome with
  | error e world => exact ⟨fun _ _ => rfl, fun _ _ => rfl, fun _ _ => rfl⟩
  | ok s world => exact .of_statement hname (fun _ h => Named.get?_put_of_ne h _ _) rfl rfl

theorem beside_onStatement {α : Type} {things : List Thing} (hname : .statement name ∈ things)
    (op : EStateM Error (Statement × ClientWorld) α)
    (report : α → ClientWorld → Report × ClientWorld) :
    Beside things ws (ws.onStatement name op report).2 := by
  simp only [onStatement]
  cases ws.statements.get? name with
  | none => exact .refl things ws
  | some s =>
    simp only
    cases op (s, ws.world) <;>
      exact .of_statement hname (fun _ h => Named.get?_put_of_ne h _ _) rfl rfl

theorem beside_fetchAndKeep (move : Seek) (keep : String) :
    Beside [.statement name, .row keep] ws (ws.fetchAndKeep name move keep).2 := by
  have hput (s : Statement) (w : ClientWorld) : Beside [.statement name, .row keep] ws
      { ws with world := w, statements := ws.statements.put name s } :=
    .of_statement (List.mem_cons_self ..) (fun _ h => Named.get?_put_of_ne h _ _) rfl rfl
  simp only [fetchAndKeep]
  cases ws.statements.get? name with
  | none => exact .refl _ ws
  | some s =>
    simp only
    cases Statement.fetch move (s, ws.world) with
    | error e state => exact hput ..
    | ok row state =>
      cases row with
      | none => exact hput ..
      | some r =>
        obtain ⟨hstatements, -, hlobs⟩ := hput state.1 state.2
        refine ⟨hstatements, fun other hother => ?_, hlobs⟩
        refine Named.get?_put_of_ne ?_ _ _
        rintro rfl
        exact hother (by simp)

theorem beside_executeWith (args : Arguments) :
    Beside [.statement name] ws (ws.executeWith name args).2 := by
  simp only [executeWith]
  cases ws.statements.get? name with
  | none => exact .refl _ ws
  | some s =>
    simp only
    cases Statement.executeWith (args, s, args.values.foldl World.share ws.world) <;>
      exact .of_statement (List.mem_cons_self ..) (fun _ h => Named.get?_put_of_ne h _ _) rfl rfl

/-- **A command changes nothing under other names** than those that are in it. -/
theorem beside_step (ws : Workspace) (c : Command) : Beside c.things ws (ws.step c).2 := by
  have hself {name : String} : Thing.statement name ∈ [Thing.statement name] :=
    List.mem_cons_self ..
  cases c with
  | register sql script => exact ⟨fun _ _ => rfl, fun _ _ => rfl, fun _ _ => rfl⟩
  | create name options released => exact beside_settle _ hself _
  | prepare name sql options released => exact beside_settle _ hself _
  | drop name =>
    simp only [step]
    cases ws.statements.get? name with
    | none => exact .refl _ ws
    | some s => exact .of_statement hself (fun _ h => Named.get?_erase_of_ne h _) rfl rfl
  | close | configure | execute | batch | serial => exact beside_onStatement hself ..
  | executeWith name args => exact beside_executeWith args
  | fetch name move keep =>
    cases keep with
    | none => exact beside_onStatement hself ..
    | some keep => exact beside_fetchAndKeep move keep
  | cursor name call =>
    simp only [step]
    cases (ws.statements.get? name).bind (·.cursor) with
    | none => exact .refl _ ws
    | some c => exact beside_onStatement hself ..
  | take row path lob =>
    simp only [step, take]
    split
    · exact .refl _ ws
    · refine ⟨fun _ _ => rfl, fun _ _ => rfl, fun other hother => Named.get?_put_of_ne ?_ _ _⟩
      rintro rfl
      exact hother (by simp [Command.things])
  | dropRow row =>
    simp only [step]
    cases ws.rows.get? row with
    | none => exact .refl _ ws
    | some r =>
      refine ⟨fun _ _ => rfl, fun other hother => Named.get?_erase_of_ne ?_ _, fun _ _ => rfl⟩
      rintro rfl
      exact hother (by simp [Command.things])
  | dropLob lob =>
    simp only [step]
    cases ws.lobs.get? lob with
    | none => exact .refl _ ws
    | some ref =>
      refine ⟨fun _ _ => rfl, fun _ _ => rfl, fun other hother => Named.get?_erase_of_ne ?_ _⟩
      rintro rfl
      exact hother (by simp [Command.things])
  | lob lob call =>
    simp only [step]
    cases ws.lobs.get? lob with
    | none => exact .refl _ ws
    | some ref =>
      simp only
      cases ws.world.call ref call <;> exact ⟨fun _ _ => rfl, fun _ _ => rfl, fun _ _ => rfl⟩

/-! ## What a party has -/

/-- **What a party has alone it has among others**, up to the numbers of handles: its things are
those for which `own` holds. -/
structure Mirrors (own : Thing → Prop) (limit : Nat) (ids : List Nat) (vs ws : Workspace) : Prop where
  world : World.Embeds limit ids vs.world ws.world
  statements : Named.Agree Eq (fun name => own (.statement name)) vs.statements ws.statements
  rows : Named.Agree (Row.Renumbered ids) (fun name => own (.row name)) vs.rows ws.rows
  lobs : Named.Agree (LobRef.Renumbered ids) (fun name => own (.lob name)) vs.lobs ws.lobs

/-- **Reports are the same, and so is what a party has after them**; others do not notice. -/
structure Follows (own : Thing → Prop) (limit : Nat) (ids : List Nat) (vs ws : Workspace)
    (x y : Report × Workspace) : Prop where
  report : y.1 = x.1
  mirrors : ∃ ids', World.Advances limit ids vs.world ws.world ids' x.2.world y.2.world ∧
    Mirrors own limit ids' x.2 y.2

variable {own : Thing → Prop} {limit : Nat} {ids ids' : List Nat} {v' w' : ClientWorld}

theorem Row.Renumbered.mono (hgrows : ids <+: ids') {row row' : Row} (h : row.Renumbered ids row') :
    row.Renumbered ids' row' :=
  ⟨h.columns, Value.Renumbered.monoAll hgrows h.values⟩

/-- **What others do goes unnoticed.** -/
theorem Mirrors.spared {things : List Thing} (h : Mirrors own limit ids vs ws)
    (hspares : World.Spares ids' ws.world ws'.world) (hapart : ∀ id ∈ ids, id ∉ ids')
    (hbeside : Beside things ws ws') (hothers : ∀ thing ∈ things, ¬ own thing) :
    Mirrors own limit ids vs ws' where
  world := h.world.spared hspares hapart
  statements := h.statements.congr fun name hname =>
    hbeside.statements name fun hmem => hothers _ hmem hname
  rows := h.rows.congr fun name hname => hbeside.rows name fun hmem => hothers _ hmem hname
  lobs := h.lobs.congr fun name hname => hbeside.lobs name fun hmem => hothers _ hmem hname

/-- Worlds move on, and tables stay. -/
theorem Mirrors.advance (h : Mirrors own limit ids vs ws)
    (hadvances : World.Advances limit ids vs.world ws.world ids' v' w') :
    Mirrors own limit ids' { vs with world := v' } { ws with world := w' } where
  world := hadvances.embeds
  statements := h.statements
  rows := h.rows.mono fun _ _ => Row.Renumbered.mono hadvances.grows
  lobs := h.lobs.mono fun _ _ => LobRef.Renumbered.mono hadvances.grows

/-- Worlds move on, and both workspaces get the same statement under a name. -/
theorem Mirrors.putStatement (h : Mirrors own limit ids vs ws)
    (hadvances : World.Advances limit ids vs.world ws.world ids' v' w') (name : String)
    (s : Statement) :
    Mirrors own limit ids' { vs with world := v', statements := vs.statements.put name s }
      { ws with world := w', statements := ws.statements.put name s } :=
  { h.advance hadvances with statements := h.statements.put name rfl }

/-! ## Own commands -/

variable {x y : EStateM.Result Error ClientWorld Statement}

/-- Nothing happens. -/
theorem Mirrors.rest (h : Mirrors own limit ids vs ws) (report : Report) :
    Follows own limit ids vs ws (report, vs) (report, ws) :=
  ⟨rfl, ids, h.world.refl, h⟩

theorem Mirrors.statement_eq (h : Mirrors own limit ids vs ws) (hown : own (.statement name)) :
    vs.statements.get? name = ws.statements.get? name :=
  eq_of_rel (h.statements name hown)

/-- **A statement is made**, in place of the one that had its name. -/
theorem Mirrors.settle (h : Mirrors own limit ids vs ws) (hown : own (.statement name))
    (hconcur : Concur (fun v w : ClientWorld => v.server.scripts = w.server.scripts) x y)
    (hv : (leaves x).lobState = vs.world.lobState) (hw : (leaves y).lobState = ws.world.lobState) :
    Follows own limit ids vs ws (vs.settle name x) (ws.settle name y) := by
  have hsame := h.statement_eq hown
  obtain ⟨s, v', w', rfl, rfl, -⟩ | ⟨e, v', w', rfl, rfl, -⟩ := hconcur.cases
  · have hadvances := h.world.advances_of_lobState hv hw
    simp only [Workspace.settle, hsame]
    cases ws.statements.get? name with
    | none => exact ⟨rfl, ids, hadvances, h.putStatement hadvances name s⟩
    | some old =>
      have hclosed := hadvances.trans (hadvances.embeds.advances_of_lobState
        (Statement.aside_close (old, v')).lobState (Statement.aside_close (old, w')).lobState)
      exact ⟨rfl, ids, hclosed, h.putStatement hclosed name s⟩
  · have hadvances := h.world.advances_of_lobState hv hw
    exact ⟨rfl, ids, hadvances, h.advance hadvances⟩

/-- The handle for a new statement is the same. -/
theorem beside_handle (released : Bool) {v w : ClientWorld}
    (hscripts : v.server.scripts = w.server.scripts) :
    (handle released v).1 = (handle released w).1 ∧
      (handle released v).2.server.scripts = (handle released w).2.server.scripts := by
  cases released with
  | false => exact ⟨rfl, hscripts⟩
  | true =>
    exact Scripted.Handle.beside_release (x := (.new, v.server)) (y := (.new, w.server))
      ⟨rfl, hscripts⟩

/-- **A statement operates**, and what comes of it is reported. -/
theorem Mirrors.onStatement {α : Type} {Same : List Nat → α → α → Prop}
    {op : EStateM Error (Statement × ClientWorld) α}
    {report : α → ClientWorld → Report × ClientWorld} (h : Mirrors own limit ids vs ws)
    (hown : own (.statement name))
    (hop : ∀ s, ws.statements.get? name = some s →
      World.Matches Same limit ids vs.world ws.world (op (s, vs.world)) (op (s, ws.world)))
    (hreport : ∀ ids v w a b, World.Embeds limit ids v w → Same ids a b →
      (report b w).1 = (report a v).1 ∧
        World.Advances limit ids v w ids (report a v).2 (report b w).2) :
    Follows own limit ids vs ws (vs.onStatement name op report)
      (ws.onStatement name op report) := by
  have hsame := h.statement_eq hown
  cases found : ws.statements.get? name with
  | none =>
    simp only [Workspace.onStatement, hsame, found]
    exact h.rest .absent
  | some s =>
    obtain ⟨a, b, s', ids', v', w', hx, hy, hadvances, hanswer⟩ |
      ⟨e, s', ids', v', w', hx, hy, hadvances⟩ := (hop s found).cases
    · obtain ⟨hreported, hafter⟩ := hreport ids' v' w' a b hadvances.embeds hanswer
      have hall := hadvances.trans hafter
      simp only [Workspace.onStatement, hsame, found, hx, hy]
      exact ⟨hreported, ids', hall, h.putStatement hall name s'⟩
    · simp only [Workspace.onStatement, hsame, found, hx, hy]
      exact ⟨rfl, ids', hadvances, h.putStatement hadvances name s'⟩

/-- An answer that is the same altogether is reported as it is. -/
theorem Mirrors.onStatement_just {α : Type} {op : EStateM Error (Statement × ClientWorld) α}
    (h : Mirrors own limit ids vs ws) (hown : own (.statement name))
    (hop : ∀ s, World.Matches World.SameAnswer limit ids vs.world ws.world (op (s, vs.world))
      (op (s, ws.world))) (f : α → Report) :
    Follows own limit ids vs ws (vs.onStatement name op (just f))
      (ws.onStatement name op (just f)) :=
  h.onStatement hown (fun s _ => hop s) fun _ _ _ _ _ hembeds hsame =>
    ⟨congrArg f (Eq.symm hsame), hembeds.refl⟩

/-! ### Rows -/

theorem Value.Renumbered.isNull_eq {a b : Value} (h : a.Renumbered ids b) : b.isNull = a.isNull := by
  cases h <;> rfl

theorem Row.Renumbered.nulls_eq {row row' : Row} (h : row.Renumbered ids row') :
    row'.nulls = row.nulls := by
  have hnulls := h.values.imp fun _ _ hvalue => (Value.Renumbered.isNull_eq hvalue).symm
  have hsame := List.forall₂_map_left_iff.mpr (List.forall₂_map_right_iff.mpr hnulls)
  rw [List.forall₂_eq_eq_eq] at hsame
  exact hsame.symm

variable {v w : ClientWorld} {row row' : Option Row}

theorem viewRow_eq (h : World.Embeds limit ids v w) (hrow : Option.Rel (Row.Renumbered ids) row row') :
    viewRow w row' = viewRow v row := by
  cases hrow with
  | none => rfl
  | some hrow => simp only [viewRow, h.map_view_eq hrow.values, Row.Renumbered.nulls_eq hrow]

/-- The values of a row that may not be there. -/
theorem values_renumbered (hrow : Option.Rel (Row.Renumbered ids) row row') :
    List.Forall₂ (Value.Renumbered ids) (row.elim [] Row.values) (row'.elim [] Row.values) := by
  cases hrow with
  | none => exact .nil
  | some hrow => exact hrow.values

theorem passRow_follows (h : World.Embeds limit ids v w)
    (hrow : Option.Rel (Row.Renumbered ids) row row') :
    (passRow row' w).1 = (passRow row v).1 ∧
      World.Advances limit ids v w ids (passRow row v).2 (passRow row' w).2 :=
  ⟨viewRow_eq h hrow, h.releaseAll (values_renumbered hrow)⟩

theorem passAnswer_follows (h : World.Embeds limit ids v w) {a b : Cursor.Answer}
    (hanswer : a.Renumbered ids b) :
    (passAnswer b w).1 = (passAnswer a v).1 ∧
      World.Advances limit ids v w ids (passAnswer a v).2 (passAnswer b w).2 := by
  cases hanswer with
  | row hrow => exact passRow_follows h hrow
  | plain _ hplain =>
    cases a with
    | row row => exact absurd rfl (hplain row)
    | done | moved | count => exact ⟨rfl, h.refl⟩

/-- **A row is fetched and kept**, in place of the one that had its name. -/
theorem Mirrors.fetchAndKeep (h : Mirrors own limit ids vs ws) (hstored : ws.Stocked limit)
    {keep : String} (hown : own (.statement name)) (hkeep : own (.row keep)) (move : Seek) :
    Follows own limit ids vs ws (vs.fetchAndKeep name move keep) (ws.fetchAndKeep name move keep) := by
  have hsame := h.statement_eq hown
  cases found : ws.statements.get? name with
  | none =>
    simp only [Workspace.fetchAndKeep, hsame, found]
    exact h.rest .absent
  | some s =>
    have hs := hstored.statements s (Named.mem_things_of_get? found)
    obtain ⟨row, row', s', ids', v', w', hx, hy, hadvances, hrow⟩ |
      ⟨e, s', ids', v', w', hx, hy, hadvances⟩ := (Statement.matches_fetch h.world hs move).cases
    · have hput := h.putStatement hadvances name s'
      simp only [Workspace.fetchAndKeep, hsame, found, hx, hy]
      cases hrow with
      | none => exact ⟨rfl, ids', hadvances, hput⟩
      | some hrow =>
        have hdropped := hadvances.embeds.releaseAll (values_renumbered (hput.rows keep hkeep))
        have hkept := hput.advance hdropped
        exact ⟨viewRow_eq hadvances.embeds (.some hrow), ids', hadvances.trans hdropped,
          { hkept with rows := hkept.rows.put keep hrow }⟩
    · simp only [Workspace.fetchAndKeep, hsame, found, hx, hy]
      exact ⟨rfl, ids', hadvances, h.putStatement hadvances name s'⟩

/-! ### Arguments -/

/-- An execution with arguments, by what it says and what it leaves. -/
theorem executeWith_of_found {s : Statement} (found : ws.statements.get? name = some s)
    (args : Arguments) {result : Except Error Int} {args' : Arguments} {s' : Statement}
    {w' : ClientWorld}
    (hanswer : answered (Statement.executeWith
      (args, s, args.values.foldl World.share ws.world)) = result)
    (hleaves : leaves (Statement.executeWith
      (args, s, args.values.foldl World.share ws.world)) = (args', s', w')) :
    ws.executeWith name args =
      (.execution result (args'.values.map w'.view)
          (s'.parameters?.map fun ps => ps.items.map Parameter.transferLength),
        { ws with
          world := w'.releaseAll args'.values
          statements := ws.statements.put name s' }) := by
  simp only [executeWith, found]
  cases hrun : Statement.executeWith (args, s, args.values.foldl World.share ws.world) <;>
    rw [hrun] at hanswer hleaves <;> cases hanswer <;> cases hleaves <;> rfl

/-- **An execution with arguments**; what is written back is the same. -/
theorem Mirrors.executeWith (h : Mirrors own limit ids vs ws) (hown : own (.statement name))
    {args args' : Arguments} (hargs : args.Renumbered ids args') :
    Follows own limit ids vs ws (vs.executeWith name args) (ws.executeWith name args') := by
  have hsame := h.statement_eq hown
  cases found : ws.statements.get? name with
  | none =>
    simp only [Workspace.executeWith, hsame, found]
    exact h.rest .absent
  | some s =>
    have hshared := h.world.shareAll hargs.values
    obtain ⟨a, b, s', ids', v', w', hleft, hright, hanswer, hwritten, hadvances⟩ :=
      Statement.matches_executeWith (s := s) hshared.embeds hargs
    have hback := hshared.trans hadvances
    have hdropped := hback.trans (hadvances.embeds.releaseAll hwritten.values)
    rw [executeWith_of_found (hsame.trans found) args rfl hleft,
      executeWith_of_found found args' hanswer hright]
    exact ⟨by rw [hadvances.embeds.map_view_eq hwritten.values], ids', hdropped,
      h.putStatement hdropped name s'⟩

/-! ### LOB handles -/

/-- The value at a path is the same, up to the numbers of handles. -/
theorem valueAt_renumbered {row row' : Row} (h : row.Renumbered ids row') (path : CellPath) :
    Option.Rel (Value.Renumbered ids) (valueAt row path) (valueAt row' path) := by
  cases path with
  | index n => exact rel_getElem? h.values n
  | label l =>
    simp only [valueAt, Row.find?, h.columns]
    cases Column.indexOf? row.columns l with
    | none => exact .none
    | some n => exact rel_getElem? h.values n

/-- So is the handle at a path of a row that may not be there. -/
theorem refAt_renumbered {row row' : Option Row} (h : Option.Rel (Row.Renumbered ids) row row')
    (path : CellPath) :
    Option.Rel (LobRef.Renumbered ids) ((row.bind (valueAt · path)).bind Value.lob?)
      ((row'.bind (valueAt · path)).bind Value.lob?) := by
  cases h with
  | none => exact .none
  | some hrow =>
    rw [Option.bind_some, Option.bind_some]
    obtain ⟨hx, hy⟩ | ⟨a, b, hx, hy, hvalue⟩ := rel_cases (valueAt_renumbered hrow path)
    · rw [hx, hy]
      exact .none
    · rw [hx, hy, Option.bind_some, Option.bind_some]
      cases hvalue with
      | plain _ hplain =>
        rw [hplain]
        exact .none
      | lob href => exact .some href

/-- **A handle of a row is given a name**; the alias that had it is dropped. -/
theorem Mirrors.take (h : Mirrors own limit ids vs ws) {row handle : String}
    (hrow : own (.row row)) (hhandle : own (.lob handle)) (path : CellPath) :
    Follows own limit ids vs ws (vs.take row path handle) (ws.take row path handle) := by
  obtain ⟨hx, hy⟩ | ⟨ref, ref', hx, hy, href⟩ := rel_cases (refAt_renumbered (h.rows row hrow) path)
  · simp only [Workspace.take, hx, hy]
    exact h.rest .absent
  · have hadded := h.world.addAlias href
    simp only [Workspace.take, hx, hy]
    obtain ⟨hu, hz⟩ | ⟨old, old', hu, hz, hold⟩ := rel_cases (h.lobs handle hhandle)
    · simp only [hu, hz]
      have hnamed := h.advance hadded
      exact ⟨rfl, ids, hadded, { hnamed with lobs := hnamed.lobs.put handle href }⟩
    · have hdropped := hadded.trans (hadded.embeds.dropAlias hold)
      have hnamed := h.advance hdropped
      simp only [hu, hz]
      exact ⟨rfl, ids, hdropped, { hnamed with lobs := hnamed.lobs.put handle href }⟩

/-- **A call on a handle** that writes nothing. -/
theorem Mirrors.callLob (h : Mirrors own limit ids vs ws) {handle : String}
    (hown : own (.lob handle)) {call : LobCall} (hcall : ∀ a, call ≠ .write a) :
    Follows own limit ids vs ws (vs.step (.lob handle call)) (ws.step (.lob handle call)) := by
  obtain ⟨hx, hy⟩ | ⟨ref, ref', hx, hy, href⟩ := rel_cases (h.lobs handle hown)
  · simp only [step, hx, hy]
    exact h.rest .absent
  · obtain ⟨hanswer, hadvances⟩ := h.world.call href hcall
    simp only [step, hx, hy]
    cases hv : vs.world.call ref call <;> cases hw : ws.world.call ref' call <;>
      rw [hv, hw] at hanswer hadvances <;> cases hanswer <;>
      exact ⟨rfl, ids, hadvances, h.advance hadvances⟩

/-! ### Every command -/

/-- **A command for things of its own reports the same to a party alone and among others**, and
leaves it the same. -/
theorem Mirrors.step (h : Mirrors own limit ids vs ws) (hstored : ws.Stocked limit)
    {c c' : Command} (hc : c.Renumbered ids c') (hown : ∀ thing ∈ c.things, own thing)
    (hquiet : c.Quiet) : Follows own limit ids vs ws (vs.step c) (ws.step c') := by
  cases hc with
  | executeWith name hargs => exact h.executeWith (hown _ (List.mem_cons_self ..)) hargs
  | same _ hplain =>
    cases c with
    | register sql script => exact hquiet.elim
    | create name options released =>
      obtain ⟨hhandle, hscripts⟩ := beside_handle released h.world.scripts
      simp only [Workspace.step, hhandle]
      exact h.settle (hown _ (List.mem_cons_self ..)) (Statement.concur_new _ options hscripts)
        ((Statement.lobState_new ..).trans (lobState_handle ..))
        ((Statement.lobState_new ..).trans (lobState_handle ..))
    | prepare name sql options released =>
      obtain ⟨hhandle, hscripts⟩ := beside_handle released h.world.scripts
      simp only [Workspace.step, hhandle]
      exact h.settle (hown _ (List.mem_cons_self ..))
        (Statement.concur_prepare _ sql options hscripts)
        ((Statement.lobState_prepare ..).trans (lobState_handle ..))
        ((Statement.lobState_prepare ..).trans (lobState_handle ..))
    | drop name =>
      have hname := h.statement_eq (hown (.statement name) (List.mem_cons_self ..))
      cases found : ws.statements.get? name with
      | none =>
        simp only [Workspace.step, hname, found]
        exact h.rest .done
      | some s =>
        have hclosed := h.world.advances_of_lobState
          (Statement.aside_close (s, vs.world)).lobState
          (Statement.aside_close (s, ws.world)).lobState
        have hleft := h.advance hclosed
        simp only [Workspace.step, hname, found]
        exact ⟨rfl, ids, hclosed, { hleft with statements := hleft.statements.erase name }⟩
    | close name =>
      simp only [Workspace.step]
      refine h.onStatement_just (hown _ (List.mem_cons_self ..)) (fun s => ?_) _
      refine .of_concur h.world ?_ (Statement.aside_close (s, vs.world)).lobState
        (Statement.aside_close (s, ws.world)).lobState
      exact .ok () (Statement.beside_close ⟨rfl, h.world.scripts⟩)
    | configure name later =>
      simp only [Workspace.step]
      refine h.onStatement_just (hown _ (List.mem_cons_self ..)) (fun s => ?_) _
      exact .of_concur h.world (.ok () ⟨rfl, h.world.scripts⟩) rfl rfl
    | execute name sql =>
      exact h.onStatement_just (hown _ (List.mem_cons_self ..))
        (fun s => Statement.matches_execute h.world sql) _
    | executeWith name args => exact absurd rfl (hplain name args)
    | batch name sqls =>
      exact h.onStatement_just (hown _ (List.mem_cons_self ..))
        (fun s => Statement.matches_batch h.world sqls) _
    | serial name choice =>
      exact h.onStatement_just (hown _ (List.mem_cons_self ..))
        (fun s => Statement.matches_serial h.world choice) _
    | fetch name move keep =>
      cases keep with
      | none =>
        simp only [Workspace.step]
        refine h.onStatement (hown _ (List.mem_cons_self ..)) (fun s found => ?_)
          fun _ _ _ _ _ hembeds hrow => passRow_follows hembeds hrow
        exact Statement.matches_fetch h.world
          (hstored.statements s (Named.mem_things_of_get? found)) move
      | some keep =>
        exact h.fetchAndKeep hstored (hown _ (by simp [Command.things]))
          (hown _ (by simp [Command.things])) move
    | cursor name call =>
      have hname := h.statement_eq (hown (.statement name) (List.mem_cons_self ..))
      simp only [Workspace.step, hname]
      cases (ws.statements.get? name).bind (·.cursor) with
      | none => exact h.rest .absent
      | some _ =>
        refine h.onStatement (hown _ (List.mem_cons_self ..)) (fun s found => ?_)
          fun _ _ _ _ _ hembeds hanswer => passAnswer_follows hembeds hanswer
        exact Statement.matches_perform_onCursor h.world
          (hstored.statements s (Named.mem_things_of_get? found)) call
    | take row path handle =>
      exact h.take (hown _ (by simp [Command.things])) (hown _ (by simp [Command.things])) path
    | dropRow row =>
      obtain ⟨hx, hy⟩ | ⟨r, r', hx, hy, hrow⟩ :=
        rel_cases (h.rows row (hown _ (List.mem_cons_self ..)))
      · simp only [Workspace.step, hx, hy]
        exact h.rest .done
      · have hdropped := h.world.releaseAll hrow.values
        have hleft := h.advance hdropped
        simp only [Workspace.step, hx, hy]
        exact ⟨rfl, ids, hdropped, { hleft with rows := hleft.rows.erase row }⟩
    | dropLob handle =>
      obtain ⟨hx, hy⟩ | ⟨ref, ref', hx, hy, href⟩ :=
        rel_cases (h.lobs handle (hown _ (List.mem_cons_self ..)))
      · simp only [Workspace.step, hx, hy]
        exact h.rest .done
      · have hdropped := h.world.dropAlias href
        have hleft := h.advance hdropped
        simp only [Workspace.step, hx, hy]
        exact ⟨rfl, ids, hdropped, { hleft with lobs := hleft.lobs.erase handle }⟩
    | lob handle call =>
      refine h.callLob (hown _ (List.mem_cons_self ..)) fun a => ?_
      rintro rfl
      exact hquiet

end Workspace
end SqlClient
