import SqlClient.Proofs.CanonicalForm
import SqlClient.Proofs.CursorHandles

/-! # The value of one cell

A cell that decodes gives a value of the kind that its column's host type prescribes, and nothing
of the cell is lost on the way (`Faithful`): NULL is for NULL cells only, text and bytes are whole,
integers are exact, and a large object is a new handle at the start of its content
(`OpensHandle`).  A cell that does not fit the column's buffer does not decode; it is never cut.

What a cell gives depends on the world it is decoded in only through the contents that it names.
So it gives the same in a world that has grown since (`World.Grown`).
-/
namespace SqlClient

open Scripted

/-- The error of an operation that fails. -/
def failure? {ε σ α : Type} : EStateM.Result ε σ α → Option ε
  | .ok _ _ => none
  | .error e _ => some e

/-! ## Worlds that grow -/

/-- Handles and contents may have been added; those there were are the same. -/
structure World.Grown (w w' : ClientWorld) : Prop where
  handles : w.handles <+: w'.handles
  contents : w.server.contents <+: w'.server.contents

namespace World.Grown

variable {w w' w'' : ClientWorld}

theorem refl (w : ClientWorld) : w.Grown w := ⟨List.prefix_rfl, List.prefix_rfl⟩

theorem trans (hfirst : w.Grown w') (hnext : w'.Grown w'') : w.Grown w'' :=
  ⟨hfirst.handles.trans hnext.handles, hfirst.contents.trans hnext.contents⟩

/-- A handle that was there is there. -/
theorem handle? (h : w.Grown w') {ref : LobRef} {x : LobHandle Lob}
    (hx : w.handle? ref = some x) : w'.handle? ref = some x := by
  obtain ⟨hlt, rfl⟩ := List.getElem?_eq_some_iff.mp hx
  exact List.prefix_iff_getElem?.mp h.handles ref.id hlt

/-- A content that was kept is the same. -/
theorem content (h : w.Grown w') {n : Nat} (hn : n < w.server.contents.length) :
    w'.server.content n = w.server.content n := by
  rw [Server.content, Server.content, List.prefix_iff_getElem?.mp h.contents n hn,
    List.getElem?_eq_getElem hn]

end World.Grown

/-! ## Integers -/

/-- The integer that a value is, or that its text writes. -/
def Value.integer? : Value → Option Int
  | .int32 n => some n.toInt
  | .int64 n => some n.toInt
  | .text s => Number.integer? (Text.trimmed s.toList)
  | .bytes b =>
    match Utf8.decode b with
    | .ok s => Number.integer? (Text.trimmed s.toList)
    | .error _ => none
  | _ => none

namespace Value

variable {v : Value}

/-- What is read lies within its bounds. -/
theorem integer?_of_readInteger {s : String} {low high n : Int}
    (h : readInteger s low high = .ok n) :
    Number.integer? (Text.trimmed s.toList) = some n ∧ low ≤ n ∧ n < high := by
  unfold readInteger at h
  split at h
  · rename_i m hm
    split at h
    · rename_i hbounds
      cases h
      exact ⟨hm, hbounds⟩
    · cases h
  · cases h

/-- The text of bytes, if they are one. -/
theorem decode_of_toText? {b : Bytes} {s : String} (h : toText? (.bytes b) = .ok s) :
    Utf8.decode b = .ok s := by
  rw [toText?] at h
  cases hdecode : Utf8.decode b with
  | error fault =>
    rw [hdecode] at h
    cases h
  | ok t =>
    rw [hdecode] at h
    cases h
    rfl

/-- **A 32-bit integer is exact.** -/
theorem integer?_of_toInt32? {n : Int32} (h : v.toInt32? = .ok n) : v.integer? = some n.toInt := by
  cases v with
  | int32 m =>
    cases h
    rfl
  | int64 m =>
    rw [toInt32?] at h
    split at h
    · rename_i hbounds
      cases h
      rw [integer?, Int32.toInt_ofInt_of_le (by omega) (by omega)]
    · cases h
  | text s =>
    obtain ⟨m, hread, rfl⟩ := map_eq_ok h
    obtain ⟨hm, hlow, hhigh⟩ := integer?_of_readInteger hread
    rw [integer?, hm, Int32.toInt_ofInt_of_le (by omega) (by omega)]
  | bytes b =>
    obtain ⟨s, hs, hrest⟩ := bind_eq_ok h
    obtain ⟨m, hread, hn⟩ := bind_eq_ok hrest
    cases hn
    obtain ⟨hm, hlow, hhigh⟩ := integer?_of_readInteger hread
    simp only [integer?, decode_of_toText? hs]
    rw [hm, Int32.toInt_ofInt_of_le (by omega) (by omega)]
  | null | double | lob => cases h

/-- **A 64-bit integer is exact.** -/
theorem integer?_of_toInt64? {n : Int64} (h : v.toInt64? = .ok n) : v.integer? = some n.toInt := by
  cases v with
  | int32 m =>
    cases h
    rw [integer?, Int32.toInt_toInt64]
  | int64 m =>
    cases h
    rfl
  | text s =>
    obtain ⟨m, hread, rfl⟩ := map_eq_ok h
    obtain ⟨hm, hlow, hhigh⟩ := integer?_of_readInteger hread
    rw [integer?, hm, Int64.toInt_ofInt_of_le (by omega) (by omega)]
  | bytes b =>
    obtain ⟨s, hs, hrest⟩ := bind_eq_ok h
    obtain ⟨m, hread, hn⟩ := bind_eq_ok hrest
    cases hn
    obtain ⟨hm, hlow, hhigh⟩ := integer?_of_readInteger hread
    simp only [integer?, decode_of_toText? hs]
    rw [hm, Int64.toInt_ofInt_of_le (by omega) (by omega)]
  | null | double | lob => cases h

end Value

/-! ## Values in a buffer -/

/-- The kind of the values that a host type prescribes. -/
def HostType.valueKind : HostType → ValueKind
  | .int32 => .int32
  | .int64 => .int64
  | .double => .double
  | .bytes => .bytes
  | .decimal | .text => .text
  | .blob | .clob => .lob

/-- **Nothing of a value is lost** when it is transferred as `u` in at most `size` bytes. -/
structure Value.Whole (v : Value) (size : Nat) (u : Value) : Prop where
  text : ∀ t, u = .text t → v.toText? = .ok t ∧ (Utf8.encode t).length ≤ size
  bytes : ∀ b, u = .bytes b → v.toBytes? = .ok b ∧ b.length ≤ size
  int32 : ∀ n, u = .int32 n → v.integer? = some n.toInt
  int64 : ∀ n, u = .int64 n → v.integer? = some n.toInt
  double : ∀ d, u = .double d → v.toDouble? = .ok d

/-- Neither NULL nor a handle has anything of a value. -/
theorem Value.whole_of_empty {v u : Value} {size : Nat} (hu : u = .null ∨ u.kind = .lob) :
    v.Whole size u := by
  constructor <;> rintro _ rfl <;> rcases hu with hu | hu <;> cases hu

namespace Buffer

variable {b b' : Buffer} {host : HostType} {u v : Value}

/-- What was accepted fits. -/
theorem length_le_of_putBytes {data : Bytes} (h : b.putBytes data = .ok b') :
    data.length ≤ b.capacity :=
  (putBytes_eq_ok_iff.mp h).1

/-- **What was written is read as a whole**, in the kind of its host type. -/
theorem Written.whole (hwritten : Written b v host b') (hkind : host.lobKind? = none)
    (hdecode : b'.decode host = .ok u) : u.kind = host.valueKind ∧ v.Whole b.capacity u := by
  cases hwritten with
  | @int32 n hn =>
    rw [decode_putInt32] at hdecode
    cases hdecode
    refine ⟨rfl, ?_⟩
    constructor <;> rintro _ ⟨⟩
    exact Value.integer?_of_toInt32? hn
  | @int64 n hn =>
    rw [decode_putInt64] at hdecode
    cases hdecode
    refine ⟨rfl, ?_⟩
    constructor <;> rintro _ ⟨⟩
    exact Value.integer?_of_toInt64? hn
  | @double d hd =>
    rw [decode_putDouble] at hdecode
    cases hdecode
    refine ⟨rfl, ?_⟩
    constructor <;> rintro _ ⟨⟩
    exact hd
  | @bytes _ data _ hhost hdata hput =>
    rcases hhost with rfl | rfl
    · cases hdecode.symm.trans (decode_bytes_of_putBytes (.inl rfl) hput)
      refine ⟨rfl, ?_⟩
      constructor <;> rintro _ ⟨⟩
      exact ⟨hdata, length_le_of_putBytes hput⟩
    · cases hkind
  | @text _ s _ hhost hs hput =>
    have hvalue : host.valueKind = .text := by
      rcases hhost with rfl | rfl | rfl
      · rfl
      · rfl
      · cases hkind
    cases hdecode.symm.trans (decode_text_of_putBytes hhost hput)
    refine ⟨hvalue.symm, ?_⟩
    constructor <;> rintro _ ⟨⟩
    exact ⟨hs, length_le_of_putBytes hput⟩

end Buffer

namespace Scripted

theorem ResultSet.putCell_lob (s : Server) (host : HostType) (n : Nat) (b : Buffer) :
    putCell s host (.lob n) b = b.encode host ((Cell.lob n).value s) := rfl

/-- **How a cell gets into a buffer**: as NULL, as a value in the form of its host type, or, if it
is an empty text, as no bytes. -/
theorem ResultSet.putCell_cases {s : Server} {host : HostType} {cell : Cell} {b b' : Buffer}
    (h : putCell s host cell b = .ok b') :
    cell = .null ∧ b' = b.setNull ∨
      cell ≠ .null ∧ Buffer.Written b (cell.value s) host b' ∨
      cell = .text "" ∧ b.putBytes [] = .ok b' := by
  have hencoded (hcell : cell ≠ .null) (hnull : (cell.value s).isNullInput = false)
      (hput : b.encode host (cell.value s) = .ok b') :
      cell ≠ .null ∧ Buffer.Written b (cell.value s) host b' := by
    rcases Buffer.encode_cases hput with ⟨hinput, -⟩ | ⟨-, hwritten⟩
    · rw [hnull] at hinput
      cases hinput
    · exact ⟨hcell, hwritten⟩
  cases cell with
  | null => exact .inl ⟨rfl, (Except.ok.inj h).symm⟩
  | text t =>
    rw [putCell] at h
    split at h
    · rename_i hempty
      rw [String.isEmpty_iff] at hempty
      exact .inr (.inr ⟨by rw [hempty], h⟩)
    · rename_i hempty
      exact .inr (.inl (hencoded (by simp) (Bool.eq_false_of_not_eq_true hempty) h))
  | int | double | bytes | lob => exact .inr (.inl (hencoded (by simp) rfl h))

/-- **A scalar that comes through a buffer** is NULL only for a NULL cell, and otherwise whole. -/
theorem ResultSet.whole_of_putCell {s : Server} {host : HostType} {cell : Cell} {size : Nat}
    {v : Value} (hkind : host.lobKind? = none)
    (h : (putCell s host cell (.new size)).bind (·.decode host) = .ok v) :
    (v = .null ↔ cell = .null) ∧ (v ≠ .null → v.kind = host.valueKind) ∧
      (cell.value s).Whole size v := by
  obtain ⟨b', hput, hdecode⟩ := bind_eq_ok h
  have hwritten (hcell : cell ≠ .null)
      (hwritten : Buffer.Written (.new size) (cell.value s) host b') :
      (v = .null ↔ cell = .null) ∧ (v ≠ .null → v.kind = host.valueKind) ∧
        (cell.value s).Whole size v := by
    obtain ⟨hvalue, hwhole⟩ := hwritten.whole hkind hdecode
    have hv : v ≠ .null := by
      rintro rfl
      cases host <;> cases hvalue
    exact ⟨⟨fun hnull => absurd hnull hv, fun hnull => absurd hnull hcell⟩, fun _ => hvalue, hwhole⟩
  rcases putCell_cases hput with ⟨rfl, rfl⟩ | ⟨hcell, hvalue⟩ | ⟨rfl, hbytes⟩
  · cases hdecode
    exact ⟨iff_of_true rfl rfl, fun hv => absurd rfl hv, Value.whole_of_empty (.inl rfl)⟩
  · exact hwritten hcell hvalue
  · -- no bytes are an empty text and an empty byte string, but no number
    cases host with
    | int32 | int64 | double =>
      cases hbytes
      cases hdecode
    | bytes => exact hwritten (by simp) (.bytes (.inl rfl) rfl hbytes)
    | decimal => exact hwritten (by simp) (.text (.inl rfl) rfl hbytes)
    | text => exact hwritten (by simp) (.text (.inr (.inl rfl)) rfl hbytes)
    | blob | clob => cases hkind

/-! ## Large objects -/

/-- The bytes of a cell as a large object. -/
def Cell.lobBytes (s : Server) (cell : Cell) : Bytes :=
  match cell.value s with
  | .bytes b => b
  | v => Utf8.encode v.display

/-- **A cell that opens a large object**: its own content, or else a private copy of its bytes that
the server keeps behind all other contents. -/
theorem ResultSet.lobContent_cases (s : Server) {cell : Cell} (hcell : cell ≠ .null) :
    (∃ n, cell = .lob n ∧ lobContent s cell = (some n, s)) ∨
      (∀ n, cell ≠ .lob n) ∧ lobContent s cell =
        (some s.contents.length, { s with contents := s.contents ++ [cell.lobBytes s] }) := by
  cases cell with
  | null => exact absurd rfl hcell
  | lob n => exact .inl ⟨n, rfl, rfl⟩
  | int | double | text | bytes => exact .inr ⟨by simp, rfl⟩

end Scripted

/-- **A handle as it is opened on a cell** in world `w`, and found in world `w'`: a new one that is
open, of the kind of its column, with one alias, and at position one.  A large object is shared;
for any other cell the content is a new copy of its bytes. -/
structure OpensHandle (w w' : ClientWorld) (cell : Cell) (kind : LobKind) (ref : LobRef)
    (n : Nat) : Prop where
  fresh : w.handles.length ≤ ref.id
  kind : ref.kind = kind
  handle : w'.handle? ref = some (.new (.new n ref.kind) ref.kind)
  position : w'.call ref .position = .ok (.number 1) w'
  stored : n < w'.server.contents.length
  content : w'.server.content n = cell.lobBytes w.server
  shared : ∀ m, cell = .lob m → n = m
  own : (∀ m, cell ≠ .lob m) → w.server.contents.length ≤ n

/-- **What a cell gives under its column**, decoded in world `w`, as it is seen in world `w'`. -/
structure Faithful (w w' : ClientWorld) (column : Column) (cell : Cell) (v : Value) : Prop where
  null_iff : v = .null ↔ cell = .null
  kind : v ≠ .null → v.kind = column.hostType.valueKind
  whole : (cell.value w.server).Whole column.bufferSize v
  opens : ∀ ref, v = .lob ref → ∃ kind n,
    column.hostType.lobKind? = some kind ∧ OpensHandle w w' cell kind ref n

theorem HostType.valueKind_of_lobKind? {host : HostType} {kind : LobKind}
    (h : host.lobKind? = some kind) : host.valueKind = .lob := by
  cases host <;> first | rfl | cases h

/-- A handle at the start of its content says so. -/
theorem World.call_position_new {w : ClientWorld} {ref : LobRef} {n : Nat} {kind : LobKind}
    (h : w.handle? ref = some (.new (.new n kind) kind)) :
    w.call ref .position = .ok (.number 1) w := by
  obtain ⟨hlt, hfound⟩ := List.getElem?_eq_some_iff.mp h
  have hset : w.handles.set ref.id (.new (.new n kind) kind) = w.handles := by
    rw [← hfound, List.set_getElem_self]
  rw [World.call, World.onHandle, h]
  exact congrArg (fun handles => EStateM.Result.ok (LobAnswer.number 1)
    (⟨w.server, handles⟩ : ClientWorld)) hset

/-- The handle that is entered for a content. -/
theorem opensHandle_enter {w w' : ClientWorld} {cell : Cell} {kind : LobKind} {n : Nat}
    (hgrown : w.handles.length ≤ w'.handles.length) (hn : n < w'.server.contents.length)
    (hcontent : w'.server.content n = cell.lobBytes w.server) (hshared : ∀ m, cell = .lob m → n = m)
    (hown : (∀ m, cell ≠ .lob m) → w.server.contents.length ≤ n) :
    OpensHandle w (w'.enter (.new n kind) kind).2 cell kind (w'.enter (.new n kind) kind).1 n := by
  have hhandle : (w'.enter (.new n kind) kind).2.handle? (w'.enter (.new n kind) kind).1 =
      some (.new (.new n kind) kind) := List.getElem?_concat_length
  exact ⟨hgrown, rfl, hhandle, World.call_position_new hhandle, hn, hcontent, hshared, hown⟩

namespace Scripted.Cell

variable {w w' w'' : ClientWorld} {column : Column} {cell : Cell} {v : Value}

theorem decode_of_scalar (hkind : column.hostType.lobKind? = none) :
    cell.decode column w =
      match (ResultSet.putCell w.server column.hostType cell (.new column.bufferSize)).bind
        (·.decode column.hostType) with
      | .ok v => .ok v w
      | .error e => .error e w := by
  cases hread : (ResultSet.putCell w.server column.hostType cell (.new column.bufferSize)).bind
      (·.decode column.hostType) <;> simp only [decode, hkind, hread]

theorem decode_of_lob {kind : LobKind} (hkind : column.hostType.lobKind? = some kind) :
    cell.decode column w =
      match ResultSet.lobContent w.server cell with
      | (none, server) => .ok .null { w with server }
      | (some n, server) =>
        .ok (.lob (World.enter { w with server } (.new n kind) kind).1)
          (World.enter { w with server } (.new n kind) kind).2 := by
  rcases hlob : ResultSet.lobContent w.server cell with ⟨_ | n, server⟩ <;>
    simp only [decode, hkind, hlob]

/-- **A cell that decodes is decoded faithfully.** -/
theorem faithful_decode (hcell : cell.Stored w.server.contents.length)
    (h : cell.decode column w = .ok v w') : Faithful w w' column cell v ∧ w.Grown w' := by
  cases hkind : column.hostType.lobKind? with
  | none =>
    rw [decode_of_scalar hkind] at h
    split at h
    · rename_i u hu
      cases h
      obtain ⟨hnull, hvalue, hwhole⟩ := ResultSet.whole_of_putCell hkind hu
      refine ⟨⟨hnull, hvalue, hwhole, ?_⟩, .refl w⟩
      rintro ref rfl
      obtain ⟨b', -, hdecode⟩ := bind_eq_ok hu
      cases Buffer.lob?_of_decode hdecode
    · cases h
  | some kind =>
    rw [decode_of_lob hkind] at h
    by_cases hnull : cell = .null
    · subst hnull
      cases h
      refine ⟨⟨iff_of_true rfl rfl, fun hv => absurd rfl hv, Value.whole_of_empty (.inl rfl), ?_⟩,
        .refl w⟩
      rintro _ ⟨⟩
    · have hopened (w₁ : ClientWorld) (n : Nat) (hgrown : w.Grown w₁)
          (hopens : OpensHandle w (w₁.enter (.new n kind) kind).2 cell kind
            (w₁.enter (.new n kind) kind).1 n) :
          Faithful w (w₁.enter (.new n kind) kind).2 column cell
              (.lob (w₁.enter (.new n kind) kind).1) ∧
            w.Grown (w₁.enter (.new n kind) kind).2 := by
        refine ⟨⟨iff_of_false (by simp) hnull,
          fun _ => (HostType.valueKind_of_lobKind? hkind).symm, Value.whole_of_empty (.inr rfl),
          ?_⟩, hgrown.handles.trans (List.prefix_append ..), hgrown.contents⟩
        rintro _ ⟨⟩
        exact ⟨kind, n, hkind, hopens⟩
      rcases ResultSet.lobContent_cases w.server hnull with ⟨n, rfl, hlob⟩ | ⟨hplain, hlob⟩
      · rw [hlob] at h
        cases h
        exact hopened w n (.refl w) (opensHandle_enter (le_refl _) hcell rfl
          (fun m hm => Cell.lob.inj hm) (fun hother => absurd rfl (hother n)))
      · rw [hlob] at h
        cases h
        refine hopened _ _ ⟨List.prefix_rfl, List.prefix_append ..⟩ (opensHandle_enter (le_refl _)
          (by simp) ?_ (fun m hm => absurd hm (hplain m)) (fun _ => le_refl _))
        simp [Server.content]

/-! ## Cells in a world that has grown -/

/-- A cell holds the same value when contents were added. -/
theorem value_of_grown (hgrown : w.Grown w') (hcell : cell.Stored w.server.contents.length) :
    cell.value w'.server = cell.value w.server := by
  cases cell with
  | lob n => rw [value, value, hgrown.content hcell]
  | null | int | double | text | bytes => rfl

/-- **A cell fails alike** in a world that has grown. -/
theorem failure?_decode_of_grown (hgrown : w.Grown w')
    (hcell : cell.Stored w.server.contents.length) :
    failure? (cell.decode column w') = failure? (cell.decode column w) := by
  cases hkind : column.hostType.lobKind? with
  | none =>
    have hput : ResultSet.putCell w'.server column.hostType cell (.new column.bufferSize) =
        ResultSet.putCell w.server column.hostType cell (.new column.bufferSize) := by
      cases cell with
      | lob n => rw [ResultSet.putCell_lob, ResultSet.putCell_lob, value_of_grown hgrown hcell]
      | null | int | double | text | bytes => rfl
    rw [decode_of_scalar hkind, decode_of_scalar hkind, hput]
    split <;> rfl
  | some kind =>
    -- a large object is opened whatever its content
    have hopens (u : ClientWorld) : failure? (cell.decode column u) = none := by
      rw [decode_of_lob hkind]
      split <;> rfl
    rw [hopens, hopens]

end Scripted.Cell

variable {w w' w'' : ClientWorld} {column : Column} {cell : Cell} {v : Value}

/-- What was decoded later is as faithful to the world there was before. -/
theorem Faithful.of_grown (h : Faithful w' w'' column cell v) (hgrown : w.Grown w')
    (hcell : cell.Stored w.server.contents.length) : Faithful w w'' column cell v where
  null_iff := h.null_iff
  kind := h.kind
  whole := by
    rw [← Cell.value_of_grown hgrown hcell]
    exact h.whole
  opens := by
    intro ref hv
    obtain ⟨kind, n, hkind, hopens⟩ := h.opens ref hv
    have hbytes : cell.lobBytes w'.server = cell.lobBytes w.server := by
      rw [Cell.lobBytes, Cell.value_of_grown hgrown hcell, Cell.lobBytes]
    exact ⟨kind, n, hkind,
      { hopens with
        fresh := hgrown.handles.length_le.trans hopens.fresh
        content := hopens.content.trans hbytes
        own := fun hother => hgrown.contents.length_le.trans (hopens.own hother) }⟩

/-- What was decoded stays, whatever is added. -/
theorem Faithful.grown (h : Faithful w w' column cell v) (hgrown : w'.Grown w'') :
    Faithful w w'' column cell v where
  null_iff := h.null_iff
  kind := h.kind
  whole := h.whole
  opens := by
    intro ref hv
    obtain ⟨kind, n, hkind, hopens⟩ := h.opens ref hv
    have hhandle := hgrown.handle? hopens.handle
    exact ⟨kind, n, hkind,
      { hopens with
        handle := hhandle
        position := World.call_position_new hhandle
        stored := Nat.lt_of_lt_of_le hopens.stored hgrown.contents.length_le
        content := (hgrown.content hopens.stored).trans hopens.content }⟩

end SqlClient
