import SqlClient.Proofs.LobUnits

/-! # Reading from any position

A read starts at a position that is given, or where its handle stands (`LobHandle.startOf`).  From
there it gives bytes up to its size, or the longest run of characters that fits (`LongestRun`), and
the handle goes behind what it gave.  Positions in front of the first are refused, and behind the
last there is nothing (`LobHandle.ReadsFrom`).

All this is so for every position, and for every size that a buffer can have.  A read that asks for
more gives nothing, wherever it starts and however little there is to read
(`LobHandle.readsFrom_iff`).
-/
namespace SqlClient

open Scripted (Lob Server)

/-! ## Runs of characters -/

/-- **The longest run of whole characters** at the front of a text that takes at most `room`
bytes. -/
structure LongestRun (room : Nat) (cs run : List Char) : Prop where
  front : run <+: cs
  fits : (Lob.bytesOf run).length ≤ room
  longest : ∀ other, other <+: cs → (Lob.bytesOf other).length ≤ room → other <+: run

theorem Scripted.Lob.length_bytesOf_cons (c : Char) (cs : List Char) :
    (bytesOf (c :: cs)).length = Utf8.width c + (bytesOf cs).length := by
  rw [bytesOf_eq, bytesOf_eq, List.map_cons, List.flatten_cons, List.length_append,
    String.length_utf8EncodeChar, Utf8.width]

theorem Scripted.Lob.bytesOf_eq_nil_iff {cs : List Char} : bytesOf cs = [] ↔ cs = [] := by
  cases cs with
  | nil => exact iff_of_true rfl rfl
  | cons c cs =>
    have hlength := length_bytesOf_cons c cs
    have hpos : 0 < Utf8.width c := c.utf8Size_pos
    refine iff_of_false (fun hnil => ?_) (List.cons_ne_nil c cs)
    rw [hnil, List.length_nil] at hlength
    omega

/-- What a read looks for is the longest run. -/
theorem longestRun_fitting (room : Nat) (cs : List Char) :
    LongestRun room cs (Lob.fitting room cs) := by
  induction cs generalizing room with
  | nil => exact ⟨List.prefix_rfl, Nat.zero_le room, fun _ hfront _ => hfront⟩
  | cons c rest ih =>
    rw [Lob.fitting]
    by_cases hc : Utf8.width c ≤ room
    · obtain ⟨hfront, hfits, hlongest⟩ := ih (room - Utf8.width c)
      rw [if_pos hc]
      refine ⟨List.cons_prefix_cons.mpr ⟨rfl, hfront⟩, ?_, ?_⟩
      · rw [Lob.length_bytesOf_cons]
        omega
      · rintro (_ | ⟨c', other⟩) hother hlength
        · exact List.nil_prefix
        · obtain ⟨rfl, hrest⟩ := List.cons_prefix_cons.mp hother
          rw [Lob.length_bytesOf_cons] at hlength
          exact List.cons_prefix_cons.mpr ⟨rfl, hlongest other hrest (by omega)⟩
    · rw [if_neg hc]
      refine ⟨List.nil_prefix, Nat.zero_le room, ?_⟩
      rintro (_ | ⟨c', other⟩) hother hlength
      · exact List.prefix_rfl
      · obtain ⟨rfl, -⟩ := List.cons_prefix_cons.mp hother
        rw [Lob.length_bytesOf_cons] at hlength
        omega

/-- There is one longest run. -/
theorem LongestRun.unique {room : Nat} {cs run run' : List Char} (h : LongestRun room cs run)
    (h' : LongestRun room cs run') : run = run' :=
  (h'.longest run h.front h.fits).eq_of_length_le (h.longest run' h'.front h'.fits).length_le

/-- **No character fits** when the first one is too wide alone. -/
theorem LongestRun.eq_nil_iff {room : Nat} {c : Char} {rest run : List Char}
    (h : LongestRun room (c :: rest) run) : run = [] ↔ room < Utf8.width c := by
  have hsingle : (Lob.bytesOf [c]).length = Utf8.width c := Lob.length_bytesOf_cons c []
  constructor
  · rintro rfl
    by_contra hc
    have hfirst := h.longest [c] (List.cons_prefix_cons.mpr ⟨rfl, List.nil_prefix⟩) (by omega)
    cases List.prefix_nil.mp hfirst
  · intro hc
    cases run with
    | nil => rfl
    | cons c' run =>
      obtain ⟨rfl, -⟩ := List.cons_prefix_cons.mp h.front
      have hfits := h.fits
      rw [Lob.length_bytesOf_cons] at hfits
      omega

namespace LobHandle

/-! ## Where a read starts and ends -/

/-- The position that a read starts at: the one that is given, or the current one. -/
def startOf (h : LobHandle Lob) : Option Int64 → Int
  | some p => p.toInt
  | none => h.lob.offset + 1

/-- The handle behind the first `units` units of its object. -/
def behind (h : LobHandle Lob) (units : Nat) : LobHandle Lob :=
  { h with lob := { h.lob with offset := units } }

/-- **A handle that can be read**: it is open, on an object of its own kind that is not NULL. -/
structure Readable (h : LobHandle Lob) : Prop where
  isOpen : h.isOpen = true
  kind : h.lob.kind = h.kind
  notNull : h.lob.isNull = false

variable {h : LobHandle Lob} {s : Server} {start : Option Int64} {skip size : Nat}

theorem position_behind (hopen : h.isOpen = true) (units : Nat) (s : Server) :
    position (h.behind units, s) = .ok (units + 1) (h.behind units, s) :=
  position_of_open (h := h.behind units) hopen s

/-- A position from the first on is behind so many units. -/
theorem exists_skip (hstart : 1 ≤ h.startOf start) : ∃ skip : Nat, h.startOf start = skip + 1 :=
  ⟨(h.startOf start - 1).toNat, by omega⟩

theorem skipTo_of_startOf (hstart : h.startOf start = skip + 1) :
    h.lob.skipTo start = .ok skip := by
  cases start with
  | none =>
    have hskip : h.lob.offset = skip := by
      simp only [startOf] at hstart
      omega
    exact congrArg Except.ok hskip
  | some p =>
    simp only [startOf] at hstart
    rw [Lob.skipTo, if_neg (by omega), hstart]
    exact congrArg Except.ok (by omega)

theorem skipTo_of_startOf_lt (hstart : h.startOf start < 1) :
    h.lob.skipTo start = .error (.refused (.lobPosition (h.startOf start))) := by
  cases start with
  | none =>
    simp only [startOf] at hstart
    omega
  | some p => exact if_pos hstart

/-! ## What a read gives -/

/-- **What a read is**: what the object has where it starts, made a value. -/
theorem Readable.read_eq (hread : h.Readable) (start : Option Int64) (hsize : size < roomLimit) :
    read start size (h, s) =
      match h.lob.skipTo start with
      | .error e => .error e (h, s)
      | .ok skip =>
        match Lob.slice h.kind (s.content h.lob.content) skip size with
        | .error e => .error e (h, s)
        | .ok none => .ok (.nothing h.kind) (h, s)
        | .ok (some (bytes, units)) =>
          match valueOf h.kind (.data bytes bytes.length) size with
          | .ok v => .ok v (h.behind (skip + units), s)
          | .error e => .error e (h.behind (skip + units), s) := by
  have hserver : RemoteLob.read size start (h.lob, s) = Lob.read size start (h.lob, s) := rfl
  have hslice (skip : Nat) : Lob.slice h.lob.kind (s.content h.lob.content) skip size =
      Lob.slice h.kind (s.content h.lob.content) skip size := by rw [hread.kind]
  rw [read_of_open hread.isOpen start hsize, hserver, Lob.read_eq,
    if_neg (by simp [hread.notNull])]
  cases h.lob.skipTo start with
  | error e => rfl
  | ok skip =>
    simp only [hslice]
    rcases Lob.slice h.kind (s.content h.lob.content) skip size with e | (_ | ⟨bytes, units⟩)
    · rfl
    · simp only [valueOf_noData]
    · simp only
      cases valueOf h.kind (.data bytes bytes.length) size <;> rfl

/-- Positions count from one. -/
theorem Readable.read_of_startOf_lt (hread : h.Readable) (hsize : size < roomLimit)
    (hstart : h.startOf start < 1) :
    read start size (h, s) = .error (.refused (.lobPosition (h.startOf start))) (h, s) := by
  rw [hread.read_eq start hsize, skipTo_of_startOf_lt hstart]

/-- The length of a handle is that of its object. -/
theorem Readable.length_eq (hread : h.Readable) :
    length (h, s) =
      match Lob.fragments h.kind (s.content h.lob.content) with
      | .ok us => .ok us.length (h, s)
      | .error e => .error e (h, s) := by
  rw [length_of_open hread.isOpen, Lob.length_eq_map hread.notNull, hread.kind]
  cases Lob.fragments h.kind (s.content h.lob.content) <;> rfl

/-- The units of an object that has a length. -/
theorem Readable.exists_fragments (hread : h.Readable) {n : Nat}
    (hlength : length (h, s) = .ok n (h, s)) :
    ∃ us, Lob.fragments h.kind (s.content h.lob.content) = .ok us ∧ us.length = n := by
  rw [hread.length_eq] at hlength
  cases hfragments : Lob.fragments h.kind (s.content h.lob.content) with
  | ok us =>
    rw [hfragments] at hlength
    cases hlength
    exact ⟨us, rfl, rfl⟩
  | error e =>
    rw [hfragments] at hlength
    cases hlength

/-- Behind the last unit nothing is read. -/
theorem Readable.read_of_lt_startOf (hread : h.Readable) (hsize : size < roomLimit)
    {us : List Bytes} (hfragments : Lob.fragments h.kind (s.content h.lob.content) = .ok us)
    (hstart : us.length < h.startOf start) :
    read start size (h, s) = .ok (.nothing h.kind) (h, s) := by
  have hfirst : 1 ≤ h.startOf start := by omega
  obtain ⟨skip, hskip⟩ := exists_skip hfirst
  have hpast : us.length ≤ skip := by omega
  simp only [hread.read_eq start hsize, skipTo_of_startOf hskip,
    Lob.slice_of_le hfragments hpast]

/-- What is no text is not read. -/
theorem Readable.read_of_fault (hread : h.Readable) (hsize : size < roomLimit)
    (hkind : h.kind = .character) {fault : Utf8.Fault}
    (hfault : Utf8.decode (s.content h.lob.content) = .error fault)
    (hstart : 1 ≤ h.startOf start) :
    read start size (h, s) = .error (.conversion (.notUtf8 .lobContent fault)) (h, s) := by
  obtain ⟨skip, hskip⟩ := exists_skip hstart
  have hcs : Lob.characters (s.content h.lob.content) =
      .error (.conversion (.notUtf8 .lobContent fault)) := by
    rw [Lob.characters, hfault]
    rfl
  simp only [hread.read_eq start hsize, skipTo_of_startOf hskip, hkind, Lob.slice, hcs]

/-- **Bytes are read** up to the size of the read. -/
theorem Readable.read_binary (hread : h.Readable) (hsize : size < roomLimit)
    (hkind : h.kind = .binary) (hstart : h.startOf start = skip + 1)
    (hskip : skip < (s.content h.lob.content).length) :
    read start size (h, s) =
      .ok (.bytes (((s.content h.lob.content).drop skip).take size))
        (h.behind (skip + (((s.content h.lob.content).drop skip).take size).length), s) := by
  have hfits : (((s.content h.lob.content).drop skip).take size).length ≤ size :=
    List.length_take_le ..
  simp only [hread.read_eq start hsize, skipTo_of_startOf hstart, hkind, Lob.slice_binary hskip,
    valueOf, delivered_data hfits]

/-- **Characters are read** as many as fit, and a read that has room but not for the first one was
too small. -/
theorem Readable.read_character (hread : h.Readable) (hsize : size < roomLimit)
    (hkind : h.kind = .character) {text : String}
    (htext : Utf8.decode (s.content h.lob.content) = .ok text)
    (hstart : h.startOf start = skip + 1) {c : Char} (hc : text.toList[skip]? = some c)
    {run : List Char} (hrun : LongestRun size (text.toList.drop skip) run) :
    read start size (h, s) =
      if 0 < size ∧ size < Utf8.width c then
        .error (.conversion (.readTooSmall size)) (h.behind (skip + run.length), s)
      else .ok (.text (String.ofList run)) (h.behind (skip + run.length), s) := by
  obtain rfl := hrun.unique (longestRun_fitting size _)
  obtain ⟨hskip, rfl⟩ := List.getElem?_eq_some_iff.mp hc
  have hcs : Lob.characters (s.content h.lob.content) = .ok text.toList := by
    rw [Lob.characters, htext]
    rfl
  simp only [hread.read_eq start hsize, skipTo_of_startOf hstart, hkind,
    Lob.slice_character hcs hskip, valueOf_character hrun.fits, Lob.bytesOf_eq_nil_iff]
  rw [List.drop_eq_getElem_cons hskip] at hrun ⊢
  have hsmall := hrun.eq_nil_iff
  by_cases hempty : Lob.fitting size (text.toList[skip] :: text.toList.drop (skip + 1)) = [] ∧
      size ≠ 0
  · rw [if_pos hempty, if_pos ⟨Nat.pos_of_ne_zero hempty.2, hsmall.mp hempty.1⟩]
  · rw [if_neg hempty, if_neg fun h => hempty ⟨hsmall.mpr h.2, Nat.ne_of_gt h.1⟩, Lob.bytesOf,
      Utf8.decode_encode]
    rfl

/-! ## Every position -/

/-- **Where a read can start**: in front of the first position, past the end, or in front of a byte
or a character; or in what is no text. -/
inductive Place (h : LobHandle Lob) (s : Server) (start : Option Int64) : Prop where
  | front (hstart : h.startOf start < 1)
  | past (us : List Bytes) (hus : Lob.fragments h.kind (s.content h.lob.content) = .ok us)
    (hstart : us.length < h.startOf start)
  | byte (hkind : h.kind = .binary) (skip : Nat) (hstart : h.startOf start = skip + 1)
    (hskip : skip < (s.content h.lob.content).length)
  | character (hkind : h.kind = .character) (text : String)
    (htext : Utf8.decode (s.content h.lob.content) = .ok text) (skip : Nat) (c : Char)
    (hstart : h.startOf start = skip + 1) (hc : text.toList[skip]? = some c)
  | invalid (hkind : h.kind = .character) (fault : Utf8.Fault)
    (hfault : Utf8.decode (s.content h.lob.content) = .error fault)
    (hstart : 1 ≤ h.startOf start)

/-- There is no other. -/
theorem place (h : LobHandle Lob) (s : Server) (start : Option Int64) : Place h s start := by
  by_cases hfirst : h.startOf start < 1
  · exact .front hfirst
  obtain ⟨skip, hskip⟩ := exists_skip (Int.not_lt.mp hfirst)
  cases hkind : h.kind with
  | binary =>
    by_cases hinside : skip < (s.content h.lob.content).length
    · exact .byte hkind skip hskip hinside
    · refine .past _ (by rw [hkind]; rfl) ?_
      rw [List.length_map]
      omega
  | character =>
    cases htext : Utf8.decode (s.content h.lob.content) with
    | error fault => exact .invalid hkind fault htext (by omega)
    | ok text =>
      by_cases hinside : skip < text.toList.length
      · exact .character hkind text htext skip _ hskip (List.getElem?_eq_getElem hinside)
      · refine .past _ (by rw [hkind, Lob.fragments, Lob.characters, htext]; rfl) ?_
        rw [List.length_map]
        omega

/-- **What a read from a position comes to.**  Unless said otherwise it leaves the handle where it
was; what it gives depends on the content and the position alone. -/
structure ReadsFrom (h : LobHandle Lob) (s : Server) (start : Option Int64) (size : Nat) :
    Prop where
  /-- Without a position a read starts at the current one. -/
  current : ∀ n, position (h, s) = .ok n (h, s) → h.startOf none = n
  refused : h.startOf start < 1 →
    read start size (h, s) = .error (.refused (.lobPosition (h.startOf start))) (h, s)
  /-- Past the end there is nothing. -/
  past : ∀ n, length (h, s) = .ok n (h, s) → n < h.startOf start →
    read start size (h, s) = .ok (.nothing h.kind) (h, s)
  /-- Bytes are given up to the size of the read, and the handle goes behind them. -/
  binary : h.kind = .binary → ∀ skip : Nat, h.startOf start = skip + 1 →
    skip < (s.content h.lob.content).length → ∃ b,
      b = ((s.content h.lob.content).drop skip).take size ∧
      read start size (h, s) = .ok (.bytes b) (h.behind (skip + b.length), s) ∧
      position (h.behind (skip + b.length), s) =
        .ok (skip + 1 + b.length) (h.behind (skip + b.length), s)
  /-- Characters are given as many as fit, and the handle goes behind them.  The read fails exactly
  when it has room, but not for the first character. -/
  character : h.kind = .character → ∀ text, Utf8.decode (s.content h.lob.content) = .ok text →
    ∀ (skip : Nat) (c : Char), h.startOf start = skip + 1 → text.toList[skip]? = some c → ∃ run,
      LongestRun size (text.toList.drop skip) run ∧
      read start size (h, s) =
        (if 0 < size ∧ size < Utf8.width c then
          .error (.conversion (.readTooSmall size)) (h.behind (skip + run.length), s)
        else .ok (.text (String.ofList run)) (h.behind (skip + run.length), s)) ∧
      position (h.behind (skip + run.length), s) =
        .ok (skip + 1 + run.length) (h.behind (skip + run.length), s)
  /-- Bytes and the characters of a text are never cut into what is no text. -/
  whole : (h.kind = .character → ∃ text, Utf8.decode (s.content h.lob.content) = .ok text) →
    ∀ source fault state,
      read start size (h, s) ≠ .error (.conversion (.notUtf8 source fault)) state
  /-- A content that is no text has no characters to read. -/
  invalid : h.kind = .character → ∀ fault, Utf8.decode (s.content h.lob.content) = .error fault →
    1 ≤ h.startOf start →
    read start size (h, s) = .error (.conversion (.notUtf8 .lobContent fault)) (h, s)

/-- **Nothing is cut**: what is read of bytes, or of a text, is never found to be no text. -/
theorem Readable.not_notUtf8 (hread : h.Readable) (hsize : size < roomLimit)
    (hvalid : h.kind = .character → ∃ text, Utf8.decode (s.content h.lob.content) = .ok text)
    {source : TextSource} {fault : Utf8.Fault} {state : LobHandle Lob × Server} :
    read start size (h, s) ≠ .error (.conversion (.notUtf8 source fault)) state := by
  intro hfail
  cases place h s start with
  | front hstart =>
    rw [hread.read_of_startOf_lt hsize hstart] at hfail
    cases hfail
  | past us hus hstart =>
    rw [hread.read_of_lt_startOf hsize hus hstart] at hfail
    cases hfail
  | byte hkind skip hstart hskip =>
    rw [hread.read_binary hsize hkind hstart hskip] at hfail
    cases hfail
  | character hkind text htext skip c hstart hc =>
    rw [hread.read_character hsize hkind htext hstart hc (longestRun_fitting size _)] at hfail
    split at hfail <;> cases hfail
  | invalid hkind fault hfault =>
    obtain ⟨text, htext⟩ := hvalid hkind
    cases htext.symm.trans hfault

/-- **A read for which a buffer can have room.** -/
theorem Readable.readsFrom (hread : h.Readable) (start : Option Int64) (hsize : size < roomLimit) :
    ReadsFrom h s start size where
  current := by
    intro n hposition
    rw [position_of_open hread.isOpen] at hposition
    cases hposition
    rfl
  refused := hread.read_of_startOf_lt hsize
  past := by
    intro n hlength hstart
    obtain ⟨us, hfragments, rfl⟩ := hread.exists_fragments hlength
    exact hread.read_of_lt_startOf hsize hfragments hstart
  binary := by
    intro hkind skip hstart hskip
    refine ⟨_, rfl, hread.read_binary hsize hkind hstart hskip, ?_⟩
    rw [position_behind hread.isOpen, Nat.add_right_comm]
  character := by
    intro hkind text htext skip c hstart hc
    have hrun := longestRun_fitting size (text.toList.drop skip)
    refine ⟨_, hrun, hread.read_character hsize hkind htext hstart hc hrun, ?_⟩
    rw [position_behind hread.isOpen, Nat.add_right_comm]
  whole := fun hvalid _ _ _ => hread.not_notUtf8 hsize hvalid
  invalid := fun hkind _ hfault hstart => hread.read_of_fault hsize hkind hfault hstart

/-- **A read for which no buffer has room** is none of these, wherever it starts. -/
theorem Readable.not_readsFrom (hread : h.Readable) (start : Option Int64)
    (hsize : roomLimit ≤ size) : ¬ ReadsFrom h s start size := by
  intro hfrom
  have hfail := read_of_tooLarge hread.isOpen start hsize s
  cases place h s start with
  | front hstart => cases hfail.symm.trans (hfrom.refused hstart)
  | past us hus hstart =>
    have hlength := hread.length_eq (s := s)
    rw [hus] at hlength
    cases hfail.symm.trans (hfrom.past us.length hlength hstart)
  | byte hkind skip hstart hskip =>
    obtain ⟨b, -, hgiven, -⟩ := hfrom.binary hkind skip hstart hskip
    cases hfail.symm.trans hgiven
  | character hkind text htext skip c hstart hc =>
    obtain ⟨run, -, hgiven, -⟩ := hfrom.character hkind text htext skip c hstart hc
    rw [hfail] at hgiven
    split at hgiven <;> cases hgiven
  | invalid hkind fault hfault hstart =>
    cases hfail.symm.trans (hfrom.invalid hkind fault hfault hstart)

/-- **A read from any position** gives what stands there exactly when a buffer can have the room it
asks for.  Otherwise it fails, and nothing happens to the handle or the server. -/
theorem readsFrom_iff (hread : h.Readable) (start : Option Int64) (size : Nat) :
    (ReadsFrom h s start size ↔ size < roomLimit) ∧
      (roomLimit ≤ size → read start size (h, s) = .error (.roomTooLarge size) (h, s)) := by
  refine ⟨⟨fun hfrom => ?_, hread.readsFrom start⟩, fun hsize =>
    read_of_tooLarge hread.isOpen start hsize s⟩
  exact Nat.lt_of_not_le fun hsize => hread.not_readsFrom start hsize hfrom

/-- From the second character two fit into five bytes, and the third needs more than two. -/
theorem readsFrom_iff_inside :
    let s : Server := { Server.empty with contents := [Utf8.encode "aé€z"] }
    let h := new (Lob.new 0 .character) .character
    h.Readable ∧
      ReadsFrom h s (some 2) 5 ∧ read (some 2) 5 (h, s) = .ok (.text "é€") (h.behind 3, s) ∧
      ReadsFrom h s (some 3) 2 ∧
      read (some 3) 2 (h, s) = .error (.conversion (.readTooSmall 2)) (h.behind 2, s) := by
  intro s h
  have hread : h.Readable := ⟨rfl, rfl, rfl⟩
  have htext : Utf8.decode (s.content h.lob.content) = .ok "aé€z" := Utf8.decode_encode _
  have hsecond : h.startOf (some 2) = (1 : Nat) + 1 := rfl
  have hthird : h.startOf (some 3) = (2 : Nat) + 1 := rfl
  exact ⟨hread, (readsFrom_iff hread (some 2) 5).1.mpr (by decide),
    hread.read_character (by decide) rfl htext hsecond (c := 'é') rfl (longestRun_fitting 5 _),
    (readsFrom_iff hread (some 3) 2).1.mpr (by decide),
    hread.read_character (by decide) rfl htext hthird (c := '€') rfl (longestRun_fitting 2 _)⟩

/-- Three bytes cannot be read with as much room as there are addresses, nor with more. -/
theorem not_readsFrom_largest :
    let s : Server := { Server.empty with contents := [Utf8.encode "abc"] }
    let h := new (Lob.new 0 .binary) .binary
    h.Readable ∧ ¬ ReadsFrom h s none 0x7FFFFFFFFFFFFFFF ∧
      ¬ ReadsFrom h s none 0xFFFFFFFFFFFFFFFF := by
  intro s h
  have hread : h.Readable := ⟨rfl, rfl, rfl⟩
  exact ⟨hread, hread.not_readsFrom none (by decide), hread.not_readsFrom none (by decide)⟩

end LobHandle
end SqlClient
