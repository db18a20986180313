import SqlClient.Proofs.MarkerTemplates
import SqlClient.Proofs.WriteBackAfterBinding

/-! # Parameters made of markers and descriptions

The parameters of a SQL text are made when it is prepared: the markers of the text are paired in
order with what the server describes.  They are made exactly when the scan accepts as many markers
as there are descriptions and every type code is known (`Preparation`); otherwise the error is that
of the scan, or the first code that is not known.

Only the first parameter is asked whether the statement uses names, and a marker that is missing
would count as one without a name.  Since the scan admits markers of one form and of the right
number, all parameters have a name or none has, and this is what is reported (`Described`).  It
decides for good which arguments can be bound (`Parameters.RefusesOtherForm`).
-/
namespace SqlClient

/-! ## Types and names -/

namespace SqlType

/-- The code of some type. -/
def Known (code : Int) : Prop := ∃ t : SqlType, (t.code : Int) = code

theorem ofCode?_eq_some_iff {code : Int} {t : SqlType} :
    ofCode? code = some t ↔ (t.code : Int) = code := by
  constructor
  · intro h
    cases code with
    | negSucc n => cases h
    | ofNat n =>
      obtain ⟨hn, rfl⟩ := List.getElem?_eq_some_iff.mp h
      have hnodup : all.Nodup := by decide
      exact congrArg Int.ofNat (hnodup.idxOf_getElem n hn)
  · rintro rfl
    exact ofCode?_code t

theorem ofCode?_eq_none_iff {code : Int} : ofCode? code = none ↔ ¬Known code := by
  rw [Option.eq_none_iff_forall_ne_some]
  simp only [Known, ne_eq, ofCode?_eq_some_iff, not_exists]

end SqlType

/-- **A name calls a marker** if it is that of the marker, with or without a colon in front, and
whatever the case of ASCII letters. -/
def Calls (name own : String) : Prop :=
  Text.folded name = Text.folded own ∨ Text.folded name = ':' :: Text.folded own

/-- No other character is a colon in another case. -/
theorem toLower_eq_colon_iff {c : Char} : c.toLower = ':' ↔ c = ':' := by
  constructor
  · intro h
    rw [Char.toLower] at h
    split at h
    case isFalse => exact h
    case isTrue hupper =>
      have hval : c.val + 32 = 58 := congrArg Char.val h
      have hlow : (65 : UInt32) ≤ c.val := hupper.1
      grind
  · rintro rfl
    rfl

theorem colon_notMem_folded {own : String} (hown : ':' ∉ own.toList) : ':' ∉ Text.folded own := by
  intro hmem
  obtain ⟨c, hc, hcolon⟩ := List.mem_map.mp hmem
  exact hown (toLower_eq_colon_iff.mp hcolon ▸ hc)

/-- The colon that is left out in front of a name is none of the marker. -/
theorem key_eq_iff {name own : String} (hown : ':' ∉ own.toList) :
    Arguments.key name = Text.folded own ↔ Calls name own := by
  have hcolon := colon_notMem_folded hown
  rw [Arguments.key, Parameter.withoutColon, Calls]
  split
  · rename_i rest hname
    have hfolded : Text.folded name = ':' :: Text.folded (String.ofList rest) := by
      simp [Text.folded, hname]
    rw [hfolded, List.cons_inj_right]
    refine ⟨.inr, fun h => h.resolve_left fun heq => ?_⟩
    rw [← heq] at hcolon
    exact hcolon List.mem_cons_self
  · rename_i hname
    refine ⟨.inl, fun h => h.resolve_right fun heq => ?_⟩
    -- only a name with a colon in front begins with one
    cases hchars : name.toList with
    | nil =>
      rw [Text.folded, hchars] at heq
      cases heq
    | cons c rest =>
      rw [Text.folded, hchars, List.map_cons, List.cons.injEq, toLower_eq_colon_iff] at heq
      exact hname rest (by rw [hchars, heq.1])

namespace Marker

/-- The names of the markers of a text are non-empty, and have no colon. -/
theorem name_of_find {search : Search} {sql name : String}
    (h : .named name ∈ find search sql) : name ≠ "" ∧ ':' ∉ name.toList := by
  obtain ⟨t, rfl⟩ := exists_template search sql
  rw [find_text] at h
  obtain ⟨piece, -, hpiece⟩ := List.mem_map.mp h
  obtain ⟨hnonempty, hword⟩ := piece.name name (by rw [hpiece]; rfl)
  refine ⟨hnonempty, fun hcolon => ?_⟩
  have hisWord := hword ':' hcolon
  rw [search.isWord_colon] at hisWord
  cases hisWord

theorem oneForm_of_scan {search : Search} {sql : String} {count : Nat} {markers : List Marker}
    (h : scan search sql count = .ok markers) : OneForm markers := by
  obtain ⟨rfl, -⟩ := Parameters.scan_eq_ok h
  refine not_bothForms_iff.mp fun hboth => ?_
  rw [scan_of_bothForms hboth] at h
  cases h

end Marker

/-! ## One parameter -/

/-- **A parameter has what the server describes**, and the name of its marker. -/
structure Parameter.Describes (p : Parameter) (d : ParameterDescription) (m : Marker) : Prop where
  name : p.name = m.name?
  sqlType : (p.sqlType.code : Int) = d.typeCode
  length : p.length = d.length
  precision : p.precision = d.precision
  scale : p.scale = d.scale
  byteLength : p.byteLength = d.byteLength
  mode : p.binding.mode = d.mode
  host : p.binding.host = HostType.resolve p.sqlType d.precision d.scale
  buffer : p.binding.buffer = .forHost p.binding.host d.length d.byteLength

theorem Parameter.describes_of_ofDescription {p : Parameter} {d : ParameterDescription}
    {m : Marker} (h : ofDescription d (some m) = .ok p) : p.Describes d m := by
  unfold ofDescription at h
  split at h
  · cases h
  · rename_i sqlType hcode
    cases h
    exact ⟨rfl, SqlType.ofCode?_eq_some_iff.mp hcode, rfl, rfl, rfl, rfl, rfl, rfl, rfl⟩

theorem Parameter.exists_of_known {d : ParameterDescription} (h : SqlType.Known d.typeCode)
    (m : Marker) : ∃ p, ofDescription d (some m) = .ok p := by
  obtain ⟨sqlType, hcode⟩ := h
  rw [ofDescription, SqlType.ofCode?_eq_some_iff.mpr hcode]
  exact ⟨_, rfl⟩

theorem Parameter.ofDescription_of_unknown {d : ParameterDescription}
    (h : ¬SqlType.Known d.typeCode) (m : Marker) :
    ofDescription d (some m) = .error (.unsupportedType d.typeCode) := by
  rw [ofDescription, SqlType.ofCode?_eq_none_iff.mpr h]

namespace Parameters

variable {search : Marker.Search} {sql : String} {ds : List ParameterDescription}
  {markers : List Marker} {ps qs : Parameters}

/-! ## All parameters -/

/-- **The parameters agree with markers and descriptions.** -/
structure Described (markers : List Marker) (ds : List ParameterDescription) (ps : Parameters) :
    Prop where
  size : ps.size = ds.length
  /-- Each parameter has its own description and marker. -/
  describes : ∀ i p, ps.get? i = some p →
    ∃ d m, ds[i]? = some d ∧ markers[i]? = some m ∧ p.Describes d m
  /-- All have a name, or none has. -/
  oneForm : (∀ p ∈ ps.items, p.name = none) ∨ ∀ p ∈ ps.items, ∃ name, p.name = some name
  /-- The statement uses names exactly if there are parameters and they have them. -/
  named_iff : ps.named = true ↔ ps.items ≠ [] ∧ ∀ p ∈ ps.items, ∃ name, p.name = some name
  names : ∀ p ∈ ps.items, ∀ name, p.name = some name → name ≠ "" ∧ ':' ∉ name.toList
  /-- A name finds the first parameter whose marker it calls. -/
  finds_iff : ∀ name i, ps.indexOf? name = some i ↔
    (∃ own, markers[i]? = some (.named own) ∧ Calls name own) ∧
      ∀ j < i, ∀ own, markers[j]? = some (.named own) → ¬Calls name own

/-- **Arguments of the other form are refused**, in whatever state the parameters are, and change
nothing. -/
structure RefusesOtherForm (ps : Parameters) : Prop where
  /-- Parameters without names refuse every list of named arguments: for its length, or for its
  first name. -/
  byName : ps.items ≠ [] → ps.named = false → ∀ entries,
    (entries.length ≠ ps.size → bind (.named entries) ps =
      .error (.argumentCount ps.size entries.length false) ps) ∧
    (entries.length = ps.size → ∃ name v rest, entries = (name, v) :: rest ∧
      bind (.named entries) ps = .error (.parameterNotFound name) ps)
  /-- Parameters with names refuse as many arguments without names. -/
  byPosition : ps.named = true → ∀ values, values.length = ps.size →
    bind (.positional values) ps = .error .namedArgumentsRequired ps

/-- **What becomes of a SQL text** with the descriptions of the server. -/
structure Preparation (search : Marker.Search) (sql : String) (ds : List ParameterDescription) :
    Prop where
  succeeds_iff : (∃ ps, ofDescriptions search sql ds = .ok ps) ↔
    (∃ markers, Marker.scan search sql ds.length = .ok markers) ∧ ∀ d ∈ ds, SqlType.Known d.typeCode
  /-- A text that the scan refuses is refused for that, whatever the types. -/
  refused : ∀ e, Marker.scan search sql ds.length = .error e →
    ofDescriptions search sql ds = .error e
  /-- Of several codes that are not known the first is the error. -/
  unknown : ∀ markers before d after, Marker.scan search sql ds.length = .ok markers →
    ds = before ++ d :: after → (∀ b ∈ before, SqlType.Known b.typeCode) →
      ¬SqlType.Known d.typeCode →
        ofDescriptions search sql ds = .error (.unsupportedType d.typeCode)
  described : ∀ ps, ofDescriptions search sql ds = .ok ps →
    ∃ markers, Marker.scan search sql ds.length = .ok markers ∧ Described markers ds ps
  refusesOtherForm : ∀ ps, ofDescriptions search sql ds = .ok ps → ∀ calls,
    RefusesOtherForm (ps.afterAll calls)

theorem ofDescriptions_of_scan (hscan : Marker.scan search sql ds.length = .ok markers) :
    ofDescriptions search sql ds =
      ((ds.zip markers).mapM fun pair => Parameter.ofDescription pair.1 (some pair.2)).map
        fun items : List Parameter =>
          { items, named := items.head?.any fun p : Parameter => p.name.isSome, slots := [] } := by
  simp only [ofDescriptions, hscan, Bind.bind, Except.bind]
  cases (ds.zip markers).mapM fun pair => Parameter.ofDescription pair.1 (some pair.2) <;> rfl

theorem ofDescriptions_of_scan_error {e : Error}
    (hscan : Marker.scan search sql ds.length = .error e) :
    ofDescriptions search sql ds = .error e := by
  simp only [ofDescriptions, hscan, Bind.bind, Except.bind]

/-- Descriptions of known types make parameters, whatever the markers. -/
theorem exists_of_known (hscan : Marker.scan search sql ds.length = .ok markers)
    (hknown : ∀ d ∈ ds, SqlType.Known d.typeCode) :
    ∃ ps, ofDescriptions search sql ds = .ok ps := by
  have hall : ∀ pair ∈ ds.zip markers,
      ∃ p, Parameter.ofDescription pair.1 (some pair.2) = .ok p := fun (d, m) hmem =>
    Parameter.exists_of_known (hknown d (List.of_mem_zip hmem).1) m
  obtain ⟨items, hitems⟩ := exists_mapM_eq_ok hall
  rw [ofDescriptions_of_scan hscan, hitems]
  exact ⟨_, rfl⟩

/-- The first description of an unknown type is the error. -/
theorem ofDescriptions_of_unknown {before after : List ParameterDescription}
    {d : ParameterDescription}
    (hscan : Marker.scan search sql (before ++ d :: after).length = .ok markers)
    (hknown : ∀ b ∈ before, SqlType.Known b.typeCode) (hunknown : ¬SqlType.Known d.typeCode) :
    ofDescriptions search sql (before ++ d :: after) = .error (.unsupportedType d.typeCode) := by
  have hlen := (scan_eq_ok hscan).2
  have hlt : before.length < markers.length := by
    rw [hlen, List.length_append, List.length_cons]
    omega
  have hsplit : (before ++ d :: after).zip markers =
      before.zip (markers.take before.length) ++
        (d, markers[before.length]) :: after.zip (markers.drop (before.length + 1)) := by
    conv_lhs => rw [← List.take_append_drop before.length markers,
      List.drop_eq_getElem_cons hlt]
    rw [List.zip_append (by rw [List.length_take, min_eq_left hlt.le]), List.zip_cons_cons]
  have hbefore : ∀ pair ∈ before.zip (markers.take before.length),
      ∃ p, Parameter.ofDescription pair.1 (some pair.2) = .ok p := fun (b, m) hmem =>
    Parameter.exists_of_known (hknown b (List.of_mem_zip hmem).1) m
  rw [ofDescriptions_of_scan hscan, hsplit,
    mapM_append_error hbefore (Parameter.ofDescription_of_unknown hunknown _)]
  rfl

/-- **Markers and descriptions are paired in order.** -/
theorem describes_of_ofDescriptions (h : ofDescriptions search sql ds = .ok ps)
    (hscan : Marker.scan search sql ds.length = .ok markers) :
    ps.size = ds.length ∧ ps.named = ps.items.head?.any (·.name.isSome) ∧
      ∀ (i : Nat) (p : Parameter), ps.items[i]? = some p →
        ∃ d m, ds[i]? = some d ∧ markers[i]? = some m ∧ p.Describes d m := by
  rw [ofDescriptions_of_scan hscan] at h
  obtain ⟨items, hitems, rfl⟩ := map_eq_ok h
  have hall := mapM_eq_ok_iff.mp hitems
  refine ⟨?_, rfl, fun i p hp => ?_⟩
  · rw [size, ← hall.length_eq, List.length_zip, (scan_eq_ok hscan).2, min_self]
  · obtain ⟨⟨d, m⟩, hpair, hmade⟩ := getElem?_of_forall₂ hall.flip hp
    obtain ⟨hd, hm⟩ := List.getElem?_zip_eq_some.mp hpair
    exact ⟨d, m, hd, hm, Parameter.describes_of_ofDescription hmade⟩

/-- A parameter answers to the names that call its marker. -/
theorem answersTo_iff_calls {p : Parameter} {m : Marker} (hname : p.name = m.name?)
    (hm : m ∈ Marker.find search sql) {name : String} :
    p.answersTo name = true ↔ ∃ own, m = .named own ∧ Calls name own := by
  rw [Parameter.answersTo_iff, Parameter.key?, hname]
  cases m with
  | positional => simp [Marker.name?]
  | named own =>
    rw [Marker.name?, Option.map_some, Option.some.injEq, eq_comm,
      key_eq_iff (Marker.name_of_find hm).2]
    simp

theorem described_of_ofDescriptions (h : ofDescriptions search sql ds = .ok ps)
    (hscan : Marker.scan search sql ds.length = .ok markers) : Described markers ds ps := by
  obtain ⟨hsize, hnamed, hdescribes⟩ := describes_of_ofDescriptions h hscan
  obtain ⟨hmarkers, hlen⟩ := scan_eq_ok hscan
  have hmarker (p : Parameter) (hp : p ∈ ps.items) : ∃ m ∈ markers, p.name = m.name? := by
    obtain ⟨i, hi⟩ := List.mem_iff_getElem?.mp hp
    obtain ⟨d, m, -, hm, hmade⟩ := hdescribes i p hi
    exact ⟨m, List.mem_of_getElem? hm, hmade.name⟩
  have hform : (∀ p ∈ ps.items, p.name = none) ∨
      ∀ p ∈ ps.items, ∃ name, p.name = some name := by
    rcases Marker.oneForm_of_scan hscan with hall | hall
    · refine .inl fun p hp => ?_
      obtain ⟨m, hm, hname⟩ := hmarker p hp
      rw [hname, hall m hm]
      rfl
    · refine .inr fun p hp => ?_
      obtain ⟨m, hm, hname⟩ := hmarker p hp
      obtain ⟨name, rfl⟩ := hall m hm
      exact ⟨name, hname⟩
  have hanswers {name : String} {i : Nat} {p : Parameter} (hp : ps.items[i]? = some p) :
      p.answersTo name = true ↔ ∃ own, markers[i]? = some (.named own) ∧ Calls name own := by
    obtain ⟨d, m, -, hm, hmade⟩ := hdescribes i p hp
    rw [answersTo_iff_calls hmade.name (hmarkers ▸ List.mem_of_getElem? hm), hm]
    simp only [Option.some.injEq]
  refine ⟨hsize, hdescribes, hform, ?_, fun p hp name hname => ?_, fun name i => ?_⟩
  · -- the first parameter speaks for all of them
    rw [hnamed]
    cases hitems : ps.items with
    | nil => simp
    | cons p rest =>
      rw [hitems] at hform
      rw [List.head?_cons, Option.any_some, Option.isSome_iff_exists]
      refine ⟨fun hsome => ⟨nofun, hform.resolve_left fun hnone => ?_⟩, fun hall =>
        hall.2 p List.mem_cons_self⟩
      obtain ⟨name, hname⟩ := hsome
      cases hname.symm.trans (hnone p List.mem_cons_self)
  · obtain ⟨m, hm, hown⟩ := hmarker p hp
    cases m with
    | positional => cases hname.symm.trans hown
    | named own =>
      cases hname.symm.trans hown
      exact Marker.name_of_find (hmarkers ▸ hm)
  · rw [indexOf?, List.findIdx?_eq_some_iff_getElem]
    constructor
    · rintro ⟨hi, hfound, hfirst⟩
      refine ⟨(hanswers (List.getElem?_eq_getElem hi)).mp hfound, fun j hj own hm hcalls => ?_⟩
      have hjlt : j < ps.items.length := hj.trans hi
      exact hfirst j hj ((hanswers (List.getElem?_eq_getElem hjlt)).mpr ⟨own, hm, hcalls⟩)
    · rintro ⟨⟨own, hm, hcalls⟩, hfirst⟩
      have hi : i < ps.items.length := by
        have hlt := (List.getElem?_eq_some_iff.mp hm).1
        rwa [hlen, ← hsize] at hlt
      refine ⟨hi, (hanswers (List.getElem?_eq_getElem hi)).mpr ⟨own, hm, hcalls⟩,
        fun j hj hearlier => ?_⟩
      obtain ⟨own', hm', hcalls'⟩ :=
        (hanswers (List.getElem?_eq_getElem (hj.trans hi))).mp hearlier
      exact hfirst j hj own' hm' hcalls'

/-! ## Arguments of the other form -/

/-- Parameters without names answer to no name. -/
theorem slotsByName_of_nameless {items : List Parameter}
    (hnone : ∀ p ∈ items, p.name = none) (name : String) (names : List String) :
    slotsByName items (name :: names) = .error (.parameterNotFound name) := by
  have hseat : seat name 0 (items.map fun p => (p, none)) = none := by
    refine seat_eq_none_iff.mpr fun s hs hfree => ?_
    obtain ⟨p, hp, rfl⟩ := List.mem_map.mp hs
    have hanswers : p.answersTo name = true := hfree.2
    rw [Parameter.answersTo, hnone p hp] at hanswers
    cases hanswers
  rw [slotsByName, seatAll, hseat]
  rfl

theorem refusesOtherForm_of_nameless
    (hnone : ps.named = false → ∀ p ∈ ps.items, p.name = none) : RefusesOtherForm ps where
  byName hitems hnamed entries := by
    have hsize : (Arguments.named entries).size = entries.length := List.length_map _
    constructor
    · intro hne
      rw [bind, slotsFor_of_ne_size (hsize ▸ hne), hsize, hnamed]
    · intro heq
      cases entries with
      | nil => exact absurd (List.length_eq_zero_iff.mp heq.symm) hitems
      | cons entry rest =>
        refine ⟨entry.1, entry.2, rest, rfl, ?_⟩
        rw [bind, slotsFor_named heq, List.map_cons, slotsByName_of_nameless (hnone hnamed)]
  byPosition hnamed values hsize := by
    have heq : (Arguments.positional values).size = ps.size := hsize
    have hslots : ps.slotsFor (.positional values) = .error .namedArgumentsRequired := by
      rw [slotsFor, if_neg (not_not.mpr heq)]
      exact if_pos hnamed
    rw [bind, hslots]

theorem Described.nameless (h : Described markers ds ps) (hnamed : ps.named = false) :
    ∀ p ∈ ps.items, p.name = none := by
  rcases h.oneForm with hnone | hall
  · exact hnone
  · intro p hp
    rw [h.named_iff.mpr ⟨List.ne_nil_of_mem hp, hall⟩] at hnamed
    cases hnamed

/-- **The parameters of a SQL text agree with its markers and descriptions**, whenever there are
any, and otherwise the error says why there are none. -/
theorem preparation_ofDescriptions (search : Marker.Search) (sql : String)
    (ds : List ParameterDescription) : Preparation search sql ds where
  succeeds_iff := by
    constructor
    · rintro ⟨ps, h⟩
      obtain ⟨markers, hscan, -⟩ := bind_eq_ok h
      obtain ⟨hsize, -, hdescribes⟩ := describes_of_ofDescriptions h hscan
      refine ⟨⟨markers, hscan⟩, fun d hd => ?_⟩
      obtain ⟨i, hi, rfl⟩ := List.mem_iff_getElem.mp hd
      have hlt : i < ps.items.length := hi.trans_eq hsize.symm
      obtain ⟨d, m, hd, -, hmade⟩ := hdescribes i _ (List.getElem?_eq_getElem hlt)
      rw [List.getElem?_eq_getElem hi, Option.some.injEq] at hd
      exact ⟨_, hd ▸ hmade.sqlType⟩
    · rintro ⟨⟨markers, hscan⟩, hknown⟩
      exact exists_of_known hscan hknown
  refused _ hscan := ofDescriptions_of_scan_error hscan
  unknown := by
    rintro markers before d after hscan rfl hknown hunknown
    exact ofDescriptions_of_unknown hscan hknown hunknown
  described ps h := by
    obtain ⟨markers, hscan, -⟩ := bind_eq_ok h
    exact ⟨markers, hscan, described_of_ofDescriptions h hscan⟩
  refusesOtherForm ps h calls := by
    obtain ⟨markers, hscan, -⟩ := bind_eq_ok h
    have hdescribed := described_of_ofDescriptions h hscan
    have hshape := (ps.slots_afterAll calls).1
    refine refusesOtherForm_of_nameless fun hnamed p hp => ?_
    have hname : p.name ∈ (ps.afterAll calls).items.map (·.name) := List.mem_map_of_mem hp
    rw [hshape.names] at hname
    obtain ⟨q, hq, hpq⟩ := List.mem_map.mp hname
    rw [← hpq]
    exact hdescribed.nameless (hshape.named ▸ hnamed) q hq

end Parameters
end SqlClient
