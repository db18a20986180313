import Mathlib
import SqlClient.Row

/-! # The views of a row

A row is read by position, by label, or as a map.  By label the first column counts and the case of
letters does not (`Row.IsFirst`); in a map the label is exact, and the last column counts
(`Row.IsLast`).  A row may have more values than columns, or fewer: a column without a value can be
found by its label, but the map has no entry for it.

What a map holds is said by looking things up.  An entry that is put into it changes one answer
(`lookup_insertEntry`), so the map made of a list of pairs answers as the list does when it is read
from its end (`lookup_labelled`), and by its index the last pair with a label is the one that
answers (`lookup_reverse_eq_some_iff`).
-/
namespace SqlClient.Row

section Maps

variable {α β : Type} {label l : String} {map pairs : List (String × α)} {a : α}

/-! ## Looking up -/

theorem lookup_cons (l' l : String) (a : α) (map : List (String × α)) :
    ((l', a) :: map).lookup l = if l = l' then some a else map.lookup l := by
  by_cases hl : l = l'
  · rw [if_pos hl, hl, List.lookup_cons_self]
  · rw [if_neg hl, List.lookup_cons, beq_false_of_ne hl]

/-- An entry changes what is found under its own label. -/
theorem lookup_insertEntry (label l : String) (a : α) (map : List (String × α)) :
    (insertEntry label a map).lookup l = if l = label then some a else map.lookup l := by
  induction map with
  | nil => rw [insertEntry, lookup_cons]
  | cons entry rest ih =>
    obtain ⟨l', b⟩ := entry
    rw [insertEntry]
    split
    · rw [lookup_cons]
    split
    · rename_i heq
      subst heq
      simp only [lookup_cons]
      split <;> rfl
    · rename_i hne
      rw [lookup_cons, lookup_cons, ih]
      by_cases hl : l = l'
      · rw [if_pos hl, if_pos hl, if_neg fun hlabel => hne (hlabel.symm.trans hl)]
      · rw [if_neg hl, if_neg hl]

theorem labelled_eq_foldl (pairs : List (String × α)) :
    labelled pairs = pairs.foldl (fun map pair => insertEntry pair.1 pair.2 map) [] := rfl

/-- **Of several pairs with one label the last counts.** -/
theorem lookup_labelled (pairs : List (String × α)) (l : String) :
    (labelled pairs).lookup l = pairs.reverse.lookup l := by
  have hfold (map : List (String × α)) :
      (pairs.foldl (fun map pair => insertEntry pair.1 pair.2 map) map).lookup l =
        (pairs.reverse.lookup l).or (map.lookup l) := by
    induction pairs generalizing map with
    | nil => rfl
    | cons pair rest ih =>
      obtain ⟨label, a⟩ := pair
      rw [List.foldl_cons, ih, lookup_insertEntry, List.reverse_cons, List.lookup_append,
        Option.or_assoc, lookup_cons, List.lookup_nil]
      by_cases hl : l = label
      · rw [if_pos hl, if_pos hl, Option.some_or]
      · rw [if_neg hl, if_neg hl, Option.none_or]
  rw [labelled_eq_foldl, hfold, List.lookup_nil, Option.or_none]

/-- The last pair with a label, by its index. -/
theorem lookup_reverse_eq_some_iff : pairs.reverse.lookup l = some a ↔
    ∃ i : Nat, pairs[i]? = some (l, a) ∧ ∀ j, i < j → ∀ b, pairs[j]? ≠ some (l, b) := by
  rw [List.lookup_eq_some_iff]
  constructor
  · rintro ⟨after, before, heq, hafter⟩
    obtain rfl : pairs = before.reverse ++ (l, a) :: after.reverse := by
      rw [List.reverse_eq_iff.mp heq]
      simp
    refine ⟨before.reverse.length, by simp, fun j hj b hb => ?_⟩
    rw [List.getElem?_append_right hj.le, List.getElem?_cons, if_neg (by omega)] at hb
    have hmem := List.mem_reverse.mp (List.mem_of_getElem? hb)
    simpa using hafter _ hmem
  · rintro ⟨i, hi, hlast⟩
    obtain ⟨hlt, hget⟩ := List.getElem?_eq_some_iff.mp hi
    refine ⟨(pairs.drop (i + 1)).reverse, (pairs.take i).reverse, ?_, ?_⟩
    · conv_lhs => rw [← List.take_append_drop i pairs, List.drop_eq_getElem_cons hlt, hget]
      simp
    · rintro ⟨l', b⟩ hmem
      obtain ⟨k, hk⟩ := List.mem_iff_getElem?.mp (List.mem_reverse.mp hmem)
      rw [List.getElem?_drop] at hk
      have hne : l ≠ l' := by
        rintro rfl
        exact hlast (i + 1 + k) (by omega) b hk
      simpa using hne

/-- The keys of a map are what something is found under. -/
theorem mem_keys_iff : l ∈ map.map Prod.fst ↔ ∃ a, map.lookup l = some a := by
  rw [← Option.ne_none_iff_exists', ne_eq, List.lookup_eq_none_iff]
  simp [List.mem_map]

/-- The keys of the map are the labels of the pairs. -/
theorem mem_keys_labelled : l ∈ (labelled pairs).map Prod.fst ↔ l ∈ pairs.map Prod.fst := by
  rw [mem_keys_iff, lookup_labelled, ← mem_keys_iff, List.map_reverse, List.mem_reverse]

/-! ## The order of the keys -/

/-- The labels ascend, so that there is each one once. -/
def Ascending (map : List (String × α)) : Prop := (map.map Prod.fst).Pairwise (· < ·)

theorem mem_keys_insertEntry (h : l ∈ (insertEntry label a map).map Prod.fst) :
    l = label ∨ l ∈ map.map Prod.fst := by
  obtain ⟨b, hb⟩ := mem_keys_iff.mp h
  rw [lookup_insertEntry] at hb
  by_cases hl : l = label
  · exact .inl hl
  · rw [if_neg hl] at hb
    exact .inr (mem_keys_iff.mpr ⟨b, hb⟩)

theorem Ascending.insertEntry (h : Ascending map) (label : String) (a : α) :
    Ascending (insertEntry label a map) := by
  induction map with
  | nil => exact List.pairwise_singleton _ _
  | cons entry rest ih =>
    obtain ⟨l, b⟩ := entry
    obtain ⟨hhead, hrest⟩ := List.pairwise_cons.mp h
    rw [Row.insertEntry]
    split
    · rename_i hlt
      refine List.pairwise_cons.mpr ⟨fun l' hl' => ?_, h⟩
      rcases List.mem_cons.mp hl' with rfl | hl'
      · exact hlt
      · exact hlt.trans (hhead l' hl')
    split
    · rename_i heq
      subst heq
      exact List.pairwise_cons.mpr ⟨hhead, hrest⟩
    · rename_i hnlt hne
      refine List.pairwise_cons.mpr ⟨fun l' hl' => ?_, ih hrest⟩
      rcases mem_keys_insertEntry hl' with rfl | hl'
      · exact lt_of_le_of_ne (not_lt.mp hnlt) (Ne.symm hne)
      · exact hhead l' hl'

theorem ascending_labelled (pairs : List (String × α)) : Ascending (labelled pairs) := by
  have hfold (map : List (String × α)) (h : Ascending map) :
      Ascending (pairs.foldl (fun map pair => insertEntry pair.1 pair.2 map) map) := by
    induction pairs generalizing map with
    | nil => exact h
    | cons pair rest ih => exact ih _ (h.insertEntry pair.1 pair.2)
  exact hfold [] List.Pairwise.nil

/-! ## Other values under the same labels -/

theorem insertEntry_map (f : α → β) (label : String) (a : α) (map : List (String × α)) :
    insertEntry label (f a) (map.map (Prod.map id f)) =
      (insertEntry label a map).map (Prod.map id f) := by
  induction map with
  | nil => rfl
  | cons entry rest ih =>
    obtain ⟨l, b⟩ := entry
    simp only [List.map_cons, Prod.map_apply, id_eq, insertEntry, ih]
    split_ifs <;> rfl

/-- It is the same whether values are changed before or after they are put into a map. -/
theorem labelled_map (f : α → β) (pairs : List (String × α)) :
    labelled (pairs.map (Prod.map id f)) = (labelled pairs).map (Prod.map id f) := by
  have hfold (map : List (String × α)) :
      (pairs.map (Prod.map id f)).foldl (fun map pair => insertEntry pair.1 pair.2 map)
          (map.map (Prod.map id f)) =
        (pairs.foldl (fun map pair => insertEntry pair.1 pair.2 map) map).map (Prod.map id f) := by
    induction pairs generalizing map with
    | nil => rfl
    | cons pair rest ih =>
      have hput := insertEntry_map f pair.1 pair.2 map
      rw [List.map_cons, List.foldl_cons, List.foldl_cons, ← ih]
      simp only [Prod.map_fst, Prod.map_snd, id_eq, hput]
  exact hfold []

theorem lookup_map (f : α → β) (map : List (String × α)) (l : String) :
    (map.map (Prod.map id f)).lookup l = (map.lookup l).map f := by
  induction map with
  | nil => rfl
  | cons entry rest ih =>
    obtain ⟨l', b⟩ := entry
    rw [List.map_cons, Prod.map_apply, id_eq, lookup_cons, lookup_cons, ih]
    split <;> rfl

end Maps

/-! ## Columns with values -/

/-- The number of columns that have a value. -/
def width (row : Row) : Nat := min row.columns.length row.values.length

/-- The last column with a value that has exactly this label. -/
structure IsLast (row : Row) (l : String) (i : Nat) : Prop where
  lt : i < row.width
  label : row.labels[i]? = some l
  last : ∀ j, i < j → j < row.width → row.labels[j]? ≠ some l

/-- The first column, with a value or without, that has this label in any case. -/
structure IsFirst (row : Row) (l : String) (i : Nat) : Prop where
  label : ∃ l', row.labels[i]? = some l' ∧ Text.sameName l' l = true
  first : ∀ j < i, ∀ l', row.labels[j]? = some l' → Text.sameName l' l = false

variable {row : Row} {l name : String} {i : Nat} {v : Value}

theorem lt_width_iff : i < row.width ↔
    (∃ l, row.labels[i]? = some l) ∧ ∃ v, row.values[i]? = some v := by
  have hcolumns : (∃ l, row.labels[i]? = some l) ↔ i < row.columns.length := by
    rw [← Option.isSome_iff_exists, isSome_getElem?, labels, List.length_map]
  have hvalues : (∃ v, row.values[i]? = some v) ↔ i < row.values.length := by
    rw [← Option.isSome_iff_exists, isSome_getElem?]
  rw [hcolumns, hvalues, width, lt_min_iff]

/-! ## The maps -/

/-- **What the map has under a label** is the value of the last column with this label. -/
theorem lookup_toMap_iff : row.toMap.lookup l = some v ↔
    ∃ i, row.IsLast l i ∧ row.values[i]? = some v := by
  rw [toMap, lookup_labelled, lookup_reverse_eq_some_iff]
  simp only [List.getElem?_zip_eq_some, ne_eq, not_and]
  constructor
  · rintro ⟨i, ⟨hl, hv⟩, hlast⟩
    refine ⟨i, ⟨lt_width_iff.mpr ⟨⟨l, hl⟩, v, hv⟩, hl, fun j hij hj hlj => ?_⟩, hv⟩
    obtain ⟨-, u, hu⟩ := lt_width_iff.mp hj
    exact hlast j hij u hlj hu
  · rintro ⟨i, hi, hv⟩
    exact ⟨i, ⟨hi.label, hv⟩, fun j hij u hlj hu =>
      hi.last j hij (lt_width_iff.mpr ⟨⟨l, hlj⟩, u, hu⟩) hlj⟩

/-- Its keys are the labels of the columns with values. -/
theorem mem_keys_toMap : l ∈ row.toMap.map Prod.fst ↔ l ∈ row.labels.take row.width := by
  have hlength : row.labels.length = row.columns.length := List.length_map ..
  rw [toMap, mem_keys_labelled, List.zip_eq_zip_take_min, List.map_fst_zip (by simp), width,
    hlength]

/-- The other map has the same keys, and under each whether the value is NULL. -/
theorem nullMap_eq (row : Row) : row.nullMap = row.toMap.map (Prod.map id Value.isNull) := by
  rw [nullMap, nulls, List.zip_map_right, labelled_map, toMap]

/-! ## By label -/

theorem indexOf?_eq_some_iff : Column.indexOf? row.columns l = some i ↔ row.IsFirst l i := by
  have hlabels : Column.indexOf? row.columns l =
      row.labels.findIdx? fun l' => Text.sameName l' l := by
    rw [labels, List.findIdx?_map]
    rfl
  rw [hlabels, List.findIdx?_eq_some_iff_getElem]
  constructor
  · rintro ⟨hi, hsame, hfirst⟩
    refine ⟨⟨_, List.getElem?_eq_getElem hi, hsame⟩, fun j hj l' hl' => ?_⟩
    obtain ⟨-, rfl⟩ := List.getElem?_eq_some_iff.mp hl'
    simpa using hfirst j hj
  · rintro ⟨⟨l', hl', hsame⟩, hfirst⟩
    obtain ⟨hi, rfl⟩ := List.getElem?_eq_some_iff.mp hl'
    refine ⟨hi, hsame, fun j hj => ?_⟩
    simpa using hfirst j hj _ (List.getElem?_eq_getElem (hj.trans hi))

theorem IsFirst.find? (h : row.IsFirst l i) : row.find? l = row.values[i]? := by
  rw [Row.find?, indexOf?_eq_some_iff.mpr h]
  rfl

/-- A label that no column has. -/
theorem find?_eq_none (h : ∀ l' ∈ row.labels, Text.sameName l' l = false) :
    row.find? l = none := by
  have hindex : Column.indexOf? row.columns l = none := by
    rw [Column.indexOf?, List.findIdx?_eq_none_iff]
    exact fun c hc => h c.label (List.mem_map_of_mem hc)
  rw [Row.find?, hindex]
  rfl

/-! ## Labels that are different in any case -/

/-- The labels of the columns with values are pairwise different, also in other cases. -/
def Distinct (row : Row) : Prop :=
  (row.labels.take row.width).Pairwise fun a b => Text.sameName a b = false

theorem Distinct.eq (h : row.Distinct) {j : Nat} {l' : String} (hi : i < row.width)
    (hj : j < row.width) (hl : row.labels[i]? = some l) (hl' : row.labels[j]? = some l')
    (hsame : Text.sameName l l' = true) : i = j := by
  have htake {k : Nat} {m : String} (hk : k < row.width) (hm : row.labels[k]? = some m) :
      (row.labels.take row.width)[k]? = some m := by
    rw [List.getElem?_take, if_pos hk, hm]
  obtain ⟨hi', hgeti⟩ := List.getElem?_eq_some_iff.mp (htake hi hl)
  obtain ⟨hj', hgetj⟩ := List.getElem?_eq_some_iff.mp (htake hj hl')
  have hpairwise := List.pairwise_iff_getElem.mp h
  rcases Nat.lt_trichotomy i j with hlt | heq | hgt
  · have hdiffer := hpairwise i j hi' hj' hlt
    rw [hgeti, hgetj, hsame] at hdiffer
    cases hdiffer
  · exact heq
  · have hdiffer := hpairwise j i hj' hi' hgt
    rw [hgeti, hgetj, Text.sameName_comm, hsame] at hdiffer
    cases hdiffer

/-- Names that are the same as a third are the same. -/
theorem sameName_of_sameName {a b : String} (ha : Text.sameName a name = true)
    (hb : Text.sameName b name = true) : Text.sameName a b = true := by
  rw [Text.sameName_iff] at ha hb ⊢
  exact ha.trans hb.symm

/-- **A column whose label is like no other** is first and last under it, in any case. -/
theorem Distinct.isFirst (h : row.Distinct) (hi : i < row.width) (hl : row.labels[i]? = some l)
    (hname : Text.sameName l name = true) : row.IsFirst name i := by
  refine ⟨⟨l, hl, hname⟩, fun j hj l' hl' => ?_⟩
  by_contra hsame
  rw [Bool.not_eq_false] at hsame
  have heq := h.eq (hj.trans hi) hi hl' hl (sameName_of_sameName hsame hname)
  omega

theorem Distinct.isLast (h : row.Distinct) (hi : i < row.width) (hl : row.labels[i]? = some l) :
    row.IsLast l i := by
  refine ⟨hi, hl, fun j hij hj hlj => ?_⟩
  have heq := h.eq hi hj hl hlj (Text.sameName_refl l)
  omega

/-- So all views give the same value, and the map has it under no other casing. -/
theorem Distinct.lookup_toMap (h : row.Distinct) (hi : i < row.width)
    (hl : row.labels[i]? = some l) (hv : row.values[i]? = some v) {l' : String}
    (hsame : Text.sameName l l' = true) (w : Value) :
    row.toMap.lookup l' = some w ↔ l' = l ∧ w = v := by
  constructor
  · intro hw
    obtain ⟨j, hj, hwj⟩ := lookup_toMap_iff.mp hw
    obtain rfl := h.eq hi hj.lt hl hj.label hsame
    exact ⟨Option.some.inj (hj.label.symm.trans hl), Option.some.inj (hwj.symm.trans hv)⟩
  · rintro ⟨rfl, rfl⟩
    exact lookup_toMap_iff.mpr ⟨i, h.isLast hi hl, hv⟩

/-! ## All views -/

/-- **How the views of a row agree.** -/
structure ViewsAgree (row : Row) : Prop where
  /-- A map has each key once. -/
  nodup : (row.toMap.map Prod.fst).Nodup
  keys : ∀ l, l ∈ row.toMap.map Prod.fst ↔ l ∈ row.labels.take row.width
  nullKeys : row.nullMap.map Prod.fst = row.toMap.map Prod.fst
  /-- Under each key there is what the last column with this label has. -/
  last : ∀ l ∈ row.toMap.map Prod.fst, ∃ i v, row.IsLast l i ∧
    row.get? i = some v ∧ row.nulls[i]? = some v.isNull ∧
    row.toMap.lookup l = some v ∧ row.nullMap.lookup l = some v.isNull
  /-- By label the first column counts, even if it has no value. -/
  first : ∀ l i, row.IsFirst l i → row.find? l = row.get? i
  missing : ∀ l, (∀ l' ∈ row.labels, Text.sameName l' l = false) → row.find? l = none
  /-- Where no two labels are the same in any case, a value is found under every casing of its
  label.  One of these casings is the key of the map. -/
  casing : row.Distinct → ∀ i < row.width, ∀ l, row.labels[i]? = some l → ∃ v,
    row.get? i = some v ∧ ∀ name, Text.sameName l name = true →
      row.find? name = some v ∧ ∀ w, row.toMap.lookup name = some w ↔ name = l ∧ w = v

/-- **The views of every row agree**, whatever its labels, and whether it has as many values as
columns or not. -/
theorem viewsAgree (row : Row) : row.ViewsAgree where
  nodup := (ascending_labelled _).imp ne_of_lt
  keys := fun _ => mem_keys_toMap
  nullKeys := by
    rw [nullMap_eq, List.map_map]
    rfl
  last := by
    intro l hl
    obtain ⟨v, hv⟩ := mem_keys_iff.mp hl
    obtain ⟨i, hi, hvi⟩ := lookup_toMap_iff.mp hv
    refine ⟨i, v, hi, hvi, ?_, hv, ?_⟩
    · rw [nulls, List.getElem?_map, hvi, Option.map_some]
    · rw [nullMap_eq, lookup_map, hv, Option.map_some]
  first := fun _ _ h => h.find?
  missing := fun _ h => find?_eq_none h
  casing := by
    intro hdistinct i hi l hl
    obtain ⟨-, v, hv⟩ := lt_width_iff.mp hi
    refine ⟨v, hv, fun name hname => ⟨?_, fun w => ?_⟩⟩
    · rw [(hdistinct.isFirst hi hl hname).find?, hv]
    · exact hdistinct.lookup_toMap hi hl hv hname w

end SqlClient.Row
