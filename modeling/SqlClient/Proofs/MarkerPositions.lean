import SqlClient.Marker
import Mathlib

/-! # The markers of a text by their positions

A search goes through a text from left to right, and from a match it goes on behind it.  `Marks`
says without going anywhere which markers a text has: those that open at some position, each once,
in the order of the positions.  A marker opens at a position by what follows there (`Opens`),
whatever stands in front.

That both come to the same is `marks_of_matches`: in a name no marker opens, since neither `:` nor
`?` is a word character, so nothing is lost when the name is left out.  A text has only one list of
marks (`Marks.unique`), and `scan_marks` says what is made of it.
-/
namespace SqlClient.Marker

/-! ## One position -/

/-- **A marker opens here**, in front of the rest of a text: a question mark, or a colon with word
characters after it, all of them up to the first that is none. -/
inductive Opens (isWord : Char → Bool) : Marker → List Char → Prop where
  | positional (rest : List Char) : Opens isWord .positional ('?' :: rest)
  | named (name rest : List Char) (nonempty : name ≠ []) (word : ∀ c ∈ name, isWord c = true)
      (longest : ∀ c ∈ rest.head?, isWord c = false) :
      Opens isWord (.named (String.ofList name)) (':' :: (name ++ rest))

variable {search : Search} {isWord : Char → Bool} {marker marker' : Marker} {c : Char}
  {cs m rest : List Char}

/-- The name is all that there is of word characters. -/
theorem takeWhile_name {name : List Char} (word : ∀ c ∈ name, isWord c = true)
    (longest : ∀ c ∈ rest.head?, isWord c = false) : (name ++ rest).takeWhile isWord = name := by
  rw [List.takeWhile_append_of_pos word]
  cases rest with
  | nil => simp
  | cons c rest =>
    have hc : isWord c = false := longest c rfl
    simp [hc]

/-- Only one marker opens at a position. -/
theorem Opens.unique (h : Opens isWord marker cs) (h' : Opens isWord marker' cs) :
    marker = marker' := by
  cases h with
  | positional rest =>
    cases h'
    rfl
  | named name rest nonempty word longest =>
    generalize hcs : ':' :: (name ++ rest) = cs at h'
    cases h' with
    | positional => cases hcs
    | named name' rest' nonempty' word' longest' =>
      have hname := takeWhile_name word longest
      rw [(List.cons.inj hcs).2, takeWhile_name word' longest'] at hname
      rw [hname]

/-- Where a marker opens a match begins. -/
theorem Opens.exists_isMatch (h : Opens isWord marker cs) : ∃ m, IsMatch isWord m ∧ m <+: cs := by
  cases h with
  | positional rest => exact ⟨['?'], .question, List.prefix_append ['?'] rest⟩
  | named name rest nonempty word =>
    exact ⟨':' :: name, .name name nonempty word, List.prefix_append (':' :: name) rest⟩

/-- Behind a name as long as possible is no word character, which would make it longer. -/
theorem head_of_longest {name : List Char} (word : ∀ c ∈ name, isWord c = true)
    (longest : ∀ m', IsMatch isWord m' → m' <+: ':' :: (name ++ rest) →
      m'.length ≤ (':' :: name).length) : ∀ c ∈ rest.head?, isWord c = false := by
  intro c hc
  by_contra hword
  obtain ⟨rest', rfl⟩ := List.head?_eq_some_iff.mp hc
  have hmatch : IsMatch isWord (':' :: (name ++ [c])) :=
    .name _ (by simp) fun d hd => by
      rcases List.mem_append.mp hd with hd | hd
      · exact word d hd
      · rw [List.mem_singleton.mp hd]
        exact Bool.eq_true_of_not_eq_false hword
  have hle := longest _ hmatch ⟨rest', by simp⟩
  simp at hle

/-- **A match as long as possible opens the marker it stands for.** -/
theorem opens_of_isMatch (h : IsMatch isWord m)
    (longest : ∀ m', IsMatch isWord m' → m' <+: m ++ rest → m'.length ≤ m.length) :
    Opens isWord (ofMatch m) (m ++ rest) := by
  cases h with
  | question => exact .positional rest
  | name name nonempty word => exact .named name rest nonempty word (head_of_longest word longest)

/-- In a match no character but the first is a colon or a question mark. -/
theorem IsMatch.isWord_of_mem_tail (h : IsMatch isWord m) : ∀ c ∈ m.tail, isWord c = true := by
  cases h with
  | question => nofun
  | name name nonempty word => exact word

theorem not_opens_of_isWord (hc : search.isWord c = true) :
    ¬ Opens search.isWord marker (c :: cs) := by
  intro h
  obtain ⟨m, hm, hpre⟩ := h.exists_isMatch
  rcases hm.head hpre with rfl | rfl
  · rw [search.isWord_question] at hc
    cases hc
  · rw [search.isWord_colon] at hc
    cases hc

/-! ## All positions -/

/-- A marker with the position at which it opens. -/
abbrev Mark := Nat × Marker

/-- **The markers of a text**, each with its position: all that open somewhere, from left to
right. -/
structure Marks (isWord : Char → Bool) (cs : List Char) (marks : List Mark) : Prop where
  ascending : marks.Pairwise fun s t => s.1 < t.1
  mem_iff : ∀ i m, (i, m) ∈ marks ↔ Opens isWord m (cs.drop i)

variable {marks marks' : List Mark}

theorem Marks.nodup (h : Marks isWord cs marks) : marks.Nodup := by
  apply h.ascending.imp
  rintro s _ hlt rfl
  exact Nat.lt_irrefl s.1 hlt

/-- **A text has one list of marks.** -/
theorem Marks.unique (h : Marks isWord cs marks) (h' : Marks isWord cs marks') :
    marks = marks' := by
  have hperm : marks.Perm marks' := by
    refine (List.perm_ext_iff_of_nodup h.nodup h'.nodup).mpr ?_
    rintro ⟨i, m⟩
    rw [h.mem_iff, h'.mem_iff]
  exact hperm.eq_of_pairwise
    (fun s t _ _ hst hts => absurd (Nat.lt_trans hst hts) (Nat.lt_irrefl _)) h.ascending
    h'.ascending

/-- The marks of a text that has so many characters in front. -/
def shifted (n : Nat) (marks : List Mark) : List Mark := marks.map fun s => (n + s.1, s.2)

theorem shifted_markers (n : Nat) (marks : List Mark) :
    (shifted n marks).map (·.2) = marks.map (·.2) := by
  simp [shifted, Function.comp_def]

/-- **Marks put together**: those that open in a first part of a text, and those of the rest. -/
theorem Marks.append (h : Marks isWord cs marks) (pre : List Char) {front : List Mark}
    (ascending : front.Pairwise fun s t => s.1 < t.1)
    (mem_iff : ∀ i m, (i, m) ∈ front ↔ i < pre.length ∧ Opens isWord m ((pre ++ cs).drop i)) :
    Marks isWord (pre ++ cs) (front ++ shifted pre.length marks) where
  ascending := by
    refine List.pairwise_append.mpr ⟨ascending, ?_, ?_⟩
    · exact List.pairwise_map.mpr (h.ascending.imp fun hlt => Nat.add_lt_add_left hlt _)
    · rintro ⟨i, m⟩ hfront t ht
      obtain ⟨s, -, rfl⟩ := List.mem_map.mp ht
      exact Nat.lt_add_right _ ((mem_iff i m).mp hfront).1
  mem_iff := by
    intro i m
    rw [List.mem_append, mem_iff]
    -- shifted marks begin where the first part ends, so a position is in one of the two
    by_cases hi : i < pre.length
    · have hnot : (i, m) ∉ shifted pre.length marks := by
        intro hmem
        obtain ⟨s, -, heq⟩ := List.mem_map.mp hmem
        have := congrArg Prod.fst heq
        simp only at this
        omega
      simp [hi, hnot]
    · obtain ⟨j, rfl⟩ := Nat.exists_eq_add_of_le (Nat.le_of_not_lt hi)
      have hmem : (pre.length + j, m) ∈ shifted pre.length marks ↔ (j, m) ∈ marks := by
        simp [shifted]
      rw [hmem, h.mem_iff, ← List.drop_drop, List.drop_left]
      simp

/-- **A match is taken**, and nothing opens in the rest of it. -/
theorem Marks.take (h : Marks search.isWord cs marks) (isMatch : IsMatch search.isWord m)
    (hopens : Opens search.isWord marker (m ++ cs)) :
    Marks search.isWord (m ++ cs) ((0, marker) :: shifted m.length marks) := by
  refine h.append m (List.pairwise_singleton _ (0, marker)) fun i marker' => ?_
  rw [List.mem_singleton, Prod.mk.injEq]
  constructor
  · rintro ⟨rfl, rfl⟩
    exact ⟨List.length_pos_iff.mpr isMatch.ne_nil, hopens⟩
  · rintro ⟨hi, hopens'⟩
    cases i with
    | zero => exact ⟨rfl, hopens'.unique hopens⟩
    | succ i =>
      have hmem : m[i + 1] ∈ m.tail := List.mem_of_getElem? (i := i) (by simp [hi])
      rw [List.drop_append_of_le_length hi.le, List.drop_eq_getElem_cons hi,
        List.cons_append] at hopens'
      exact absurd hopens' (not_opens_of_isWord (isMatch.isWord_of_mem_tail _ hmem))

/-- **What a search finds are the markers of the text**, in the order of their positions. -/
theorem marks_of_matches {ms : List (List Char)} (h : Matches search.isWord cs ms) :
    ∃ marks, Marks search.isWord cs marks ∧ ms.map ofMatch = marks.map (·.2) := by
  induction h with
  | none free =>
    refine ⟨[], ⟨.nil, fun i marker => iff_of_false nofun fun hopens => ?_⟩, rfl⟩
    obtain ⟨m, hm, hpre⟩ := hopens.exists_isMatch
    exact free i m hm hpre
  | next before isMatch leftmost longest _ ih =>
    obtain ⟨marks, hmarks, hfound⟩ := ih
    have htaken := hmarks.take isMatch (opens_of_isMatch isMatch longest)
    refine ⟨_, htaken.append before .nil fun i marker => ?_, ?_⟩
    · refine iff_of_false nofun fun ⟨hi, hopens⟩ => ?_
      obtain ⟨m, hm, hpre⟩ := hopens.exists_isMatch
      exact leftmost i hi m hm hpre
    · rw [List.nil_append, shifted_markers, List.map_cons, List.map_cons, shifted_markers, hfound]

/-! ## What is made of them -/

variable {markers : List Marker} {sql : String} {count : Nat}

/-- All markers are of one form. -/
def OneForm (markers : List Marker) : Prop :=
  (∀ m ∈ markers, m = .positional) ∨ ∀ m ∈ markers, ∃ name, m = .named name

/-- Markers of both forms occur. -/
def BothForms (markers : List Marker) : Prop :=
  .positional ∈ markers ∧ ∃ name, .named name ∈ markers

theorem mixed_iff : mixed markers = true ↔ BothForms markers := by
  have hpositional (m : Marker) : m.name?.isNone = true ↔ m = .positional := by
    cases m <;> simp [name?]
  have hnamed (m : Marker) : m.name?.isSome = true ↔ ∃ name, m = .named name := by
    cases m <;> simp [name?]
  simp only [mixed, Bool.and_eq_true, List.any_eq_true, hpositional, hnamed]
  constructor
  · rintro ⟨⟨_, hmem, name, rfl⟩, ⟨_, hmem', rfl⟩⟩
    exact ⟨hmem', name, hmem⟩
  · rintro ⟨hmem', name, hmem⟩
    exact ⟨⟨_, hmem, name, rfl⟩, ⟨_, hmem', rfl⟩⟩

theorem not_bothForms_iff : ¬ BothForms markers ↔ OneForm markers := by
  constructor
  · intro hnot
    by_cases hpositional : .positional ∈ markers
    · refine .inl fun m hm => ?_
      cases m with
      | positional => rfl
      | named name => exact absurd ⟨hpositional, name, hm⟩ hnot
    · refine .inr fun m hm => ?_
      cases m with
      | positional => exact absurd hm hpositional
      | named name => exact ⟨name, rfl⟩
  · rintro (hall | hall) ⟨hpositional, name, hnamed⟩
    · cases hall _ hnamed
    · obtain ⟨name, heq⟩ := hall _ hpositional
      cases heq

theorem scan_of_bothForms (h : BothForms (find search sql)) (count : Nat) :
    scan search sql count = .error .mixedMarkers := by
  simp [scan, mixed_iff, h]

theorem scan_of_oneForm (h : OneForm (find search sql)) (count : Nat) :
    scan search sql count =
      if count < (find search sql).length then
        .error (.tooManyMarkers (find search sql).length count)
      else if (find search sql).length < count then
        .error (.missingMarkers (find search sql).length count)
      else .ok (find search sql) := by
  simp [scan, mixed_iff, not_bothForms_iff.mpr h]

/-- **Scanning is exact**, for every search.  The markers found are those that open at some position
of the text, in the order of the positions.  They are accepted when all are of one form and as many
as there are parameters; otherwise the error is a mixture of forms before it is a wrong number. -/
theorem scan_marks (search : Search) (sql : String) :
    ∃ marks, Marks search.isWord sql.toList marks ∧
      (∀ marks', Marks search.isWord sql.toList marks' → marks' = marks) ∧
      let found := marks.map (·.2)
      find search sql = found ∧ ∀ count,
        (∀ markers, scan search sql count = .ok markers ↔
          markers = found ∧ OneForm found ∧ found.length = count) ∧
        (scan search sql count = .error .mixedMarkers ↔ BothForms found) ∧
        (∀ n k, scan search sql count = .error (.tooManyMarkers n k) ↔
          OneForm found ∧ count < found.length ∧ n = found.length ∧ k = count) ∧
        ∀ n k, scan search sql count = .error (.missingMarkers n k) ↔
          OneForm found ∧ found.length < count ∧ n = found.length ∧ k = count := by
  obtain ⟨marks, hmarks, hmatches⟩ := marks_of_matches (search.find_matches sql)
  have hfound : find search sql = marks.map (·.2) := by
    rw [← hmatches, List.map_map]
    rfl
  refine ⟨marks, hmarks, fun _ h => h.unique hmarks, hfound, fun count => ?_⟩
  simp only [← hfound]
  by_cases hboth : BothForms (find search sql)
  · have hone : ¬ OneForm (find search sql) := fun h => not_bothForms_iff.mpr h hboth
    simp [scan_of_bothForms hboth, hboth, hone]
  · have hone := not_bothForms_iff.mp hboth
    rw [scan_of_oneForm hone]
    rcases Nat.lt_trichotomy count (find search sql).length with hlt | rfl | hlt
    · simp [hlt, hlt.ne', hlt.not_gt, hboth, hone]
      tauto
    · simp [hboth, hone, eq_comm]
    · simp [hlt, hlt.ne, hlt.not_gt, hboth, hone]
      tauto

/-- In a search with the word characters of Unicode the second colon opens a marker, whose name is
not ASCII, the question mark ends it, and the last colon opens none. -/
theorem scan_marks_unicode :
    let sql := "::größe?:"
    find .unicode sql = [.named "größe", .positional] ∧
      ∀ count, scan .unicode sql count = .error .mixedMarkers := by
  intro sql
  have hfound : find .unicode sql = [.named "größe", .positional] := by decide +kernel
  obtain ⟨marks, -, -, hmarks, hscan⟩ := scan_marks .unicode sql
  refine ⟨hfound, fun count => (hscan count).2.1.mpr ?_⟩
  rw [← hmarks, hfound]
  exact ⟨by decide, "größe", by decide⟩

end SqlClient.Marker
