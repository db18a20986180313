import SqlClient.Text.WordChar

/-!
# The search for markers

A marker begins with a colon and goes on with word characters, or it is a question mark.  The text
is searched for this pattern from left to right: a match takes as much as it can, and the search
goes on behind it (`Matches`).

What a word character is and how the search is made is left to a `Search`.  All that is asked of it
is that it finds these matches, and that neither `:` nor `?` is a word character.  `findIn` is one
such search.
-/

namespace SqlClient.Marker

/-- **A text that the pattern matches**: a question mark, or a colon and a name. -/
inductive IsMatch (isWord : Char → Bool) : List Char → Prop where
  | question : IsMatch isWord ['?']
  | name (name : List Char) (nonempty : name ≠ []) (word : ∀ c ∈ name, isWord c = true) :
      IsMatch isWord (':' :: name)

/-- **The matches in a text**, leftmost first, each as long as possible, and none within another. -/
inductive Matches (isWord : Char → Bool) : List Char → List (List Char) → Prop where
  | none {cs : List Char} (free : ∀ i m, IsMatch isWord m → ¬ m <+: cs.drop i) :
      Matches isWord cs []
  | next (before : List Char) {m rest : List Char} {ms : List (List Char)}
      (isMatch : IsMatch isWord m)
      (leftmost : ∀ i < before.length, ∀ m', IsMatch isWord m' →
        ¬ m' <+: (before ++ (m ++ rest)).drop i)
      (longest : ∀ m', IsMatch isWord m' → m' <+: m ++ rest → m'.length ≤ m.length)
      (others : Matches isWord rest ms) : Matches isWord (before ++ (m ++ rest)) (m :: ms)

/-- **A search for the pattern.** -/
structure Search where
  /-- The characters a name is made of. -/
  isWord : Char → Bool
  isWord_colon : isWord ':' = false
  isWord_question : isWord '?' = false
  /-- The matches in a SQL text. -/
  find : String → List String
  find_matches : ∀ sql, Matches isWord sql.toList ((find sql).map String.toList)

/-! ## A search that can be run -/

/-- The matches in a text.  A name takes every word character that follows the colon. -/
def findIn (isWord : Char → Bool) : List Char → List (List Char)
  | [] => []
  | c :: rest =>
    if c = '?' then ['?'] :: findIn isWord rest
    else if c = ':' then
      match rest.takeWhile isWord with
      | [] => findIn isWord rest
      | name => (':' :: name) :: findIn isWord (rest.dropWhile isWord)
    else findIn isWord rest
  termination_by cs => cs.length
  decreasing_by
    · exact Nat.lt_succ_self _
    · exact Nat.lt_succ_self _
    · exact Nat.lt_succ_of_le (List.dropWhile_suffix isWord).length_le
    · exact Nat.lt_succ_self _

variable {isWord : Char → Bool} {c : Char} {cs m : List Char} {ms ms' : List (List Char)}

theorem IsMatch.ne_nil (h : IsMatch isWord m) : m ≠ [] := by
  cases h <;> nofun

/-- A match that begins with a question mark is that question mark. -/
theorem IsMatch.of_question (h : IsMatch isWord m) (hpre : m <+: '?' :: cs) : m = ['?'] := by
  cases h with
  | question => rfl
  | name name nonempty word =>
    have heq := (List.cons_prefix_cons.mp hpre).1
    exact absurd heq (by decide)

/-- A match that begins with a colon takes word characters behind it. -/
theorem IsMatch.of_colon (h : IsMatch isWord m) (hpre : m <+: ':' :: cs) :
    ∃ name rest, m = ':' :: name ∧ name ≠ [] ∧ (∀ c ∈ name, isWord c = true) ∧
      cs = name ++ rest := by
  cases h with
  | question =>
    have heq := (List.cons_prefix_cons.mp hpre).1
    exact absurd heq (by decide)
  | name name nonempty word =>
    obtain ⟨rest, hrest⟩ := (List.cons_prefix_cons.mp hpre).2
    exact ⟨name, rest, rfl, nonempty, word, hrest.symm⟩

/-- Where a match begins there is a question mark or a colon. -/
theorem IsMatch.head (h : IsMatch isWord m) (hpre : m <+: c :: cs) : c = '?' ∨ c = ':' := by
  cases h with
  | question => exact .inl (List.cons_prefix_cons.mp hpre).1.symm
  | name => exact .inr (List.cons_prefix_cons.mp hpre).1.symm

/-- **A text has one list of matches.** -/
theorem Matches.unique (h : Matches isWord cs ms) (h' : Matches isWord cs ms') : ms = ms' := by
  induction h generalizing ms' with
  | none free =>
    cases h' with
    | none => rfl
    | next before isMatch =>
      refine absurd ?_ (free before.length _ isMatch)
      rw [List.drop_left]
      exact List.prefix_append _ _
  | @next before m rest ms isMatch leftmost longest _ ih =>
    generalize hcs : before ++ (m ++ rest) = cs at h'
    cases h' with
    | none free =>
      refine absurd ?_ (free before.length _ isMatch)
      rw [← hcs, List.drop_left]
      exact List.prefix_append _ _
    | @next before' m' rest' ms' isMatch' leftmost' longest' others' =>
      -- neither match begins before the other, and neither is the longer one
      have hle : before.length ≤ before'.length := by
        refine Nat.le_of_not_lt fun hlt => leftmost _ hlt m' isMatch' ?_
        rw [hcs, List.drop_left]
        exact List.prefix_append _ _
      have hge : before'.length ≤ before.length := by
        refine Nat.le_of_not_lt fun hlt => leftmost' _ hlt m isMatch ?_
        rw [← hcs, List.drop_left]
        exact List.prefix_append _ _
      obtain ⟨rfl, hbehind⟩ := List.append_inj hcs (Nat.le_antisymm hle hge)
      have hle' := longest' m isMatch (hbehind ▸ List.prefix_append _ _)
      have hge' := longest m' isMatch' (hbehind ▸ List.prefix_append _ _)
      obtain ⟨rfl, rfl⟩ := List.append_inj hbehind (Nat.le_antisymm hle' hge')
      rw [ih others']

/-- A character with which no match begins is passed. -/
theorem Matches.pass (h : Matches isWord cs ms)
    (hclosed : ∀ m, IsMatch isWord m → ¬ m <+: c :: cs) : Matches isWord (c :: cs) ms := by
  cases h with
  | none free =>
    refine .none fun i => ?_
    cases i with
    | zero => exact hclosed
    | succ i => exact free i
  | next before isMatch leftmost longest others =>
    refine .next (c :: before) isMatch (fun i hi => ?_) longest others
    cases i with
    | zero => exact hclosed
    | succ i => exact leftmost i (Nat.lt_of_succ_lt_succ hi)

/-- A match that stands in front and is as long as possible is taken. -/
theorem Matches.take (h : Matches isWord cs ms) (isMatch : IsMatch isWord m)
    (longest : ∀ m', IsMatch isWord m' → m' <+: m ++ cs → m'.length ≤ m.length) :
    Matches isWord (m ++ cs) (m :: ms) :=
  .next [] isMatch (fun _ hi => absurd hi (Nat.not_lt_zero _)) longest h

/-- **What `findIn` finds are the matches**, whatever the word characters are. -/
theorem matches_findIn (isWord : Char → Bool) (cs : List Char) :
    Matches isWord cs (findIn isWord cs) := by
  induction cs using findIn.induct isWord with
  | case1 =>
    rw [findIn]
    refine .none fun i m hm hpre => hm.ne_nil ?_
    rwa [List.drop_nil, List.prefix_nil] at hpre
  | case2 rest ih =>
    rw [findIn, if_pos rfl]
    refine ih.take .question fun m hm hpre => ?_
    exact Nat.le_of_eq (congrArg List.length (hm.of_question hpre))
  | case3 rest hnone hcolon ih =>
    rw [findIn, if_neg hcolon, if_pos rfl, hnone]
    refine ih.pass fun m hm hpre => ?_
    obtain ⟨name, rest', -, hnonempty, hword, rfl⟩ := hm.of_colon hpre
    rw [List.takeWhile_append_of_pos hword] at hnone
    exact hnonempty (List.append_eq_nil_iff.mp hnone).1
  | case4 rest hcolon hsome ih =>
    have hmatch : IsMatch isWord (':' :: rest.takeWhile isWord) :=
      .name _ hsome fun c hc => List.all_eq_true.mp List.all_takeWhile c hc
    have htake := ih.take hmatch fun m hm hpre => by
      rw [List.cons_append, List.takeWhile_append_dropWhile] at hpre
      obtain ⟨name, rest', rfl, -, hword, rfl⟩ := hm.of_colon hpre
      rw [List.takeWhile_append_of_pos hword]
      simp only [List.length_cons, List.length_append]
      omega
    rw [List.cons_append, List.takeWhile_append_dropWhile] at htake
    rw [findIn, if_neg hcolon, if_pos rfl]
    split
    · contradiction
    · exact htake
  | case5 c rest hquestion hcolon ih =>
    rw [findIn, if_neg hquestion, if_neg hcolon]
    exact ih.pass fun m hm hpre => (hm.head hpre).elim hquestion hcolon

namespace Search

/-- The search by `findIn`. -/
def ofWord (isWord : Char → Bool) (isWord_colon : isWord ':' = false)
    (isWord_question : isWord '?' = false) : Search where
  isWord
  isWord_colon
  isWord_question
  find sql := (findIn isWord sql.toList).map String.ofList
  find_matches sql := by
    simpa [Function.comp_def] using matches_findIn isWord sql.toList

/-- The search with the word characters of Unicode. -/
def unicode : Search := ofWord Text.isWord Text.isWord_colon Text.isWord_question

end Search
end SqlClient.Marker
