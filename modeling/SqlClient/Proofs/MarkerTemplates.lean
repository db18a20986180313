import SqlClient.Proofs.MarkerPositions

/-! # Texts written around markers

A SQL text can be put together from its markers: a text in front, and behind each marker another.
Where these texts open no marker of their own, and none goes on with the name in front of it
(`Filler`, `Piece`), it is a `Template`, and the markers that are found in it are those it was put
together from (`find_text`).  So scanning undoes rendering, whatever stands between the markers and
however close they are (`scan_text`).

Nothing is left out: every SQL text is the text of a template (`exists_template`).
-/
namespace SqlClient.Marker

/-! ## Templates -/

/-- **A text that opens no marker**: it has no question mark, and no colon with a word character
directly behind it.  Its last character may be a colon. -/
structure Filler (isWord : Char → Bool) (filler : List Char) : Prop where
  noQuestion : '?' ∉ filler
  noName : filler.IsChain fun c next => c = ':' → isWord next = false

instance (isWord : Char → Bool) (filler : List Char) : Decidable (Filler isWord filler) :=
  decidable_of_iff
    ('?' ∉ filler ∧ filler.IsChain fun c next => c = ':' → isWord next = false)
    ⟨fun ⟨noQuestion, noName⟩ => ⟨noQuestion, noName⟩, fun h => ⟨h.noQuestion, h.noName⟩⟩

/-- A marker in a text, and the text from there to the next. -/
structure Piece (isWord : Char → Bool) where
  marker : Marker
  /-- A name is a non-empty run of word characters. -/
  name : ∀ name ∈ marker.name?, name ≠ "" ∧ ∀ c ∈ name.toList, isWord c = true
  filler : String
  plain : Filler isWord filler.toList
  /-- What is behind a name does not go on with it. -/
  ends : marker.name?.isSome → ∀ c ∈ filler.toList.head?, isWord c = false

variable {isWord : Char → Bool}

/-- A question mark and what is behind it. -/
def Piece.ofPositional (filler : String) (plain : Filler isWord filler.toList) : Piece isWord where
  marker := .positional
  name := nofun
  filler
  plain
  ends := nofun

/-- A name and what is behind it. -/
def Piece.ofName (name : String) (nonempty : name ≠ "")
    (word : ∀ c ∈ name.toList, isWord c = true) (filler : String)
    (plain : Filler isWord filler.toList)
    (ends : ∀ c ∈ filler.toList.head?, isWord c = false) : Piece isWord where
  marker := .named name
  name := by
    rintro _ ⟨⟩
    exact ⟨nonempty, word⟩
  filler
  plain
  ends _ := ends

/-- **A SQL text in pieces**: a text in front of the first marker, and the markers. -/
structure Template (isWord : Char → Bool) where
  front : String
  plain : Filler isWord front.toList
  pieces : List (Piece isWord)

/-- The text of pieces, one after the other. -/
def render : List (Piece isWord) → String
  | [] => ""
  | piece :: rest => piece.marker.text ++ piece.filler ++ render rest

namespace Template

/-- The text of a template. -/
def text (t : Template isWord) : String := t.front ++ render t.pieces

/-- The markers of a template, in order. -/
def markers (t : Template isWord) : List Marker := t.pieces.map Piece.marker

end Template

variable {search : Search} {cs rest filler m : List Char} {c : Char} {ms : List (List Char)}

theorem filler_nil : Filler isWord [] := ⟨nofun, .nil⟩

/-- A character in front of a filler opens no marker either, unless it is a question mark, or a
colon in front of a word. -/
theorem filler_cons : Filler isWord (c :: cs) ↔
    c ≠ '?' ∧ (c = ':' → ∀ next ∈ cs.head?, isWord next = false) ∧ Filler isWord cs := by
  constructor
  · rintro ⟨hquestion, hname⟩
    obtain ⟨hc, hcs⟩ := List.ne_and_not_mem_of_not_mem_cons hquestion
    obtain ⟨hhead, htail⟩ := List.isChain_cons.mp hname
    exact ⟨hc.symm, fun heq next hnext => hhead next hnext heq, hcs, htail⟩
  · rintro ⟨hc, hhead, hcs, htail⟩
    exact ⟨List.not_mem_cons_of_ne_of_not_mem hc.symm hcs,
      List.isChain_cons.mpr ⟨fun next hnext heq => hhead heq next hnext, htail⟩⟩

theorem text_named (name : String) : (named name).text.toList = ':' :: name.toList := by
  simp [text]

/-- A marker as it stands in the text stands for itself. -/
theorem ofMatch_text (marker : Marker) : ofMatch marker.text.toList = marker := by
  cases marker with
  | positional => rfl
  | named name => rw [text_named, ofMatch, String.ofList_toList]

/-- The marker of a piece is a match. -/
theorem Piece.isMatch (piece : Piece isWord) : IsMatch isWord piece.marker.text.toList := by
  cases hmarker : piece.marker with
  | positional => exact .question
  | named name =>
    obtain ⟨hnonempty, hword⟩ := piece.name name (by rw [hmarker]; rfl)
    rw [text_named]
    exact .name _ (String.toList_eq_nil_iff.not.mpr hnonempty) hword

/-- No rendered pieces begin with a word character. -/
theorem head_render (pieces : List (Piece search.isWord)) :
    ∀ c ∈ (render pieces).toList.head?, search.isWord c = false := by
  cases pieces with
  | nil => nofun
  | cons piece rest =>
    intro c hc
    cases hmarker : piece.marker with
    | positional =>
      simp only [render, hmarker, text, String.toList_append] at hc
      cases hc
      exact search.isWord_question
    | named name =>
      simp only [render, hmarker, text, String.toList_append] at hc
      cases hc
      exact search.isWord_colon

/-! ## Finding the markers -/

/-- **A filler is passed**, up to a text that does not go on with a word. -/
theorem matches_filler (h : Filler isWord filler) (hrest : ∀ c ∈ rest.head?, isWord c = false)
    (hmatches : Matches isWord rest ms) : Matches isWord (filler ++ rest) ms := by
  induction filler with
  | nil => exact hmatches
  | cons c cs ih =>
    obtain ⟨hquestion, hname, hcs⟩ := filler_cons.mp h
    refine (ih hcs).pass fun m hm hpre => ?_
    obtain rfl := (hm.head hpre).resolve_left hquestion
    -- what comes after the colon may be outside of the filler
    have hhead : ∀ next ∈ (cs ++ rest).head?, isWord next = false := by
      cases cs with
      | nil => exact hrest
      | cons next cs => exact hname rfl
    obtain ⟨name, rest', -, hnonempty, hword, hcs⟩ := hm.of_colon hpre
    obtain ⟨next, name, rfl⟩ := List.exists_cons_of_ne_nil hnonempty
    have hnot := hhead next (by rw [hcs]; rfl)
    rw [hword next List.mem_cons_self] at hnot
    cases hnot

/-- **A marker is found** where it stands, and its piece has no other. -/
theorem matches_piece (piece : Piece isWord) (hrest : ∀ c ∈ rest.head?, isWord c = false)
    (hmatches : Matches isWord rest ms) :
    Matches isWord (piece.marker.text.toList ++ (piece.filler.toList ++ rest))
      (piece.marker.text.toList :: ms) := by
  refine (matches_filler piece.plain hrest hmatches).take piece.isMatch fun m hm hpre => ?_
  cases hmarker : piece.marker with
  | positional =>
    rw [hmarker] at hpre
    exact Nat.le_of_eq (congrArg List.length (hm.of_question hpre))
  | named name =>
    rw [hmarker, text_named, List.cons_append] at hpre
    rw [text_named]
    obtain ⟨-, hword⟩ := piece.name name (by rw [hmarker]; rfl)
    have hends : ∀ c ∈ (piece.filler.toList ++ rest).head?, isWord c = false := by
      have hown := piece.ends (by rw [hmarker]; rfl)
      cases hfiller : piece.filler.toList with
      | nil => exact hrest
      | cons c cs =>
        rw [hfiller] at hown
        exact hown
    obtain ⟨name', rest', rfl, -, hword', hsplit⟩ := hm.of_colon hpre
    -- the word characters behind the colon are the name, and those of the match are among them
    have htaken := takeWhile_name hword hends
    rw [hsplit, List.takeWhile_append_of_pos hword'] at htaken
    rw [← htaken]
    simp

theorem matches_render (pieces : List (Piece search.isWord)) :
    Matches search.isWord (render pieces).toList
      (pieces.map fun piece => piece.marker.text.toList) := by
  induction pieces with
  | nil =>
    refine .none fun i m hm hpre => hm.ne_nil ?_
    rwa [render, String.toList_empty, List.drop_nil, List.prefix_nil] at hpre
  | cons piece rest ih =>
    rw [render, String.toList_append, String.toList_append, List.append_assoc, List.map_cons]
    exact matches_piece piece (head_render rest) ih

/-- **The markers that are found in a template are its own**, each once and in order. -/
theorem find_text (search : Search) (t : Template search.isWord) :
    find search t.text = t.markers := by
  have htext : Matches search.isWord t.text.toList
      (t.pieces.map fun piece => piece.marker.text.toList) := by
    rw [Template.text, String.toList_append]
    exact matches_filler t.plain (head_render t.pieces) (matches_render t.pieces)
  have hfound := (search.find_matches t.text).unique htext
  calc find search t.text
    _ = ((search.find t.text).map String.toList).map ofMatch := by rw [List.map_map]; rfl
    _ = t.pieces.map fun piece => ofMatch piece.marker.text.toList := by
        rw [hfound, List.map_map]; rfl
    _ = t.markers := by simp only [ofMatch_text, Template.markers]

/-- **Scanning undoes rendering**, for every search: the markers of a template are accepted as they
are, if they are of one form and the server reports as many parameters. -/
theorem scan_text (search : Search) (t : Template search.isWord) (hform : OneForm t.markers) :
    scan search t.text t.markers.length = .ok t.markers := by
  rw [← find_text] at hform ⊢
  rw [scan_of_oneForm hform, if_neg (Nat.lt_irrefl _), if_neg (Nat.lt_irrefl _)]

/-- Three names: the first is not ASCII, the second comes right behind it, and the third behind
two colons of its own. -/
theorem scan_text_adjacent :
    ∃ t : Template Search.unicode.isWord, t.text = "SET :größe:id = a:::x." ∧
      OneForm t.markers ∧
      scan .unicode t.text t.markers.length = .ok [.named "größe", .named "id", .named "x"] := by
  let t : Template Search.unicode.isWord :=
    ⟨"SET ", by decide +kernel,
      [.ofName "größe" (by decide) (List.all_eq_true.mp (by decide +kernel))
          "" (by decide +kernel) (by rintro _ ⟨⟩),
        .ofName "id" (by decide) (List.all_eq_true.mp (by decide +kernel))
          " = a::" (by decide +kernel) (by rintro _ ⟨⟩; rfl),
        .ofName "x" (by decide) (List.all_eq_true.mp (by decide +kernel))
          "." (by decide +kernel) (by rintro _ ⟨⟩; rfl)]⟩
  have hform : OneForm t.markers := by
    refine .inr fun m hm => ?_
    fin_cases hm <;> exact ⟨_, rfl⟩
  exact ⟨t, by decide +kernel, hform, scan_text .unicode t hform⟩

/-! ## Every text -/

/-- Where no match begins is a filler. -/
theorem filler_of_free (hfree : ∀ i < cs.length, ∀ m, IsMatch isWord m →
    ¬ m <+: (cs ++ rest).drop i) : Filler isWord cs := by
  induction cs with
  | nil => exact filler_nil
  | cons c cs ih =>
    refine filler_cons.mpr ⟨?_, ?_, ih fun i hi => hfree (i + 1) (Nat.succ_lt_succ hi)⟩
    · rintro rfl
      exact hfree 0 (Nat.succ_pos _) _ .question (List.prefix_append ['?'] (cs ++ rest))
    · rintro rfl next hnext
      by_contra hword
      obtain ⟨cs, rfl⟩ := List.head?_eq_some_iff.mp hnext
      have hmatch : IsMatch isWord [':', next] :=
        .name [next] (List.cons_ne_nil _ _) fun d hd => by
          rw [List.mem_singleton.mp hd]
          exact Bool.eq_true_of_not_eq_false hword
      exact hfree 0 (Nat.succ_pos _) _ hmatch (List.prefix_append [':', next] (cs ++ rest))

/-- The front of a template begins as its text does. -/
theorem head_front (t : Template isWord) :
    ∀ c ∈ t.front.toList.head?, c ∈ t.text.toList.head? := by
  intro c hc
  rw [Template.text, String.toList_append, List.head?_append, Option.mem_def.mp hc]
  rfl

/-- A match as long as possible and what is behind it, up to the next. -/
theorem exists_piece (t : Template isWord) (hm : IsMatch isWord m)
    (longest : ∀ m', IsMatch isWord m' → m' <+: m ++ t.text.toList → m'.length ≤ m.length) :
    ∃ piece : Piece isWord, piece.marker.text.toList = m ∧ piece.filler = t.front := by
  cases hm with
  | question => exact ⟨.ofPositional t.front t.plain, by simp [Piece.ofPositional, text], rfl⟩
  | name name nonempty word =>
    have hends : ∀ c ∈ t.front.toList.head?, isWord c = false := fun c hc =>
      head_of_longest word longest c (head_front t c hc)
    have hword : ∀ c ∈ (String.ofList name).toList, isWord c = true := by
      rwa [String.toList_ofList]
    refine ⟨.ofName (String.ofList name) (by simpa using nonempty) hword t.front t.plain hends,
      ?_, rfl⟩
    rw [Piece.ofName, text_named, String.toList_ofList]

/-- **Every text is the text of a template.** -/
theorem exists_template (search : Search) (sql : String) :
    ∃ t : Template search.isWord, t.text = sql := by
  suffices h : ∀ cs ms, Matches search.isWord cs ms →
      ∃ t : Template search.isWord, t.text.toList = cs by
    obtain ⟨t, ht⟩ := h sql.toList _ (search.find_matches sql)
    exact ⟨t, String.toList_inj.mp ht⟩
  intro cs ms hmatches
  induction hmatches with
  | @none cs free =>
    have hfree : ∀ i < cs.length, ∀ m, IsMatch search.isWord m → ¬ m <+: (cs ++ []).drop i := by
      rw [List.append_nil]
      exact fun i _ => free i
    have hplain : Filler search.isWord (String.ofList cs).toList := by
      rw [String.toList_ofList]
      exact filler_of_free hfree
    exact ⟨⟨_, hplain, []⟩, by simp [Template.text, render]⟩
  | @next before m rest ms isMatch leftmost longest _ ih =>
    obtain ⟨t, rfl⟩ := ih
    have hplain : Filler search.isWord (String.ofList before).toList := by
      rw [String.toList_ofList]
      exact filler_of_free leftmost
    obtain ⟨piece, hmarker, hfiller⟩ := exists_piece t isMatch longest
    refine ⟨⟨_, hplain, piece :: t.pieces⟩, ?_⟩
    simp [Template.text, render, hmarker, hfiller]

end SqlClient.Marker
