import SqlClient.Proofs.ParameterBinding

/-! # Named arguments find their parameters

`Parameters.seatAll` is greedy: every named argument in turn takes the first parameter of its name
that is still free, and the first argument that finds none is the error.  This module shows that
nothing is lost by being greedy.

Names count without their colon and without regard to case; what is left of a name is its *key*.
The state in the middle of seating is described by `Seated`: the slots given out are the arguments
seen so far, each at a parameter of its own key, and parameters of one key were filled from the
left.  `Seated.seat` is the step and `Seated.seatAll` the run: the seating of a whole list ends in
such a state, or stops at an argument whose key has already used up all its parameters.

Since slots and parameters are equally many at the end, no parameter can be left without a slot
(`Seated.full`), and counting keys on both sides decides which of the two ends is reached
(`bind_named_resolves_iff`).
-/
namespace SqlClient

/-- What is left of the name of an argument: no colon, no case. -/
def Arguments.key (name : String) : List Char := Text.folded (Parameter.withoutColon name)

/-- What is left of the name of a parameter, none for `?`. -/
def Parameter.key? (p : Parameter) : Option (List Char) := p.name.map Text.folded

theorem Parameter.answersTo_iff {p : Parameter} {name : String} :
    p.answersTo name = true ↔ p.key? = some (Arguments.key name) := by
  unfold answersTo key? Arguments.key
  cases p.name with
  | none => simp
  | some own => simp [Text.sameName_iff]

namespace Parameters

/-- The keys of the parameters that have one, in their order. -/
def keys (items : List Parameter) : List (List Char) := items.filterMap Parameter.key?

/-! ## One argument -/

/-- A seat that is still free for an argument of this name. -/
def Free (name : String) (s : Seat) : Prop := s.2 = none ∧ s.1.answersTo name = true

/-- An argument finds no seat exactly when none is free for it. -/
theorem seat_eq_none_iff {name : String} {slot : Nat} {seats : List Seat} :
    seat name slot seats = none ↔ ∀ s ∈ seats, ¬ Free name s := by
  induction seats with
  | nil => simp [seat]
  | cons s rest ih =>
    obtain ⟨p, taken⟩ := s
    by_cases hfree : taken.isNone && p.answersTo name
    · have : Free name (p, taken) := by simpa [Free] using hfree
      simp [seat, hfree, this]
    · have : ¬ Free name (p, taken) := by simpa [Free] using hfree
      simp [seat, hfree, this, ih]

/-- An argument takes the first seat that is free for it; the other seats stay. -/
theorem seat_eq_some {name : String} {slot : Nat} {seats seats' : List Seat}
    (h : seat name slot seats = some seats') :
    ∃ before p after, seats = before ++ (p, none) :: after ∧ p.answersTo name = true ∧
      (∀ s ∈ before, ¬ Free name s) ∧ seats' = before ++ (p, some slot) :: after := by
  induction seats generalizing seats' with
  | nil => simp [seat] at h
  | cons s rest ih =>
    obtain ⟨p, taken⟩ := s
    rw [seat] at h
    split at h
    · rename_i hfree
      obtain ⟨hnone, hname⟩ : taken = none ∧ p.answersTo name = true := by simpa using hfree
      subst hnone
      exact ⟨[], p, rest, rfl, hname, by simp, (Option.some.inj h).symm⟩
    · rename_i hfree
      obtain ⟨rest', hrest, rfl⟩ := Option.map_eq_some_iff.mp h
      obtain ⟨before, q, after, rfl, hname, hbefore, rfl⟩ := ih hrest
      refine ⟨(p, taken) :: before, q, after, rfl, hname, ?_, rfl⟩
      intro s hs
      rcases List.mem_cons.mp hs with rfl | hs
      · simpa [Free] using hfree
      · exact hbefore s hs

/-! ## The state in the middle of seating -/

/-- The key under which a seat was taken. -/
def takenKey? (s : Seat) : Option (List Char) := if s.2.isSome then s.1.key? else none

@[simp] theorem takenKey?_none (p : Parameter) : takenKey? (p, none) = none := rfl

@[simp] theorem takenKey?_some (p : Parameter) (slot : Nat) :
    takenKey? (p, some slot) = p.key? := rfl

/-- **What seating keeps.**  `seats` are the parameters `items` after arguments with the keys
`done`, in this order, have taken their seats. -/
structure Seated (items : List Parameter) (done : List (List Char)) (seats : List Seat) :
    Prop where
  /-- The seats are those of the parameters. -/
  parameters : seats.map Prod.fst = items
  /-- Every argument so far has exactly one seat. -/
  slots : (seats.filterMap Prod.snd).Perm (List.range done.length)
  /-- The keys that were used up are those of the arguments. -/
  used : (seats.filterMap takenKey?).Perm done
  /-- An argument sits at a parameter of its key. -/
  carries : ∀ p slot, (p, some slot) ∈ seats → p.key? = done[slot]?
  /-- Parameters of one key were filled from the left. -/
  ordered : seats.Pairwise fun s t => s.1.key? = t.1.key? →
    ∀ later ∈ t.2, ∃ earlier ∈ s.2, earlier < later

variable {items : List Parameter} {done : List (List Char)} {seats seats' : List Seat}

theorem Seated.initial (items : List Parameter) :
    Seated items [] (items.map fun p => (p, none)) where
  parameters := by simp [Function.comp_def]
  slots := by simp [List.filterMap_map]
  used := by simp [List.filterMap_map, Function.comp_def, takenKey?]
  carries := by simp
  ordered := by
    apply List.pairwise_map.mpr
    apply List.pairwise_of_forall
    intro _ _ _ later hlater
    cases hlater

/-- A slot that was given out is that of an argument seen so far. -/
theorem Seated.slot_lt (h : Seated items done seats) {p : Parameter} {slot : Nat}
    (hs : (p, some slot) ∈ seats) : slot < done.length := by
  have hmem : slot ∈ seats.filterMap Prod.snd := List.mem_filterMap.mpr ⟨_, hs, rfl⟩
  exact List.mem_range.mp (h.slots.mem_iff.mp hmem)

/-- **One more argument takes its seat.** -/
theorem Seated.seat (h : Seated items done seats) {name : String}
    (hseat : Parameters.seat name done.length seats = some seats') :
    Seated items (done ++ [Arguments.key name]) seats' := by
  obtain ⟨before, p, after, rfl, hname, hbefore, rfl⟩ := seat_eq_some hseat
  have hkey : p.key? = some (Arguments.key name) := Parameter.answersTo_iff.mp hname
  obtain ⟨hpre, hsuf, hcross⟩ := List.pairwise_append.mp h.ordered
  obtain ⟨hhead, hafter⟩ := List.pairwise_cons.mp hsuf
  refine ⟨by simpa using h.parameters, ?_, ?_, ?_, ?_⟩
  · have hslots : ((before.filterMap Prod.snd) ++ after.filterMap Prod.snd).Perm
        (List.range done.length) := by simpa using h.slots
    have hnew : Prod.snd ((p, some done.length) : Seat) = some done.length := rfl
    rw [List.length_append, List.length_singleton, List.range_succ, List.filterMap_append,
      List.filterMap_cons_some hnew]
    exact List.perm_middle.trans ((hslots.cons _).trans (List.perm_append_singleton _ _).symm)
  · have hused : ((before.filterMap takenKey?) ++ after.filterMap takenKey?).Perm done := by
      simpa [List.filterMap_cons] using h.used
    have hnew : takenKey? (p, some done.length) = some (Arguments.key name) := hkey
    rw [List.filterMap_append, List.filterMap_cons_some hnew]
    exact List.perm_middle.trans ((hused.cons _).trans (List.perm_append_singleton _ _).symm)
  · intro q slot hq
    have hold : (q, some slot) ∈ before ++ (p, none) :: after →
        q.key? = (done ++ [Arguments.key name])[slot]? := fun hmem => by
      rw [List.getElem?_append_left (h.slot_lt hmem)]
      exact h.carries q slot hmem
    rcases List.mem_append.mp hq with hq | hq
    · exact hold (List.mem_append_left _ hq)
    · rcases List.mem_cons.mp hq with heq | hq
      · obtain ⟨rfl, hslot⟩ := Prod.mk.inj heq
        rw [Option.some.inj hslot, hkey]
        simp
      · exact hold (List.mem_append_right _ (List.mem_cons_of_mem _ hq))
  · refine List.pairwise_append.mpr ⟨hpre, List.pairwise_cons.mpr ⟨?_, hafter⟩, ?_⟩
    · -- a later parameter of this key has no slot: the one taken now had none
      intro t ht heq later hlater
      obtain ⟨earlier, hearlier, -⟩ := hhead t ht heq later hlater
      cases hearlier
    · intro s hs t ht heq
      rcases List.mem_cons.mp ht with rfl | ht
      · -- an earlier parameter of this key is not free, so it has a slot
        have hnot := hbefore s hs
        obtain ⟨q, taken⟩ := s
        cases taken with
        | none => exact absurd ⟨rfl, Parameter.answersTo_iff.mpr (heq.trans hkey)⟩ hnot
        | some earlier =>
          intro later hlater
          cases hlater
          exact ⟨earlier, rfl, h.slot_lt (List.mem_append_left _ hs)⟩
      · exact hcross s hs t (List.mem_cons_of_mem _ ht) heq

/-- The keys used up are among those of the parameters. -/
theorem Seated.count_le (h : Seated items done seats) (x : List Char) :
    done.count x ≤ (keys items).count x := by
  have hsub : (seats.filterMap takenKey?).Sublist (keys items) := by
    rw [← h.parameters, keys, List.filterMap_map]
    have hfilter : seats.filterMap takenKey? =
        (seats.filter fun s => s.2.isSome).filterMap (Parameter.key? ∘ Prod.fst) := by
      rw [List.filterMap_filter]
      rfl
    rw [hfilter]
    exact List.filter_sublist.filterMap _
  rw [← h.used.count_eq]
  exact hsub.count_le x

/-- An argument that finds no seat is one too many of its key: every parameter of that key is
taken. -/
theorem Seated.count_eq_of_seat_eq_none (h : Seated items done seats) {name : String}
    {slot : Nat} (hseat : Parameters.seat name slot seats = none) :
    done.count (Arguments.key name) = (keys items).count (Arguments.key name) := by
  have hnone := seat_eq_none_iff.mp hseat
  rw [← h.used.count_eq, ← h.parameters, keys, List.filterMap_map]
  clear h hseat
  induction seats with
  | nil => rfl
  | cons s rest ih =>
    have hrest := ih fun s hs => hnone s (List.mem_cons_of_mem _ hs)
    obtain ⟨p, taken⟩ := s
    cases taken with
    | some slot =>
      cases hp : p.key? with
      | none => simpa [List.filterMap_cons, hp] using hrest
      | some x => simpa [List.filterMap_cons, hp, List.count_cons] using hrest
    | none =>
      have hkey : p.key? ≠ some (Arguments.key name) := fun hkey =>
        hnone (p, none) (List.mem_cons_self ..) ⟨rfl, Parameter.answersTo_iff.mpr hkey⟩
      cases hp : p.key? with
      | none => simpa [List.filterMap_cons, hp] using hrest
      | some x =>
        have hx : x ≠ Arguments.key name := fun hx => hkey (hx ▸ hp)
        simpa [List.filterMap_cons, hp, hx] using hrest

/-- **The seating of a list of arguments** either seats all of them, or stops at the first that
finds no seat because the ones before it have used up its key. -/
theorem Seated.seatAll (h : Seated items done seats) (names : List String) :
    (∃ seats', Parameters.seatAll done.length seats names = .ok seats' ∧
      Seated items (done ++ names.map Arguments.key) seats') ∨
    ∃ before name after, names = before ++ name :: after ∧
      Parameters.seatAll done.length seats names = .error (.parameterNotFound name) ∧
      (∀ x, (done ++ before.map Arguments.key).count x ≤ (keys items).count x) ∧
      (done ++ before.map Arguments.key).count (Arguments.key name) =
        (keys items).count (Arguments.key name) := by
  induction names generalizing done seats with
  | nil => exact Or.inl ⟨seats, rfl, by simpa using h⟩
  | cons name rest ih =>
    rw [Parameters.seatAll]
    cases hseat : Parameters.seat name done.length seats with
    | none =>
      -- nobody before this one was refused, and its key is used up
      refine Or.inr ⟨[], name, rest, rfl, rfl, ?_, ?_⟩
      · simpa using h.count_le
      · simpa using h.count_eq_of_seat_eq_none hseat
    | some next =>
      have hnext := ih (h.seat hseat)
      simp only [List.length_append, List.length_singleton, List.append_assoc,
        List.singleton_append] at hnext
      rcases hnext with hok | ⟨before, late, after, rfl, herr, hle, heq⟩
      · exact Or.inl hok
      · exact Or.inr ⟨name :: before, late, after, rfl, herr, hle, heq⟩

/-- **No gap.**  With as many arguments as parameters every parameter has a slot. -/
theorem Seated.full (h : Seated items done seats) (hlen : done.length = items.length) :
    seats = items.zip ((seats.filterMap Prod.snd).map some) ∧
      (seats.filterMap Prod.snd).length = items.length := by
  have hslots : (seats.filterMap Prod.snd).length = items.length := by
    rw [h.slots.length_eq, List.length_range, hlen]
  refine ⟨?_, hslots⟩
  rw [← h.parameters, List.length_map] at hslots
  have hall : ∀ s ∈ seats, s.2.isSome := List.filterMap_length_eq_length.mp hslots
  have hsnd : (seats.filterMap Prod.snd).map some = seats.map Prod.snd := by
    rw [List.map_filterMap_some_eq_filter_map_isSome, List.filter_eq_self]
    intro taken ht
    obtain ⟨s, hs, rfl⟩ := List.mem_map.mp ht
    exact hall s hs
  rw [hsnd, ← h.parameters, ← List.unzip_fst, ← List.unzip_snd, List.zip_unzip]

/-! ## The slots of a whole list of arguments -/

/-- The key at `k` is one too many: it occurs more often up to `k` than in `wanted`. -/
def OneTooMany (wanted given : List (List Char)) (k : Nat) : Prop :=
  ∃ x, given[k]? = some x ∧ wanted.count x < (given.take (k + 1)).count x

variable {names : List String} {slots : List Nat}

/-- **The slots by name** are those of a finished seating, or an argument that finds no seat is the
error. -/
theorem slotsByName_cases (items : List Parameter) (names : List String) :
    (∃ seats, slotsByName items names = .ok (seats.filterMap Prod.snd) ∧
      Seated items (names.map Arguments.key) seats) ∨
    ∃ before name after, names = before ++ name :: after ∧
      slotsByName items names = .error (.parameterNotFound name) ∧
      (∀ x, (before.map Arguments.key).count x ≤ (keys items).count x) ∧
      (before.map Arguments.key).count (Arguments.key name) =
        (keys items).count (Arguments.key name) := by
  unfold slotsByName
  rcases (Seated.initial items).seatAll names with
    ⟨seats, hok, hseated⟩ | ⟨before, name, after, hnames, herr, hle, heq⟩
  · refine Or.inl ⟨seats, ?_, hseated⟩
    exact congrArg (Except.map fun seats : List Seat => seats.filterMap Prod.snd) hok
  · refine Or.inr ⟨before, name, after, hnames, ?_, hle, heq⟩
    exact congrArg (Except.map fun seats : List Seat => seats.filterMap Prod.snd) herr

/-- Slots that were found are those of a finished seating. -/
theorem seated_of_slotsByName (h : slotsByName items names = .ok slots) :
    ∃ seats, Seated items (names.map Arguments.key) seats ∧ slots = seats.filterMap Prod.snd := by
  rcases slotsByName_cases items names with ⟨seats, hok, hseated⟩ | ⟨_, _, _, _, herr, _⟩
  · exact ⟨seats, hseated, Except.ok.inj (h.symm.trans hok)⟩
  · cases h.symm.trans herr

/-- **Arguments are resolved exactly when the two multisets of keys agree.** -/
theorem slotsByName_ok_iff (hlen : names.length = items.length) :
    (∃ slots, slotsByName items names = .ok slots) ↔
      (names.map Arguments.key).Perm (keys items) := by
  constructor
  · rintro ⟨slots, h⟩
    obtain ⟨seats, hseated, -⟩ := seated_of_slotsByName h
    -- no key is used up more often than it occurs, and there are enough arguments
    refine (List.subperm_ext_iff.mpr fun x _ => hseated.count_le x).perm_of_length_le ?_
    rw [List.length_map, hlen]
    exact List.length_filterMap_le _ _
  · intro hperm
    rcases slotsByName_cases items names with
      ⟨seats, hok, -⟩ | ⟨before, name, after, rfl, -, -, heq⟩
    · exact ⟨_, hok⟩
    · have hcount := hperm.count_eq (Arguments.key name)
      rw [List.map_append, List.map_cons, List.count_append, List.count_cons_self, heq] at hcount
      omega

/-- **The error names the first argument that is one too many.** -/
theorem slotsByName_error {e : Error} (h : slotsByName items names = .error e) :
    ∃ k name, names[k]? = some name ∧ e = .parameterNotFound name ∧
      OneTooMany (keys items) (names.map Arguments.key) k ∧
      ∀ j < k, ¬ OneTooMany (keys items) (names.map Arguments.key) j := by
  rcases slotsByName_cases items names with
    ⟨seats, hok, -⟩ | ⟨before, name, after, rfl, herr, hle, heq⟩
  · cases h.symm.trans hok
  · refine ⟨before.length, name, by simp, Except.error.inj (h.symm.trans herr), ?_, ?_⟩
    · refine ⟨Arguments.key name, by simp, ?_⟩
      have hkeys : (before ++ name :: after).map Arguments.key =
          (before.map Arguments.key ++ [Arguments.key name]) ++ after.map Arguments.key := by simp
      rw [hkeys, List.take_left' (by simp), List.count_append, List.count_singleton_self, heq]
      omega
    · rintro j hj ⟨x, -, hx⟩
      have htake : ((before ++ name :: after).map Arguments.key).take (j + 1) =
          (before.map Arguments.key).take (j + 1) := by
        rw [List.map_append, List.take_append_of_le_length (by rw [List.length_map]; exact hj)]
      rw [htake] at hx
      have hpre := (List.take_sublist (j + 1) (before.map Arguments.key)).count_le x
      have hbound := hle x
      omega

/-- **A resolution** of arguments: the slot that each parameter takes its value from. -/
structure Resolution (ps : Parameters) (args : Arguments) (slots : List Nat) : Prop where
  /-- Every argument goes to one parameter, and no parameter goes without. -/
  perm : slots.Perm (List.range ps.size)
  /-- Arguments without names keep their places. -/
  inPlace : ∀ values, args = .positional values → slots = List.range ps.size
  /-- A named argument goes to a parameter of its key. -/
  carries : ∀ entries, args = .named entries → ∀ (i : Nat) (p : Parameter) (slot : Nat),
    ps.items[i]? = some p → slots[i]? = some slot →
      p.key? = (entries.map fun entry => Arguments.key entry.1)[slot]?
  /-- Parameters of one key take their arguments in order. -/
  inOrder : ∀ entries, args = .named entries → ∀ (i j : Nat) (p q : Parameter) (s t : Nat),
    i < j → ps.items[i]? = some p → ps.items[j]? = some q → p.key? = q.key? →
      slots[i]? = some s → slots[j]? = some t → s < t

variable {ps : Parameters} {args : Arguments}

/-- No slot is taken twice. -/
theorem Resolution.nodup (h : Resolution ps args slots) : slots.Nodup :=
  h.perm.nodup_iff.mpr List.nodup_range

/-- The slots are places of parameters. -/
theorem Resolution.lt_size (h : Resolution ps args slots) {slot : Nat} (hslot : slot ∈ slots) :
    slot < ps.size :=
  List.mem_range.mp (h.perm.mem_iff.mp hslot)

/-- Arguments of another number than the parameters are refused before anything else. -/
theorem slotsFor_of_ne_size (h : args.size ≠ ps.size) :
    ps.slotsFor args = .error (.argumentCount ps.size args.size ps.named) := by
  unfold slotsFor
  exact if_pos h

theorem size_eq_of_slotsFor (h : ps.slotsFor args = .ok slots) : args.size = ps.size := by
  unfold slotsFor at h
  split at h
  · cases h
  · rename_i hsize
    exact not_not.mp hsize

/-- **Slots that were found are a resolution.** -/
theorem resolution_of_slotsFor (h : ps.slotsFor args = .ok slots) : Resolution ps args slots := by
  have hsize := size_eq_of_slotsFor h
  unfold slotsFor at h
  rw [if_neg (not_not.mpr hsize)] at h
  cases args with
  | positional values =>
    simp only at h
    split at h
    · cases h
    · cases h
      exact ⟨List.Perm.refl _, fun _ _ => rfl, by rintro _ ⟨⟩, by rintro _ ⟨⟩⟩
  | named entries =>
    simp only at h
    obtain ⟨seats, hseated, rfl⟩ := seated_of_slotsByName h
    have hlen : ((entries.map (·.1)).map Arguments.key).length = ps.items.length := by
      simpa [Arguments.size, Arguments.values, size] using hsize
    obtain ⟨hseats, -⟩ := hseated.full hlen
    -- the seat of parameter `i` with its slot
    have hseat : ∀ {i : Nat} {p : Parameter} {slot : Nat}, ps.items[i]? = some p →
        (seats.filterMap Prod.snd)[i]? = some slot → seats[i]? = some (p, some slot) := by
      intro i p slot hp hslot
      rw [hseats]
      exact List.getElem?_zip_eq_some.mpr ⟨hp, by simp [hslot]⟩
    refine ⟨?_, by rintro _ ⟨⟩, ?_, ?_⟩
    · have hslots := hseated.slots
      rwa [hlen] at hslots
    · rintro _ ⟨⟩ i p slot hp hslot
      have hcarries := hseated.carries p slot (List.mem_of_getElem? (hseat hp hslot))
      rwa [List.map_map] at hcarries
    · rintro _ ⟨⟩ i j p q s t hij hp hq hkey hs ht
      obtain ⟨hi, hpi⟩ := List.getElem?_eq_some_iff.mp (hseat hp hs)
      obtain ⟨hj, hqj⟩ := List.getElem?_eq_some_iff.mp (hseat hq ht)
      have hpair := List.pairwise_iff_getElem.mp hseated.ordered i j hi hj hij
      rw [hpi, hqj] at hpair
      obtain ⟨s', hs', hlt⟩ := hpair hkey t rfl
      cases hs'
      exact hlt

/-! ## The parameters of a SQL text -/

/-- **The parameters of `sql`** that the server describes by `ds`, after any number of bindings,
and whatever was written into their buffers in between. -/
inductive Prepared (search : Marker.Search) (sql : String) (ds : List ParameterDescription) :
    Parameters → Prop where
  | described {ps : Parameters} : ofDescriptions search sql ds = .ok ps → Prepared search sql ds ps
  | bound {ps : Parameters} (args : Arguments) : Prepared search sql ds ps →
      Prepared search sql ds (leaves (bind args ps))
  | written {ps : Parameters} (index : Nat) (write : Binding → Except Error Buffer) :
      Prepared search sql ds ps → Prepared search sql ds (leaves (writeBuffer index write ps))

/-- The keys of the named markers in a SQL text. -/
def markerKeys (search : Marker.Search) (sql : String) : List (List Char) :=
  (Marker.find search sql).filterMap fun m => m.name?.map Text.folded

variable {search : Marker.Search} {sql : String} {ds : List ParameterDescription}

theorem scan_eq_ok {count : Nat} {markers : List Marker}
    (h : Marker.scan search sql count = .ok markers) :
    markers = Marker.find search sql ∧ markers.length = count := by
  simp only [Marker.scan] at h
  split at h
  · cases h
  split at h
  · cases h
  split at h
  · cases h
  · cases h
    exact ⟨rfl, by omega⟩

theorem name_ofDescription {d : ParameterDescription} {marker : Option Marker} {p : Parameter}
    (h : Parameter.ofDescription d marker = .ok p) : p.name = marker.bind Marker.name? := by
  unfold Parameter.ofDescription at h
  split at h <;> cases h
  rfl

theorem names_ofDescriptions (h : ofDescriptions search sql ds = .ok ps) :
    ps.items.map (·.name) = (Marker.find search sql).map Marker.name? ∧ ps.size = ds.length := by
  obtain ⟨markers, hscan, h⟩ := bind_eq_ok h
  obtain ⟨rfl, hlen⟩ := scan_eq_ok hscan
  obtain ⟨items, hitems, h⟩ := bind_eq_ok h
  obtain rfl := Except.ok.inj h
  have hall := mapM_eq_ok_iff.mp hitems
  have hsize : items.length = ds.length := by
    rw [← hall.length_eq, List.length_zip, hlen, Nat.min_self]
  refine ⟨?_, hsize⟩
  apply List.ext_getElem (by simp [hsize, hlen])
  intro i hi hm
  rw [List.length_map] at hi hm
  have hzip : (ds.zip (Marker.find search sql))[i]? =
      some (ds[i], (Marker.find search sql)[i]) := by
    simp [List.getElem?_zip_eq_some]
  obtain ⟨p, hp, hd⟩ := getElem?_of_forall₂ hall hzip
  rw [List.getElem?_eq_getElem hi] at hp
  simp [Option.some.inj hp, name_ofDescription hd]

/-- Binding keeps the names. -/
theorem names_bind (args : Arguments) (ps : Parameters) :
    (leaves (bind args ps)).items.map (·.name) = ps.items.map (·.name) :=
  (shape_bind args ps).names

theorem names_writeBuffer (index : Nat) (write : Binding → Except Error Buffer)
    (ps : Parameters) :
    (leaves (writeBuffer index write ps)).items.map (·.name) = ps.items.map (·.name) := by
  unfold writeBuffer
  cases hp : ps.items[index]? with
  | none => rfl
  | some p =>
    simp only
    cases write p.binding with
    | error e => rfl
    | ok buffer =>
      obtain ⟨hi, rfl⟩ := List.getElem?_eq_some_iff.mp hp
      apply List.ext_getElem (by simp)
      intro j hj hj'
      by_cases hij : index = j
      · subst hij
        simp
      · simp [hij]

/-- However the parameters of a SQL text were used, their names are those of its markers. -/
theorem Prepared.marked (h : Prepared search sql ds ps) :
    ps.items.map (·.name) = (Marker.find search sql).map Marker.name? ∧ ps.size = ds.length := by
  have hstep : ∀ {ps ps' : Parameters}, ps'.items.map (·.name) = ps.items.map (·.name) →
      ps.items.map (·.name) = (Marker.find search sql).map Marker.name? ∧ ps.size = ds.length →
      ps'.items.map (·.name) = (Marker.find search sql).map Marker.name? ∧
        ps'.size = ds.length := by
    intro ps ps' hnames ⟨hmarked, hsize⟩
    have hlen : ps'.size = ps.size := by simpa [size] using congrArg List.length hnames
    exact ⟨hnames.trans hmarked, hlen.trans hsize⟩
  induction h with
  | described h => exact names_ofDescriptions h
  | bound args _ ih => exact hstep (names_bind args _) ih
  | written index write _ ih => exact hstep (names_writeBuffer index write _) ih

theorem Prepared.keys_eq (h : Prepared search sql ds ps) :
    keys ps.items = markerKeys search sql := by
  have hkeys := congrArg (List.filterMap (Option.map Text.folded)) h.marked.1
  rwa [List.filterMap_map, List.filterMap_map] at hkeys

/-! ## Binding by name -/

theorem slotsFor_named {entries : List (String × Value)} (h : entries.length = ps.size) :
    ps.slotsFor (.named entries) = slotsByName ps.items (entries.map (·.1)) := by
  have hsize : (Arguments.named entries).size = ps.size := by
    simpa [Arguments.size, Arguments.values] using h
  rw [slotsFor, if_neg (not_not.mpr hsize)]

/-- Once slots are found, they are remembered, and the names are no longer a reason to fail. -/
theorem bind_of_slotsFor (h : ps.slotsFor args = .ok slots) :
    (leaves (bind args ps)).slots = slots ∧
      ∀ name ps', bind args ps ≠ .error (.parameterNotFound name) ps' := by
  rw [bind, h]
  simp only
  cases hb : bindFrom 1 ps.items (slots.map args.get) with
  | ok _ items => exact ⟨rfl, fun _ _ => nofun⟩
  | error e items =>
    refine ⟨rfl, ?_⟩
    rintro name _ ⟨⟩
    rcases bindFrom_error hb with ⟨_, he⟩ | ⟨_, _, _, he⟩ <;> cases he

/-- **Named arguments are resolved exactly when their keys are those of the markers.**  Then
every parameter has the slot of an argument of its own key, each slot is taken once, and
parameters of one key take their arguments in order.  Otherwise the first argument that is one
too many of its key is the error, and nothing has changed. -/
theorem bind_named_resolves_iff (prepared : Prepared search sql ds ps)
    (entries : List (String × Value)) (full : entries.length = ds.length) :
    let given := entries.map fun entry => Arguments.key entry.1
    ((∃ slots, ps.slotsFor (.named entries) = .ok slots) ↔ given.Perm (markerKeys search sql)) ∧
    (given.Perm (markerKeys search sql) → ∃ slots, Resolution ps (.named entries) slots ∧
      (leaves (bind (.named entries) ps)).slots = slots ∧
      ∀ name ps', bind (.named entries) ps ≠ .error (.parameterNotFound name) ps') ∧
    (¬ given.Perm (markerKeys search sql) → ∃ k name v, entries[k]? = some (name, v) ∧
      OneTooMany (markerKeys search sql) given k ∧
      (∀ j < k, ¬ OneTooMany (markerKeys search sql) given j) ∧
      bind (.named entries) ps = .error (.parameterNotFound name) ps) := by
  intro given
  have hgiven : (entries.map (·.1)).map Arguments.key = given := by
    rw [List.map_map]
    rfl
  have hsize : entries.length = ps.size := full.trans prepared.marked.2.symm
  have hslots := slotsFor_named hsize
  have hlength : (entries.map (·.1)).length = ps.items.length := (List.length_map _).trans hsize
  have hiff := slotsByName_ok_iff hlength
  rw [← hslots, hgiven, prepared.keys_eq] at hiff
  refine ⟨hiff, ?_, ?_⟩
  · intro hperm
    obtain ⟨slots, h⟩ := hiff.mpr hperm
    exact ⟨slots, resolution_of_slotsFor h, bind_of_slotsFor h⟩
  · intro hperm
    cases h : ps.slotsFor (.named entries) with
    | ok slots => exact absurd (hiff.mp ⟨slots, h⟩) hperm
    | error e =>
      obtain ⟨k, name, hk, rfl, hfirst⟩ := slotsByName_error (hslots.symm.trans h)
      rw [hgiven, prepared.keys_eq] at hfirst
      rw [List.getElem?_map, Option.map_eq_some_iff] at hk
      obtain ⟨⟨name', v⟩, hentry, rfl⟩ := hk
      refine ⟨k, name', v, hentry, hfirst.1, hfirst.2, ?_⟩
      rw [bind, h]

/-- Arguments in another order than the markers, one of them repeated. -/
theorem bind_named_repeated :
    let text := "CALL P(:A, :B, :a)"
    let ds := [.ofDigits 5 0 .input, .ofDigits 5 0 .input, .ofDigits 5 0 .input]
    let entries := [("b", .int32 1), (":a", .int32 2), ("A", .int32 3)]
    ∃ ps slots, Prepared .unicode text ds ps ∧ entries.length = ds.length ∧
      Resolution ps (.named entries) slots ∧
      (leaves (bind (.named entries) ps)).slots = slots := by
  intro text ds entries
  have hps : ∃ ps, ofDescriptions .unicode text ds = .ok ps := ⟨_, by cbv⟩
  obtain ⟨ps, hps⟩ := hps
  have prepared : Prepared .unicode text ds ps := .described hps
  have hperm : (entries.map fun entry => Arguments.key entry.1).Perm
      (markerKeys .unicode text) := by
    decide +kernel
  obtain ⟨-, hresolved, -⟩ := bind_named_resolves_iff prepared entries rfl
  obtain ⟨slots, hres, hslots, -⟩ := hresolved hperm
  exact ⟨ps, slots, prepared, rfl, hres, hslots⟩

end Parameters
end SqlClient
