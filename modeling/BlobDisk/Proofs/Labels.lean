import BlobDisk.Proofs.Text.Blank
import BlobDisk.Proofs.Text.Maps
import BlobDisk.Proofs.Text.Pieces
import BlobDisk.Volume

/-!
# Labels of a volume

Labels are written as keys and values with commas between them. Blanks around a piece do not count, blank pieces hold
no label, and a piece that is neither blank nor a label is refused.

* `Labels.Holds`, `Labels.Faulty`: the label in a piece, and a piece that is refused;
* `Labels.parse_of_sound`, `Labels.parse_of_faulty`: the map of all labels, and the complaint about the first piece
  at fault;
* `Labels.get?_found`: the last piece with a key counts;
* `Labels.parse_exact`: what is read of any text, and that a map is read as it was written.
-/

namespace BlobDisk.Labels

variable {piece : List Char} {ps : List (List Char)} {key value : String} {text : String}

/-! ## One piece -/

/-- The label in a piece: without the blanks around it, the piece is the key, the first equals sign in it and the
value. -/
def Holds (piece : List Char) (key value : String) : Prop :=
  Blank.trim piece = key.toList ++ '=' :: value.toList ∧ '=' ∉ key.toList

/-- A piece at fault: it is not blank, and has no equals sign or starts with one. -/
def Faulty (piece : List Char) : Prop :=
  Blank.trim piece ≠ [] ∧ ('=' ∉ Blank.trim piece ∨ (Blank.trim piece).head? = some '=')

instance : DecidablePred Faulty := fun piece =>
  inferInstanceAs (Decidable
    (Blank.trim piece ≠ [] ∧ ('=' ∉ Blank.trim piece ∨ (Blank.trim piece).head? = some '=')))

/-- The complaint about a piece. -/
def complaint (piece : List Char) : Error :=
  .validation ("Invalid label " ++ String.ofList (Blank.trim piece) ++ ". Must be key=value")

/-- The label in a piece, if it holds one. -/
def found (piece : List Char) : Option (String × String) :=
  (Pieces.cut? '=' (Blank.trim piece)).map fun (key, value) => (String.ofList key, String.ofList value)

theorem found_eq_some_iff : found piece = some (key, value) ↔ Holds piece key value := by
  rw [found, Option.map_eq_some_iff, Holds, ← Pieces.cut?_eq_some_iff]
  constructor
  · rintro ⟨⟨front, back⟩, hcut, hpair⟩
    obtain ⟨rfl, rfl⟩ := Prod.mk.inj hpair
    rwa [String.toList_ofList, String.toList_ofList]
  · intro hcut
    exact ⟨_, hcut, Prod.ext String.ofList_toList String.ofList_toList⟩

theorem found_of_blank (h : Blank.trim piece = []) : found piece = none := by
  rw [found, h]
  rfl

theorem not_faulty_of_holds (h : Holds piece key value) (hkey : key ≠ "") : ¬ Faulty piece := by
  rintro ⟨-, hnone | hfirst⟩
  · exact hnone (h.1 ▸ List.mem_append_right _ List.mem_cons_self)
  · obtain ⟨c, rest, hrest⟩ := List.exists_cons_of_ne_nil (mt String.toList_eq_nil_iff.mp hkey)
    rw [h.1, hrest] at hfirst
    exact h.2 (hrest ▸ Option.some.inj hfirst ▸ List.mem_cons_self)

/-- A piece that is neither blank nor at fault is read as the label in it. -/
theorem exists_pair_eq_ok (hblank : Blank.trim piece ≠ []) (h : ¬ Faulty piece) :
    ∃ label, found piece = some label ∧ pair (Blank.trim piece) = .ok label := by
  obtain ⟨hmem, hfirst⟩ := not_or.mp fun hfault => h ⟨hblank, hfault⟩
  obtain ⟨key, value, htrim, hkey⟩ := List.eq_append_cons_of_mem (Decidable.not_not.mp hmem)
  have hcut := Pieces.cut?_eq_some_iff.mpr ⟨htrim, hkey⟩
  have hempty : key ≠ [] := fun hempty => hfirst (by rw [htrim, hempty]; rfl)
  refine ⟨_, congrArg (Option.map _) hcut, ?_⟩
  unfold pair
  rw [hcut]
  exact if_pos hempty

/-- A piece at fault is complained about. -/
theorem pair_eq_error (h : Faulty piece) : pair (Blank.trim piece) = .error (complaint piece) := by
  unfold pair
  split
  · rename_i key value hcut
    obtain ⟨htrim, hkey⟩ := Pieces.cut?_eq_some_iff.mp hcut
    split
    · rename_i hempty
      have hholds : Holds piece (String.ofList key) (String.ofList value) := by
        rw [Holds, String.toList_ofList, String.toList_ofList]
        exact ⟨htrim, hkey⟩
      exact (not_faulty_of_holds hholds (mt String.ofList_eq_empty_iff.mp hempty) h).elim
    · rfl
  · rfl

/-! ## All pieces -/

/-- Of pieces that are at fault one is the first. -/
theorem exists_first_faulty (hpiece : piece ∈ ps) (hfault : Faulty piece) : ∃ first front back,
    ps = front ++ first :: back ∧ Faulty first ∧ ∀ before ∈ front, ¬ Faulty before := by
  have hsome : (ps.find? fun p => decide (Faulty p)).isSome = true :=
    List.find?_isSome.mpr ⟨piece, hpiece, decide_eq_true hfault⟩
  obtain ⟨first, hfirst⟩ := Option.isSome_iff_exists.mp hsome
  obtain ⟨hfault, front, back, hps, hfront⟩ := List.find?_eq_some_iff_append.mp hfirst
  refine ⟨first, front, back, hps, of_decide_eq_true hfault, fun before hbefore => ?_⟩
  exact of_decide_eq_false (Bool.not_eq_eq_eq_not.mp (hfront before hbefore))

/-- Pieces without fault are read one by one. -/
theorem mapM_pair_of_sound (h : ∀ piece ∈ ps, ¬ Faulty piece) :
    ((ps.map Blank.trim).filter (· ≠ [])).mapM pair = .ok (ps.filterMap found) := by
  induction ps with
  | nil => rfl
  | cons piece ps ih =>
    obtain ⟨hpiece, hps⟩ := List.forall_mem_cons.mp h
    rw [List.map_cons, List.filter_cons, List.filterMap_cons]
    by_cases hblank : Blank.trim piece = []
    · rw [if_neg (by simpa using hblank), found_of_blank hblank, ih hps]
    · obtain ⟨label, hfound, hpair⟩ := exists_pair_eq_ok hblank hpiece
      rw [if_pos (by simpa using hblank), List.mapM_cons, hpair, hfound, ih hps]
      rfl

/-- The first piece at fault is complained about. -/
theorem mapM_pair_of_faulty {back : List (List Char)} (h : ∀ before ∈ ps, ¬ Faulty before)
    (hfault : Faulty piece) :
    (((ps ++ piece :: back).map Blank.trim).filter (· ≠ [])).mapM pair = .error (complaint piece) := by
  rw [List.map_append, List.filter_append, List.mapM_append, mapM_pair_of_sound h, List.map_cons, List.filter_cons,
    if_pos (by simpa using hfault.1), List.mapM_cons, pair_eq_error hfault]
  rfl

theorem parse_of_sound (h : ∀ piece ∈ Pieces.split ',' text.toList, ¬ Faulty piece) :
    parse text = .ok (TextMap.ofList ((Pieces.split ',' text.toList).filterMap found)) := by
  rw [parse, pieces, mapM_pair_of_sound h]
  rfl

theorem parse_of_faulty {back : List (List Char)} (hsplit : Pieces.split ',' text.toList = ps ++ piece :: back)
    (h : ∀ before ∈ ps, ¬ Faulty before) (hfault : Faulty piece) : parse text = .error (complaint piece) := by
  rw [parse, pieces, hsplit, mapM_pair_of_faulty h hfault]
  rfl

/-- A text is refused just if a piece of it is at fault. -/
theorem exists_parse_error :
    (∃ e, parse text = .error e) ↔ ∃ piece ∈ Pieces.split ',' text.toList, Faulty piece := by
  constructor
  · rintro ⟨e, he⟩
    refine Classical.byContradiction fun hnone => ?_
    rw [parse_of_sound fun piece hpiece hfault => hnone ⟨piece, hpiece, hfault⟩] at he
    cases he
  · rintro ⟨piece, hpiece, hfault⟩
    obtain ⟨piece, front, back, hsplit, hfault, hfront⟩ := exists_first_faulty hpiece hfault
    exact ⟨_, parse_of_faulty hsplit hfront hfault⟩

/-- The last piece with a key counts. -/
theorem get?_found : TextMap.get? key (TextMap.ofList (ps.filterMap found)) = some value ↔
    ∃ front piece back, ps = front ++ piece :: back ∧ Holds piece key value ∧
      ∀ later ∈ back, ∀ other, ¬ Holds later key other := by
  simp only [TextMap.get?_ofList_reverse, ← List.filterMap_reverse, Pairs.lookup_filterMap_eq_some_iff, ne_eq,
    found_eq_some_iff]
  constructor
  · rintro ⟨before, piece, after, hps, hpiece, hbefore⟩
    refine ⟨after.reverse, piece, before.reverse, ?_, hpiece, fun later hlater => ?_⟩
    · rw [← List.reverse_reverse ps, hps, List.reverse_append, List.reverse_cons, List.append_assoc,
        List.singleton_append]
    · exact hbefore later (List.mem_reverse.mp hlater)
  · rintro ⟨front, piece, back, rfl, hpiece, hback⟩
    refine ⟨back.reverse, piece, front.reverse, ?_, hpiece, fun later hlater => ?_⟩
    · rw [List.reverse_append, List.reverse_cons, List.append_assoc, List.singleton_append]
    · exact hback later (List.mem_reverse.mp hlater)

/-! ## Labels written -/

/-- A label that can be written: its key is not empty, has neither a comma nor an equals sign and does not start with
a blank, and its value has no comma and does not end with a blank. -/
structure Writable (label : String × String) : Prop where
  key_ne : label.1 ≠ ""
  key_comma : ',' ∉ label.1.toList
  key_equals : '=' ∉ label.1.toList
  key_start : ∀ c ∈ label.1.toList.head?, Blank.isBlank c = false
  value_comma : ',' ∉ label.2.toList
  value_end : ∀ c ∈ label.2.toList.getLast?, Blank.isBlank c = false

/-- A label with blanks before and behind it. -/
structure Spaced where
  left : List Char
  label : String × String
  right : List Char
  left_blank : ∀ c ∈ left, Blank.isBlank c = true
  right_blank : ∀ c ∈ right, Blank.isBlank c = true

namespace Spaced

variable {s : Spaced}

/-- The label as it is written: its key, an equals sign and its value, with the blanks around it. -/
def toList (s : Spaced) : List Char := s.left ++ (s.label.1.toList ++ '=' :: s.label.2.toList) ++ s.right

theorem holds_toList (h : Writable s.label) : Holds s.toList s.label.1 s.label.2 := by
  refine ⟨Blank.trim_eq_iff.mpr ⟨s.left, s.right, rfl, s.left_blank, s.right_blank, ?_, ?_⟩, h.key_equals⟩
  · obtain ⟨c, rest, hkey⟩ := List.exists_cons_of_ne_nil (mt String.toList_eq_nil_iff.mp h.key_ne)
    have hstart := h.key_start
    rw [hkey] at hstart ⊢
    exact hstart
  · intro c hc
    rw [List.getLast?_append, List.getLast?_cons, Option.some_or, Option.mem_some_iff] at hc
    cases hvalue : s.label.2.toList.getLast? with
    | none =>
      rw [hvalue] at hc
      exact hc ▸ by decide
    | some last =>
      rw [hvalue] at hc
      exact h.value_end c (hvalue.trans (congrArg some hc))

theorem comma_notMem_toList (h : Writable s.label) : ',' ∉ s.toList := by
  have hblank (blanks : List Char) (hblanks : ∀ c ∈ blanks, Blank.isBlank c = true) : ',' ∉ blanks :=
    fun hcomma => absurd (hblanks _ hcomma) (by decide)
  simp only [toList, List.mem_append, List.mem_cons, not_or]
  exact ⟨⟨hblank _ s.left_blank, h.key_comma, by decide, h.value_comma⟩, hblank _ s.right_blank⟩

end Spaced

/-- Labels with commas between them. -/
def joined (entries : List Spaced) : String := String.ofList (Pieces.join [','] (entries.map Spaced.toList))

theorem filterMap_found {entries : List Spaced} (h : ∀ s ∈ entries, Writable s.label) :
    (entries.map Spaced.toList).filterMap found = entries.map Spaced.label := by
  induction entries with
  | nil => rfl
  | cons s entries ih =>
    obtain ⟨hs, hentries⟩ := List.forall_mem_cons.mp h
    rw [List.map_cons, List.filterMap_cons, found_eq_some_iff.mpr (Spaced.holds_toList hs), ih hentries, List.map_cons]

/-- Labels are read as they were written. -/
theorem parse_joined {entries : List Spaced} (h : ∀ s ∈ entries, Writable s.label) :
    parse (joined entries) = .ok (TextMap.ofList (entries.map Spaced.label)) := by
  cases entries with
  | nil => rfl
  | cons first rest =>
    have hsplit : Pieces.split ',' (joined (first :: rest)).toList = (first :: rest).map Spaced.toList := by
      rw [joined, String.toList_ofList]
      refine Pieces.split_join (List.forall_mem_map.mpr fun s hs => Spaced.comma_notMem_toList (h s hs)) ?_
      exact List.cons_ne_nil _ _
    rw [parse_of_sound, hsplit]
    · rw [filterMap_found h]
    · rw [hsplit]
      exact List.forall_mem_map.mpr fun s hs => not_faulty_of_holds (Spaced.holds_toList (h s hs)) (h s hs).key_ne

/-- A text is refused just if a piece of it is at fault. Any other text is read as a map that has, under each key, the
value of the last piece with the key, and nothing else. So a map is read as it was written, whatever the order of its
labels and the blanks around the commas. -/
theorem parse_exact :
    (∀ text, (∃ e, parse text = .error e) ↔ ∃ piece ∈ Pieces.split ',' text.toList, Faulty piece) ∧
    (∀ text, (∀ piece ∈ Pieces.split ',' text.toList, ¬ Faulty piece) →
      ∃ m, parse text = .ok m ∧ m.Sorted ∧ ∀ key value, m.get? key = some value ↔
        ∃ front piece back, Pieces.split ',' text.toList = front ++ piece :: back ∧ Holds piece key value ∧
          ∀ later ∈ back, ∀ other, ¬ Holds later key other) ∧
    ∀ m : TextMap, m.Sorted → (∀ label ∈ m, Writable label) →
      ∀ entries : List Spaced, (entries.map Spaced.label).Perm m → parse (joined entries) = .ok m := by
  refine ⟨fun text => exists_parse_error, fun text hsound => ?_, fun m hm hlabels entries hperm => ?_⟩
  · exact ⟨_, parse_of_sound hsound, TextMap.sorted_ofList _, fun key value => get?_found⟩
  · rw [parse_joined fun s hs => hlabels _ (hperm.mem_iff.mp (List.mem_map_of_mem hs)), hm.ofList_eq hperm]

/-- Two labels out of order, with blanks around them. -/
def Sample.entries : List Spaced :=
  [⟨[' '], ("zone", "a=b"), [], List.all_eq_true.mp rfl, List.all_eq_true.mp rfl⟩,
    ⟨['\t'], ("tier", ""), [' '], List.all_eq_true.mp rfl, List.all_eq_true.mp rfl⟩]

theorem parse_exact_samples :
    joined Sample.entries = " zone=a=b,\ttier= " ∧
      parse (joined Sample.entries) = .ok [("tier", ""), ("zone", "a=b")] ∧
      (∃ m, parse "a=1, ,a=2" = .ok m ∧ m.get? "a" = some "2") ∧ ∃ e, parse "a=1,b" = .error e := by
  obtain ⟨herror, hread, hjoined⟩ := parse_exact
  refine ⟨by decide, hjoined _ ?_ ?_ _ (List.Perm.swap ..), ?_, (herror _).mpr ?_⟩
  · exact List.pairwise_pair.mpr (by decide)
  · simp only [List.forall_mem_cons, List.not_mem_nil, false_implies, implies_true, and_true]
    exact ⟨⟨by decide, by decide, by decide, fun c hc => Option.some.inj hc ▸ rfl, by decide, nofun⟩,
      ⟨by decide, by decide, by decide, fun c hc => Option.some.inj hc ▸ rfl, by decide,
        fun c hc => Option.some.inj hc ▸ rfl⟩⟩
  · obtain ⟨m, hm, -, hget⟩ := hread "a=1, ,a=2" (by decide)
    refine ⟨m, hm, (hget "a" "2").mpr ⟨["a=1".toList, [' ']], "a=2".toList, [], rfl, ?_, nofun⟩⟩
    exact ⟨by decide, by decide⟩
  · exact ⟨['b'], by decide, by decide⟩

end BlobDisk.Labels
