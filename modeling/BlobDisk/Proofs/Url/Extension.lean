import BlobDisk.Proofs.Text.Decimal
import BlobDisk.Proofs.Url.Host
import BlobDisk.Proofs.Url.Path

/-!
# Addresses with more text behind them

An address of the web that was read, written as a text again, goes on up to its path or into its query, if
it has no fragment. Two more pieces become the end of the path or of the query.

* `Url.Hosted`: the schemes that always name a host;
* `Url.Ending`: two pieces that stand for themselves, and possibly a fragment, at the end of an address;
* `Url.Hosted.exists_parse`: what an address is when two such pieces are put behind its text;
* `Url.exists_text`: the text of an address that was read;
* `Url.target_extend_eq_iff`: the pieces are told apart by what a request names.
-/

namespace BlobDisk.Url

variable {c : Char} {scheme front text container name : List Char}

/-! ## Schemes -/

/-- The scheme is one of those that always name a host. -/
def Hosted (scheme : List Char) : Prop := (specialPorts.lookup scheme).isSome = true

instance : Decidable (Hosted scheme) := inferInstanceAs (Decidable (_ = true))

namespace Hosted

theorem mem (h : Hosted scheme) : scheme ∈ specialPorts.map Prod.fst := by
  obtain ⟨port, hport⟩ := Option.isSome_iff_exists.mp h
  obtain ⟨before, after, hsplit, -⟩ := List.lookup_eq_some_iff.mp hport
  exact List.mem_map.mpr ⟨(scheme, port), hsplit ▸ List.mem_append_right _ List.mem_cons_self, rfl⟩

theorem special (h : Hosted scheme) : isSpecial scheme = true := by
  rw [isSpecial, h, Bool.true_or]

theorem ne_file (h : Hosted scheme) : scheme ≠ "file".toList := by
  rintro rfl
  exact absurd h (by decide)

/-- The scheme is read from its text. -/
theorem scheme?_append (h : Hosted scheme) (rest : List Char) :
    scheme? (scheme ++ ':' :: rest) = some (scheme, rest) := by
  have hmem := h.mem
  simp only [specialPorts, List.map_cons, List.map_nil, List.mem_cons, List.not_mem_nil, or_false] at hmem
  rcases hmem with rfl | rfl | rfl | rfl | rfl <;> rfl

theorem visible (h : Hosted scheme) : scheme ≠ [] ∧ ∀ c ∈ scheme, 0x20 < c.toNat := by
  have hall : ∀ scheme ∈ specialPorts.map Prod.fst,
      scheme ≠ [] ∧ scheme.all (fun c => decide (0x20 < c.toNat)) = true := by decide
  obtain ⟨hne, hvisible⟩ := hall scheme h.mem
  exact ⟨hne, fun c hc => of_decide_eq_true (List.all_eq_true.mp hvisible c hc)⟩

end Hosted

/-! ## Blanks and breaks -/

/-- The character is no break, so that it is not left out of an address. -/
def isKept (c : Char) : Bool := c ≠ '\t' && c ≠ '\n' && c ≠ '\r'

theorem isKept_of_ne (h : c ≠ '\t' ∧ c ≠ '\n' ∧ c ≠ '\r') : isKept c = true := by
  rw [isKept, decide_eq_true h.1, decide_eq_true h.2.1, decide_eq_true h.2.2]
  rfl

theorem isKept_of_visible (h : 0x20 < c.toNat) : isKept c = true := by
  have hne : ∀ d : Char, d.toNat ≤ 0x20 → c ≠ d := fun d hd hcd => Nat.not_le_of_lt h (hcd ▸ hd)
  exact isKept_of_ne ⟨hne '\t' (by decide), hne '\n' (by decide), hne '\r' (by decide)⟩

theorem dropWhile_eq_self {p : Char → Bool} (h : ∀ c ∈ text.head?, p c = false) : text.dropWhile p = text := by
  cases text with
  | nil => rfl
  | cons c text => rw [List.dropWhile_cons_of_neg (by simpa using h c rfl)]

/-- Only breaks are left out of a text that has no blanks at its ends. -/
theorem clean_eq (hfirst : ∀ c ∈ text.head?, 0x20 < c.toNat) (hlast : ∀ c ∈ text.getLast?, 0x20 < c.toNat) :
    clean text = text.filter isKept := by
  have hblank : ∀ c : Char, 0x20 < c.toNat → decide (c.toNat ≤ 0x20) = false := fun c hc =>
    decide_eq_false (Nat.not_le_of_lt hc)
  unfold clean
  dsimp only
  rw [dropWhile_eq_self fun c hc => hblank c (hfirst c hc),
    dropWhile_eq_self fun c hc => hblank c (hlast c (List.head?_reverse ▸ hc)), List.reverse_reverse]
  rfl

/-- Two pieces that stand for themselves, and what follows them up to the end of an address: nothing, or a
fragment with its mark. The end is no blank, which would be left out. -/
structure Ending (container name trailer : List Char) : Prop where
  front : Verbatim container
  back : Verbatim name
  mark : ∀ c ∈ trailer.head?, c = '#'
  visible : ∀ c ∈ (name ++ trailer).getLast?, 0x20 < c.toNat

theorem ending_iff {trailer : List Char} : Ending container name trailer ↔ Verbatim container ∧ Verbatim name ∧
    trailer.head?.all (· = '#') = true ∧ (name ++ trailer).getLast?.all (fun c => 0x20 < c.toNat) = true := by
  rw [Option.all_eq_true, Option.all_eq_true]
  constructor
  · rintro ⟨hfront, hback, hmark, hvisible⟩
    exact ⟨hfront, hback, fun c hc => decide_eq_true (hmark c hc), fun c hc => decide_eq_true (hvisible c hc)⟩
  · rintro ⟨hfront, hback, hmark, hvisible⟩
    exact ⟨hfront, hback, fun c hc => of_decide_eq_true (hmark c hc),
      fun c hc => of_decide_eq_true (hvisible c hc)⟩

instance {trailer : List Char} : Decidable (Ending container name trailer) := decidable_of_iff _ ending_iff.symm

/-- The fragment that a text with its mark holds. -/
def fragmentOf : List Char → Option (List Char)
  | [] => none
  | _ :: text => some (Percent.encode Percent.fragmentSet (text.filter isKept))

theorem joined_pair (a b : List Char) : joined [a, b] = '/' :: (a ++ '/' :: b) := by simp [joined]

namespace Ending

variable {trailer : List Char}

theorem notMem (h : Ending container name trailer) (hc : c ∈ marks) (hslash : c ≠ '/') :
    c ∉ joined [container, name] := by
  simp [joined_pair, hslash, h.front.notMem hc, h.back.notMem hc]

theorem filter_joined (h : Ending container name trailer) :
    (joined [container, name]).filter isKept = joined [container, name] := by
  refine List.filter_eq_self.mpr fun c hc => ?_
  have hne : ∀ d ∈ marks, d ≠ '/' → c ≠ d := fun d hd hslash hcd => h.notMem hd hslash (hcd ▸ hc)
  exact isKept_of_ne ⟨hne '\t' (by decide) (by decide), hne '\n' (by decide) (by decide),
    hne '\r' (by decide) (by decide)⟩

/-- All that may change of an address around the pieces are its breaks. -/
theorem clean_append (h : Ending container name trailer) (hscheme : Hosted scheme) (front : List Char) :
    clean (scheme ++ ':' :: (front ++ (joined [container, name] ++ trailer))) =
      scheme ++ ':' :: (front.filter isKept ++ (joined [container, name] ++ trailer.filter isKept)) := by
  obtain ⟨hne, hvisible⟩ := hscheme.visible
  rw [clean_eq]
  · have hkept : scheme.filter isKept = scheme :=
      List.filter_eq_self.mpr fun c hc => isKept_of_visible (hvisible c hc)
    rw [List.filter_append, List.filter_cons_of_pos (by decide), List.filter_append, List.filter_append, hkept,
      h.filter_joined]
  · rw [List.head?_append, Option.or_of_isSome (by simpa using hne)]
    exact fun c hc => hvisible c (List.mem_of_head? hc)
  · have hlast : (scheme ++ ':' :: (front ++ (joined [container, name] ++ trailer))).getLast? =
        some ((name ++ trailer).getLast?.getD '/') := by
      rw [joined_pair, List.cons_append, List.append_assoc, List.cons_append]
      simp only [List.getLast?_append, List.getLast?_cons, Option.some_or, Option.getD_some]
    rw [hlast]
    rintro c ⟨⟩
    cases hname : (name ++ trailer).getLast? with
    | none => decide
    | some d => exact h.visible d hname

end Ending

/-! ## Authorities and paths -/

theorem mem_dropWhile {p : Char → Bool} (hc : c ∈ text) (h : p c = false) : c ∈ text.dropWhile p := by
  have hmem : c ∈ text.takeWhile p ++ text.dropWhile p := List.takeWhile_append_dropWhile ▸ hc
  refine (List.mem_append.mp hmem).resolve_left fun htake => ?_
  exact Bool.false_ne_true (h.symm.trans (List.all_eq_true.mp List.all_takeWhile c htake))

theorem dropWhile_append_of_mem {p : Char → Bool} (hc : c ∈ text) (h : p c = false) (back : List Char) :
    (text ++ back).dropWhile p = text.dropWhile p ++ back := by
  rw [List.dropWhile_append, if_neg]
  exact fun hempty => List.ne_nil_of_mem (mem_dropWhile hc h) (List.isEmpty_iff.mp hempty)

theorem dropWhile_append_of_stop {p : Char → Bool} {rest : List Char} (h : p c = false) (front : List Char) :
    (front ++ c :: rest).dropWhile p = front.dropWhile p ++ c :: rest := by
  induction front with
  | nil => exact List.dropWhile_cons_of_neg (Bool.eq_false_iff.mp h)
  | cons d front ih =>
    rw [List.cons_append, List.dropWhile_cons, List.dropWhile_cons, ih]
    split <;> rfl

theorem takeWhile_append_of_stop {p : Char → Bool} {rest : List Char} (h : p c = false) (front : List Char) :
    (front ++ c :: rest).takeWhile p = front.takeWhile p := by
  induction front with
  | nil => exact List.takeWhile_cons_of_neg (Bool.eq_false_iff.mp h)
  | cons d front ih => rw [List.cons_append, List.takeWhile_cons, List.takeWhile_cons, ih]

/-- The character is a slash, also in its other form. -/
def isSlash (c : Char) : Bool := c = '/' || c = '\\'

/-- The authority and the path behind the scheme, with any number of slashes before them. -/
theorem Hosted.hierarchy_eq (h : Hosted scheme) (text : List Char) (atEnd : Bool) :
    hierarchy scheme text atEnd =
      let rest := text.dropWhile isSlash
      let path := rest.dropWhile fun c => !endsAuthority true c
      (parseAuthority scheme (rest.takeWhile fun c => !endsAuthority true c) (atEnd && path.isEmpty)).map
        fun found => (some found.1, joined (rootedPieces scheme (found.2 ++ path))) := by
  have hslash : (fun c : Char => decide (c = '/') || (true && decide (c = '\\'))) = isSlash := by
    funext c
    rw [isSlash, Bool.true_and]
  unfold hierarchy
  simp only [h.special, h.ne_file, if_false, if_true, hslash, Bool.true_eq_false, and_false]
  cases parseAuthority _ _ _ <;> rfl

/-- With two pieces that stand for themselves behind it, a text with a host is still one with that host, and they
are the last of its path, or there is no such address. -/
theorem Hosted.exists_hierarchy (h : Hosted scheme) (hfront : ∃ c ∈ front, isSlash c = false) :
    (∃ fault, ∀ container name atEnd, Verbatim container → Verbatim name →
      hierarchy scheme (front ++ joined [container, name]) atEnd = .error fault) ∨
    ∃ found path, ∀ container name atEnd, Verbatim container → Verbatim name →
      hierarchy scheme (front ++ joined [container, name]) atEnd =
        .ok (found, path ++ joined ([container, name].map (Percent.encode Percent.pathSet))) := by
  let rest := front.dropWhile isSlash
  let path := rest.dropWhile fun c => !endsAuthority true c
  obtain ⟨c, hc, hslash⟩ := hfront
  have hrest : ∀ back, (front ++ back).dropWhile isSlash = rest ++ back := dropWhile_append_of_mem hc hslash
  have hstop : (!endsAuthority true '/') = false := by decide
  have hhierarchy : ∀ container name atEnd, hierarchy scheme (front ++ joined [container, name]) atEnd =
      (parseAuthority scheme (rest.takeWhile fun c => !endsAuthority true c) false).map fun found =>
        (some found.1, joined (rootedPieces scheme (found.2 ++ (path ++ joined [container, name])))) := by
    intro container name atEnd
    rw [h.hierarchy_eq]
    dsimp only
    rw [hrest, joined_pair, takeWhile_append_of_stop hstop, dropWhile_append_of_stop hstop,
      List.isEmpty_eq_false_iff.mpr (List.append_ne_nil_of_right_ne_nil _ (List.cons_ne_nil _ _)), Bool.and_false]
  cases hauthority : parseAuthority scheme (rest.takeWhile fun c => !endsAuthority true c) false with
  | error fault =>
    refine .inl ⟨fault, fun container name atEnd _ _ => ?_⟩
    rw [hhierarchy, hauthority]
    rfl
  | ok found =>
    obtain ⟨kept, hkept⟩ := exists_rootedPieces h.special h.ne_file (found.2 ++ path)
    refine .inr ⟨some found.1, joined kept, fun container name atEnd hc hn => ?_⟩
    rw [hhierarchy, hauthority, Except.map, ← List.append_assoc, hkept container name hc hn, joined,
      List.flatMap_append]
    rfl

/-! ## Whole addresses -/

theorem cutAt_of_notMem (h : c ∉ text) : cutAt c text = (text, none) := by
  rw [cutAt, Pieces.cut?_of_notMem h]

theorem cutAt_append (h : c ∉ front) (rest : List Char) : cutAt c (front ++ c :: rest) = (front, some rest) := by
  rw [cutAt, Pieces.cut?_append h]

/-- The address with two more pieces, at the end of its query if it has one, else of its path, and with a
fragment. -/
def extend (u : Url) (container name trailer : List Char) : Url :=
  match u.query with
  | some q => { u with
      query := some (q ++ joined ([container, name].map (Percent.encode Percent.specialQuerySet)))
      fragment := fragmentOf trailer }
  | none => { u with
      path := u.path ++ joined ([container, name].map (Percent.encode Percent.pathSet))
      fragment := fragmentOf trailer }

theorem encode_joined (container name : List Char) :
    Percent.encode Percent.specialQuerySet (joined [container, name]) =
      joined ([container, name].map (Percent.encode Percent.specialQuerySet)) := by
  have hslash : Percent.encode Percent.specialQuerySet ['/'] = ['/'] := by decide
  have hcons : ∀ text, Percent.encode Percent.specialQuerySet ('/' :: text) =
      '/' :: Percent.encode Percent.specialQuerySet text := by
    intro text
    rw [← List.singleton_append, Percent.encode_append, hslash, List.singleton_append]
  rw [joined_pair, hcons, Percent.encode_append, hcons, List.map_cons, List.map_cons, List.map_nil, joined_pair]

/-- The fragment is cut off, and the rest is cut at the first question mark. -/
theorem Ending.parse_eq {trailer before : List Char} {query : Option (List Char)}
    (hend : Ending container name trailer) (h : Hosted scheme) (hmark : '#' ∉ front)
    (hcut : cutAt '?' (front.filter isKept ++ joined [container, name]) = (before, query)) :
    parse (scheme ++ ':' :: (front ++ (joined [container, name] ++ trailer))) =
      (hierarchy scheme before (query.isNone && trailer.isEmpty)).map fun found =>
        ⟨scheme, found.1, found.2, query.map (Percent.encode Percent.specialQuerySet), fragmentOf trailer⟩ := by
  have hfragment : '#' ∉ front.filter isKept ++ joined [container, name] := fun hmem =>
    (List.mem_append.mp hmem).elim (fun hkept => hmark (List.mem_filter.mp hkept).1)
      (hend.notMem (by decide) (by decide))
  let fragment := trailer.head?.map fun _ => trailer.tail.filter isKept
  have hcutMark : cutAt '#' (front.filter isKept ++ (joined [container, name] ++ trailer.filter isKept)) =
      (front.filter isKept ++ joined [container, name], fragment) := by
    rw [← List.append_assoc]
    cases trailer with
    | nil => exact (congrArg (cutAt '#') (List.append_nil _)).trans (cutAt_of_notMem hfragment)
    | cons c text =>
      obtain rfl := hend.mark c rfl
      rw [List.filter_cons_of_pos (by decide)]
      exact cutAt_append hfragment _
  have hnone : fragment.isNone = trailer.isEmpty := by cases trailer <;> rfl
  have hencoded : fragment.map (Percent.encode Percent.fragmentSet) = fragmentOf trailer := by
    cases trailer <;> rfl
  rw [parse, hend.clean_append h, h.scheme?_append]
  dsimp only
  rw [hcutMark, hcut, h.special, if_pos rfl]
  dsimp only
  rw [hnone, hencoded]
  cases hierarchy _ _ _ <;> rfl

/-- What an address of the web is with two pieces behind its text: the same address with two more pieces and a
fragment, or no address, whatever the pieces. -/
theorem Hosted.exists_parse (h : Hosted scheme) (hmark : '#' ∉ front)
    (hfront : ∃ c ∈ front, Host.isInner c = true) :
    (∃ fault, ∀ container name trailer, Ending container name trailer →
      parse (scheme ++ ':' :: (front ++ (joined [container, name] ++ trailer))) = .error fault) ∨
    ∃ u : Url, ∀ container name trailer, Ending container name trailer →
      parse (scheme ++ ':' :: (front ++ (joined [container, name] ++ trailer))) =
        .ok (u.extend container name trailer) := by
  by_cases hquery : '?' ∈ front.filter isKept
  · -- The pieces are part of the query, and what is before it does not depend on them.
    obtain ⟨before, after, hsplit, hbefore⟩ := List.eq_append_cons_of_mem hquery
    have hcut : ∀ container name, cutAt '?' (front.filter isKept ++ joined [container, name]) =
        (before, some (after ++ joined [container, name])) := fun container name => by
      rw [hsplit, List.append_assoc, List.cons_append, cutAt_append hbefore]
    cases hhierarchy : hierarchy scheme before false with
    | error fault =>
      refine .inl ⟨fault, fun container name trailer hend => ?_⟩
      rw [hend.parse_eq h hmark (hcut container name), Option.isNone_some, Bool.false_and, hhierarchy]
      rfl
    | ok found =>
      refine .inr ⟨⟨scheme, found.1, found.2, some (Percent.encode Percent.specialQuerySet after), none⟩,
        fun container name trailer hend => ?_⟩
      rw [hend.parse_eq h hmark (hcut container name), Option.isNone_some, Bool.false_and, hhierarchy, extend,
        Option.map_some, Percent.encode_append, encode_joined]
      rfl
  · have hcut : ∀ {container name trailer}, Ending container name trailer →
        cutAt '?' (front.filter isKept ++ joined [container, name]) =
          (front.filter isKept ++ joined [container, name], none) :=
      fun hend => cutAt_of_notMem fun hmem =>
        (List.mem_append.mp hmem).elim hquery (hend.notMem (by decide) (by decide))
    have hslash : ∃ c ∈ front.filter isKept, isSlash c = false := by
      obtain ⟨c, hc, hinner⟩ := hfront
      simp only [Host.isInner, Bool.and_eq_true, decide_eq_true_eq] at hinner
      obtain ⟨⟨⟨⟨hvisible, hslash⟩, hback⟩, -⟩, -⟩ := hinner
      refine ⟨c, List.mem_filter.mpr ⟨hc, isKept_of_visible hvisible⟩, ?_⟩
      rw [isSlash, decide_eq_false hslash, decide_eq_false hback, Bool.or_false]
    rcases h.exists_hierarchy hslash with ⟨fault, hfault⟩ | ⟨found, path, hpath⟩
    · refine .inl ⟨fault, fun container name trailer hend => ?_⟩
      rw [hend.parse_eq h hmark (hcut hend), hfault _ _ _ hend.front hend.back]
      rfl
    · refine .inr ⟨⟨scheme, found, path, none, none⟩, fun container name trailer hend => ?_⟩
      rw [hend.parse_eq h hmark (hcut hend), hpath _ _ _ hend.front hend.back]
      rfl

/-! ## Addresses that were read -/

variable {atEnd : Bool} {a : Authority} {after : List Char} {u : Url}

theorem mark_notMem_encode {set : UInt8 → Bool} (hset : Percent.Reversible set) (hmark : set 35 = true) :
    '#' ∉ Percent.encode set text :=
  Percent.notMem_encode hset ⟨by decide, by decide⟩ (.inl hmark)

theorem mark_notMem_userParts (text : List Char) : '#' ∉ (userParts text).1 ∧ '#' ∉ (userParts text).2 := by
  have hencode : ∀ text, '#' ∉ Percent.encode Percent.userSet text := fun text =>
    mark_notMem_encode Percent.reversible_userSet (by decide)
  unfold userParts
  split
  · exact ⟨hencode _, hencode _⟩
  · exact ⟨hencode _, nofun⟩

/-- The parts of an authority that was read. -/
theorem Hosted.parts_of_parseAuthority (h : Hosted scheme)
    (hparse : parseAuthority scheme text atEnd = .ok (a, after)) :
    ∃ userText hostText, userParts userText = (a.user, a.password) ∧ Host.parse hostText = .ok a.host := by
  simp only [parseAuthority, h.special, true_or, and_true, if_true] at hparse
  split at hparse
  · split at hparse
    · cases hparse
    · simp only [pure_bind, guard_eq_ok, bind_eq_ok, pure_eq_ok, Prod.mk.injEq] at hparse
      obtain ⟨-, host, hhost, number, -, rfl, rfl⟩ := hparse
      exact ⟨_, _, rfl, hhost⟩
  · simp only [pure_bind, guard_eq_ok, bind_eq_ok, pure_eq_ok, Prod.mk.injEq] at hparse
    obtain ⟨-, host, hhost, number, -, rfl, rfl⟩ := hparse
    exact ⟨[], _, rfl, hhost⟩

/-- The text of an authority has a host and no mark. -/
theorem Hosted.text_of_parseAuthority (h : Hosted scheme)
    (hparse : parseAuthority scheme text atEnd = .ok (a, after)) :
    '#' ∉ Authority.text a ∧ ∃ c ∈ Authority.text a, Host.isInner c = true := by
  obtain ⟨userText, hostText, huser, hhost⟩ := h.parts_of_parseAuthority hparse
  obtain ⟨hne, hinner⟩ := Host.inner_of_parse hhost
  have hmarks := mark_notMem_userParts userText
  rw [huser] at hmarks
  constructor
  · simp only [Authority.text, List.mem_append, not_or]
    refine ⟨⟨⟨by decide, ?_⟩, fun hmem => Bool.false_ne_true (hinner '#' hmem)⟩, ?_⟩
    · split
      · exact nofun
      · split
        · simp [hmarks.1]
        · simp [hmarks.1, hmarks.2]
    · split
      · exact List.not_mem_cons_of_ne_of_not_mem (by decide) (Decimal.notMem_toString (by decide) _)
      · exact nofun
  · obtain ⟨c, rest, hcons⟩ := List.exists_cons_of_ne_nil hne
    have hc : c ∈ a.host.text.toList := hcons ▸ List.mem_cons_self
    exact ⟨c, by simp [Authority.text, hc], hinner c hc⟩

theorem Hosted.mark_notMem_rootedPieces (h : Hosted scheme) (path : List Char) :
    '#' ∉ joined (rootedPieces scheme path) := by
  have hpieces : ∀ piece ∈ rootedPieces scheme path, '#' ∉ piece := by
    simp only [rootedPieces, h.ne_file, decide_false]
    refine forall_mem_resolve List.not_mem_nil (List.forall_mem_nil _) fun piece hpiece => ?_
    obtain ⟨text, -, rfl⟩ := List.mem_map.mp hpiece
    exact mark_notMem_encode Percent.reversible_pathSet (by decide)
  simpa [joined] using hpieces

/-- The parts of an address of the web that was read. -/
theorem parts_of_parse (hparse : parse text = .ok u) (h : Hosted u.scheme) : ∃ a, u.authority = some a ∧
    ('#' ∉ Authority.text a ∧ ∃ c ∈ Authority.text a, Host.isInner c = true) ∧
      '#' ∉ u.path ∧ '#' ∉ u.queryText := by
  unfold parse at hparse
  split at hparse
  · cases hparse
  · simp only [bind_eq_ok, pure_eq_ok] at hparse
    obtain ⟨found, hfound, rfl⟩ := hparse
    dsimp only at h
    rw [h.hierarchy_eq, map_eq_ok] at hfound
    obtain ⟨⟨a, after⟩, hauthority, rfl⟩ := hfound
    refine ⟨a, rfl, h.text_of_parseAuthority hauthority, h.mark_notMem_rootedPieces _, ?_⟩
    simp only [queryText, h.special, if_true]
    cases (cutAt '?' _).2 with
    | none => exact nofun
    | some q =>
      exact List.not_mem_cons_of_ne_of_not_mem (by decide)
        (mark_notMem_encode Percent.reversible_specialQuerySet (by decide))

/-- The text of an address of the web that was read: a scheme, and then text with a host and, if there is no
fragment, without a mark. -/
theorem exists_text (hparse : parse text = .ok u) (h : Hosted u.scheme) (hfragment : u.fragment = none) :
    ∃ rest, u.text = u.scheme ++ ':' :: rest ∧ '#' ∉ rest ∧ ∃ c ∈ rest, Host.isInner c = true := by
  obtain ⟨a, hauthority, ⟨hmark, c, hc, hinner⟩, hpath, hquery⟩ := parts_of_parse hparse h
  refine ⟨Authority.text a ++ u.path ++ u.queryText, ?_, ?_, c, ?_, hinner⟩
  · simp [Url.text, authorityText, fragmentText, hauthority, hfragment]
  · simp only [List.mem_append, not_or]
    exact ⟨⟨hmark, hpath⟩, hquery⟩
  · exact List.mem_append_left _ (List.mem_append_left _ hc)

/-! ## Targets -/

/-- Pairs behind a query that is not empty leave it as it is. -/
theorem append_pairs (pairs : List (String × String)) {q : List Char} (h : q ≠ []) :
    Form.append q pairs = q ++ pairs.flatMap fun pair => '&' :: Form.encodePair pair := by
  unfold Form.append
  induction pairs generalizing q with
  | nil => exact (List.append_nil q).symm
  | cons pair pairs ih =>
    rw [List.foldl_cons, if_neg h, ih (List.append_ne_nil_of_left_ne_nil h _), List.flatMap_cons,
      List.append_assoc]

/-- What a request names of the extended address: the two pieces with texts around them that do not depend on
them. The fragment it does not name. -/
theorem exists_target_extend (u : Url) (pairs : List (String × String)) : ∃ set before behind,
    Percent.Reversible set ∧ ∀ container name trailer, ((u.extend container name trailer).withPairs pairs).target =
      before ++ (joined ([container, name].map (Percent.encode set)) ++ behind) := by
  cases hquery : u.query with
  | none =>
    let added := { u with query := some (Form.append [] pairs) }
    refine ⟨Percent.pathSet, u.path, if pairs = [] then [] else added.queryText, Percent.reversible_pathSet,
      fun container name trailer => ?_⟩
    by_cases hpairs : pairs = []
    · simp [extend, withPairs, target, queryText, hquery, hpairs]
    · simp [extend, withPairs, target, queryText, hquery, hpairs, added]
  | some q =>
    refine ⟨Percent.specialQuerySet, u.path ++ '?' :: q, pairs.flatMap fun pair => '&' :: Form.encodePair pair,
      Percent.reversible_specialQuerySet, fun container name trailer => ?_⟩
    have hne : q ++ joined [Percent.encode Percent.specialQuerySet container,
        Percent.encode Percent.specialQuerySet name] ≠ [] := by simp [joined]
    by_cases hpairs : pairs = []
    · simp [extend, withPairs, target, queryText, hquery, hpairs]
    · simp [extend, withPairs, target, queryText, hquery, hpairs, append_pairs _ hne]

/-- Two pieces that stand for themselves are told apart by what a request names, and what follows them is not. -/
theorem target_extend_eq_iff {a b t a' b' t' : List Char} {pairs : List (String × String)} (h : Ending a b t)
    (h' : Ending a' b' t') :
    ((u.extend a b t).withPairs pairs).target = ((u.extend a' b' t').withPairs pairs).target ↔
      a = a' ∧ b = b' := by
  obtain ⟨set, before, behind, hset, htarget⟩ := u.exists_target_extend pairs
  rw [htarget, htarget]
  constructor
  · intro heq
    have hjoined := List.append_cancel_right (List.append_cancel_left heq)
    obtain ⟨hfront, hback⟩ := joined_inj (slash_notMem_encode hset (h.front.notMem (by decide)))
      (slash_notMem_encode hset (h'.front.notMem (by decide))) hjoined
    exact ⟨Percent.encode_inj hset h.front.plain h'.front.plain hfront,
      Percent.encode_inj hset h.back.plain h'.back.plain hback⟩
  · rintro ⟨rfl, rfl⟩
    rfl

end BlobDisk.Url
