import BlobDisk.Proofs.Text.Pieces
import BlobDisk.Proofs.Url.Percent
import BlobDisk.Url

/-!
# The last pieces of a path

A piece of a path may name a level, hold a mark that ends the path, or stand for bytes other than its own. Two
pieces that do none of this are the last two pieces of any path that they are put behind.

* `Url.Verbatim`: the pieces that stand for themselves;
* `Url.forall_mem_resolve`: what a resolved path is made of;
* `Url.exists_resolve`, `Url.exists_rootedPieces`: pieces that stand for themselves stay at the end;
* `Url.joined_inj`: paths of such pieces are told apart.
-/

namespace BlobDisk.Url

variable {c : Char} {piece text container name : List Char} {done pieces : List (List Char)}

/-! ## Pieces -/

/-- What is no part of a piece: the marks of addresses, and the breaks that are left out of them. -/
def marks : List Char := ['/', '\\', '?', '#', '\t', '\n', '\r']

/-- The piece stands for itself: it has no marks, names no level, and no sign in it is to be decoded. -/
structure Verbatim (piece : List Char) : Prop where
  unmarked : ∀ c ∈ piece, c ∉ marks
  dot : piece ≠ ['.']
  doubleDot : piece ≠ ['.', '.']
  plain : Percent.decode piece = Utf8.encode piece

theorem verbatim_iff : Verbatim piece ↔ piece.all (fun c => !marks.contains c) = true ∧ piece ≠ ['.'] ∧
    piece ≠ ['.', '.'] ∧ Percent.decode piece = Utf8.encode piece := by
  have hunmarked : piece.all (fun c => !marks.contains c) = true ↔ ∀ c ∈ piece, c ∉ marks := by
    simp [List.all_eq_true]
  rw [hunmarked]
  exact ⟨fun h => ⟨h.1, h.2, h.3, h.4⟩, fun ⟨hmarks, hdot, hdots, hplain⟩ => ⟨hmarks, hdot, hdots, hplain⟩⟩

instance : Decidable (Verbatim piece) := decidable_of_iff _ verbatim_iff.symm

theorem Verbatim.notMem (h : Verbatim piece) (hc : c ∈ marks) : c ∉ piece := fun hpiece => h.unmarked c hpiece hc

/-- An encoded piece has a slash only if it had one before. -/
theorem slash_notMem_encode {set : UInt8 → Bool} (hset : Percent.Reversible set) (h : '/' ∉ piece) :
    '/' ∉ Percent.encode set piece :=
  Percent.notMem_encode hset ⟨by decide, by decide⟩ (.inr h)

/-! ## Levels -/

theorem lt_of_toLower (h : c.toLower.toNat < 128) : c.toNat < 128 := by
  unfold Char.toLower at h
  split at h
  · rename_i hupper
    have hle : c.toNat ≤ 90 := UInt32.le_iff_toNat_le.mp hupper.2
    omega
  · exact h

/-- The characters of the names of levels in both cases. -/
theorem eq_of_toLower : (c.toLower = '.' → c = '.') ∧ (c.toLower = '%' → c = '%') ∧ (c.toLower = '2' → c = '2') ∧
    (c.toLower = 'e' → c = 'e' ∨ c = 'E') := by
  by_cases hlow : c.toNat < 128
  · exact Utf8.forall_ascii (P := fun c => (c.toLower = '.' → c = '.') ∧ (c.toLower = '%' → c = '%') ∧
      (c.toLower = '2' → c = '2') ∧ (c.toLower = 'e' → c = 'e' ∨ c = 'E')) (by decide) hlow
  · have hne : ∀ d : Char, d.toNat < 128 → c.toLower ≠ d := fun d hd h => hlow (lt_of_toLower (h ▸ hd))
    exact ⟨fun h => (hne _ (by decide) h).elim, fun h => (hne _ (by decide) h).elim,
      fun h => (hne _ (by decide) h).elim, fun h => (hne _ (by decide) h).elim⟩

/-- The ways to write a dot, before any other text. -/
theorem eq_of_map_toLower {rest : List Char} (h : text.map Char.toLower = '%' :: '2' :: 'e' :: rest) :
    ∃ tail, (text = '%' :: '2' :: 'e' :: tail ∨ text = '%' :: '2' :: 'E' :: tail) ∧
      tail.map Char.toLower = rest := by
  simp only [List.map_eq_cons_iff] at h
  obtain ⟨a, _, rfl, ha, b, _, rfl, hb, d, tail, rfl, hd, htail⟩ := h
  rw [eq_of_toLower.2.1 ha, eq_of_toLower.2.2.1 hb]
  rcases eq_of_toLower.2.2.2 hd with rfl | rfl
  · exact ⟨tail, .inl rfl, htail⟩
  · exact ⟨tail, .inr rfl, htail⟩

theorem eq_of_map_toLower_dot {rest : List Char} (h : text.map Char.toLower = '.' :: rest) :
    ∃ tail, text = '.' :: tail ∧ tail.map Char.toLower = rest := by
  obtain ⟨a, tail, rfl, ha, htail⟩ := List.map_eq_cons_iff.mp h
  exact ⟨tail, by rw [eq_of_toLower.1 ha], htail⟩

theorem decode_of_isDot (h : isDot piece = true) : Percent.decode piece = [46] := by
  simp only [isDot, Bool.or_eq_true, decide_eq_true_eq, String.reduceToList] at h
  rcases h with rfl | h
  · decide
  · obtain ⟨tail, hpiece, htail⟩ := eq_of_map_toLower h
    obtain rfl := List.map_eq_nil_iff.mp htail
    rcases hpiece with rfl | rfl <;> decide

theorem decode_of_isDoubleDot (h : isDoubleDot piece = true) : Percent.decode piece = [46, 46] := by
  obtain ⟨spelling, hspelling, h⟩ := List.any_eq_true.mp h
  have h := of_decide_eq_true h
  simp only [List.mem_cons, List.not_mem_nil, or_false] at hspelling
  rcases hspelling with rfl | rfl | rfl | rfl <;> simp only [String.reduceToList] at h
  · obtain ⟨rest, rfl, hrest⟩ := eq_of_map_toLower_dot h
    obtain ⟨tail, rfl, htail⟩ := eq_of_map_toLower_dot hrest
    obtain rfl := List.map_eq_nil_iff.mp htail
    decide
  · obtain ⟨rest, hpiece, hrest⟩ := eq_of_map_toLower h
    obtain ⟨tail, rfl, htail⟩ := eq_of_map_toLower_dot hrest
    obtain rfl := List.map_eq_nil_iff.mp htail
    rcases hpiece with rfl | rfl <;> decide
  · obtain ⟨rest, rfl, hrest⟩ := eq_of_map_toLower_dot h
    obtain ⟨tail, hpiece, htail⟩ := eq_of_map_toLower hrest
    obtain rfl := List.map_eq_nil_iff.mp htail
    rcases hpiece with rfl | rfl <;> decide
  · obtain ⟨rest, hpiece, hrest⟩ := eq_of_map_toLower h
    obtain ⟨tail, hrest', htail⟩ := eq_of_map_toLower hrest
    obtain rfl := List.map_eq_nil_iff.mp htail
    rcases hrest' with rfl | rfl <;> rcases hpiece with rfl | rfl <;> decide

/-- An encoded piece names no level if the piece stands for itself. -/
theorem Verbatim.isDot_encode (h : Verbatim piece) : isDot (Percent.encode Percent.pathSet piece) = false := by
  refine Bool.eq_false_iff.mpr fun hdot => h.dot ?_
  have hbytes := Percent.decode_encode Percent.reversible_pathSet h.plain
  rw [decode_of_isDot hdot] at hbytes
  exact Utf8.encode_inj hbytes.symm

theorem Verbatim.isDoubleDot_encode (h : Verbatim piece) :
    isDoubleDot (Percent.encode Percent.pathSet piece) = false := by
  refine Bool.eq_false_iff.mpr fun hdots => h.doubleDot ?_
  have hbytes := Percent.decode_encode Percent.reversible_pathSet h.plain
  rw [decode_of_isDoubleDot hdots] at hbytes
  exact Utf8.encode_inj hbytes.symm

/-! ## Resolved paths -/

/-- What holds of all pieces of a path, and of the empty piece, holds of all pieces after levels are resolved. -/
theorem forall_mem_resolve {P : List Char → Prop} (hempty : P []) (hdone : ∀ p ∈ done, P p)
    (hpieces : ∀ p ∈ pieces, P p) : ∀ p ∈ resolve false done pieces, P p := by
  induction pieces generalizing done with
  | nil =>
    intro p hp
    exact hdone p (List.mem_reverse.mp hp)
  | cons piece rest ih =>
    obtain ⟨hpiece, hrest⟩ := List.forall_mem_cons.mp hpieces
    have hclose : ∀ done : List (List Char), (∀ p ∈ done, P p) →
        ∀ p ∈ resolve false (if rest = [] then [] :: done else done) rest, P p := by
      intro done hdone
      split
      · exact ih (List.forall_mem_cons.mpr ⟨hempty, hdone⟩) hrest
      · exact ih hdone hrest
    unfold resolve
    simp only [Bool.false_and, Bool.false_eq_true, if_false]
    split
    · refine hclose _ ?_
      split
      · exact hdone
      · exact fun p hp => hdone p (List.mem_of_mem_drop hp)
    · split
      · exact hclose _ hdone
      · exact ih (List.forall_mem_cons.mpr ⟨hpiece, hdone⟩) hrest

/-- Two pieces at the end that name no level stay there. -/
theorem exists_resolve (pieces done : List (List Char)) : ∃ kept, ∀ a b : List Char,
    isDot a = false → isDoubleDot a = false → isDot b = false → isDoubleDot b = false →
    resolve false done (pieces ++ [a, b]) = kept ++ [a, b] := by
  induction pieces generalizing done with
  | nil =>
    refine ⟨done.reverse, fun a b ha ha' hb hb' => ?_⟩
    simp only [List.nil_append, resolve, ha, ha', hb, hb', Bool.false_and, Bool.false_eq_true, if_false,
      List.reverse_cons, List.append_assoc, List.cons_append]
  | cons piece rest ih =>
    have hrest : ∀ a b, rest ++ [a, b] ≠ [] := fun a b h => List.cons_ne_nil _ _ (List.append_eq_nil_iff.mp h).2
    simp only [List.cons_append, resolve, hrest, if_false, Bool.false_and, Bool.false_eq_true]
    split
    · exact ih _
    · split
      · exact ih _
      · exact ih _

/-! ## Paths in texts -/

/-- Texts between slashes at the end of a path are its last pieces. -/
theorem segments_append (front : List Char) (hc : '/' ∉ container ∧ '\\' ∉ container)
    (hn : '/' ∉ name ∧ '\\' ∉ name) :
    segments true (front ++ joined [container, name]) = segments true front ++ [container, name] := by
  have hkept : ∀ piece : List Char, '\\' ∉ piece → (piece.map fun c => if c = '\\' then '/' else c) = piece := by
    intro piece hpiece
    refine (List.map_congr_left fun c hc => ?_).trans (List.map_id piece)
    exact if_neg fun h : c = '\\' => hpiece (h ▸ hc)
  have hjoined : joined [container, name] = '/' :: (container ++ '/' :: name) := by simp [joined]
  rw [segments, if_pos rfl, hjoined, List.map_append, List.map_cons, List.map_append, List.map_cons, hkept _ hc.2,
    hkept _ hn.2, if_neg (by decide), Pieces.split_append_sep, Pieces.split_append hc.1,
    Pieces.split_of_notMem hn.1, segments, if_pos rfl]

/-- Two pieces that stand for themselves are the last two of any path that they are put behind. -/
theorem exists_rootedPieces {scheme : List Char} (hspecial : isSpecial scheme = true)
    (hfile : scheme ≠ "file".toList) (front : List Char) : ∃ kept, ∀ container name, Verbatim container → Verbatim name →
      rootedPieces scheme (front ++ joined [container, name]) =
        kept ++ [container, name].map (Percent.encode Percent.pathSet) := by
  let start := if (segments true front).head? = some [] then (segments true front).drop 1 else segments true front
  obtain ⟨kept, hkept⟩ := exists_resolve (start.map (Percent.encode Percent.pathSet)) []
  refine ⟨kept, fun container name hc hn => ?_⟩
  have hne : segments true front ≠ [] := Pieces.split_ne_nil _ _
  have hsegments := segments_append front ⟨hc.notMem (by decide), hc.notMem (by decide)⟩
    ⟨hn.notMem (by decide), hn.notMem (by decide)⟩
  have hstart : (if (segments true front ++ [container, name]).head? = some [] then
      (segments true front ++ [container, name]).drop 1 else segments true front ++ [container, name]) =
      start ++ [container, name] := by
    rw [List.head?_append, Option.or_of_isSome (by simpa using hne),
      List.drop_append_of_le_length (List.length_pos_iff.mpr hne)]
    exact (apply_ite (· ++ [container, name]) _ _ _).symm
  have htext : front ++ joined [container, name] ≠ [] := by simp [joined]
  simp only [rootedPieces, hspecial, hsegments, htext, ne_eq, not_false_eq_true, true_and, hstart, hfile,
    decide_false]
  rw [List.map_append]
  exact hkept _ _ hc.isDot_encode hc.isDoubleDot_encode hn.isDot_encode hn.isDoubleDot_encode

/-- Paths of two pieces without slashes are told apart. -/
theorem joined_inj {a b a' b' : List Char} (ha : '/' ∉ a) (ha' : '/' ∉ a') (h : joined [a, b] = joined [a', b']) :
    a = a' ∧ b = b' := by
  have hjoined : ∀ x y : List Char, joined [x, y] = '/' :: (x ++ '/' :: y) := by simp [joined]
  rw [hjoined, hjoined, List.cons.injEq] at h
  have hcut := congrArg (Pieces.cut? '/') h.2
  rw [Pieces.cut?_append ha, Pieces.cut?_append ha', Option.some.injEq, Prod.mk.injEq] at hcut
  exact hcut

end BlobDisk.Url
