import BlobDisk.Text.Pieces

/-!
# Lines that are ended

* `Pieces.split_append`, `Pieces.cut?_append`, `Pieces.cut?_eq_some_iff`: a text is cut at its first
  separator;
* `Pieces.split_append_sep`: a text is split on both sides of a separator;
* `Pieces.split_of_notMem`, `Pieces.length_split`: a text without separators is one piece, and each
  separator adds one;
* `Pieces.join_split`, `Pieces.split_join`: the pieces joined again, and found again;
* `Pieces.join_append`, `Pieces.flatMap_split`, `Pieces.forall_mem_split`: the pieces each ended, and their
  characters;
* `Pieces.after?_append`, `Pieces.eq_of_after?`: a text with a given beginning;
* `Pieces.split_ended`: lines that are ended each come back as they were, with nothing behind the last;
* `Pieces.split_ended_append`: the same with more behind the last.
-/

namespace BlobDisk.Pieces

variable {sep : Char} {front : List Char}

theorem split_append (h : sep ∉ front) (rest : List Char) :
    split sep (front ++ sep :: rest) = front :: split sep rest := by
  induction front with
  | nil => simp [split]
  | cons c front ih =>
    obtain ⟨hc, hfront⟩ := List.ne_and_not_mem_of_not_mem_cons h
    simp only [List.cons_append, split, Ne.symm hc, ite_false, ih hfront]

theorem split_of_notMem {text : List Char} (h : sep ∉ text) : split sep text = [text] := by
  induction text with
  | nil => rfl
  | cons c text ih =>
    obtain ⟨hc, htext⟩ := List.ne_and_not_mem_of_not_mem_cons h
    simp only [split, Ne.symm hc, ite_false, ih htext]

theorem length_split (sep : Char) (text : List Char) :
    (split sep text).length = text.count sep + 1 := by
  induction text with
  | nil => rfl
  | cons c text ih =>
    unfold split
    by_cases hc : c = sep
    · rw [if_pos hc, List.length_cons, ih, hc, List.count_cons_self]
    · rw [if_neg hc, List.count_cons_of_ne hc, ← ih]
      cases hsplit : split sep text with
      | nil => exact (split_ne_nil sep text hsplit).elim
      | cons piece pieces => rfl

/-- Two texts with a separator between them are split one by one. -/
theorem split_append_sep (sep : Char) (front back : List Char) :
    split sep (front ++ sep :: back) = split sep front ++ split sep back := by
  induction front with
  | nil => simp [split]
  | cons c front ih =>
    rw [List.cons_append, split, split, ih]
    by_cases hc : c = sep
    · rw [if_pos hc, if_pos hc, List.cons_append]
    · rw [if_neg hc, if_neg hc]
      cases hsplit : split sep front with
      | nil => exact (split_ne_nil sep front hsplit).elim
      | cons piece pieces => rfl

/-- The pieces make up the text. -/
theorem join_split (sep : Char) (text : List Char) : join [sep] (split sep text) = text := by
  induction text with
  | nil => rfl
  | cons c text ih =>
    unfold split
    cases hsplit : split sep text with
    | nil => exact (split_ne_nil sep text hsplit).elim
    | cons piece pieces =>
      rw [hsplit] at ih
      by_cases hc : c = sep
      · rw [if_pos hc, join, ih, hc, List.nil_append, List.singleton_append]
      · rw [if_neg hc]
        cases pieces with
        | nil => exact congrArg (c :: ·) ih
        | cons next rest => exact congrArg (c :: ·) ih

/-- Pieces without separators are found again where they were joined. -/
theorem split_join {pieces : List (List Char)} (h : ∀ piece ∈ pieces, sep ∉ piece) (hne : pieces ≠ []) :
    split sep (join [sep] pieces) = pieces := by
  induction pieces with
  | nil => exact (hne rfl).elim
  | cons piece pieces ih =>
    obtain ⟨hpiece, hpieces⟩ := List.forall_mem_cons.mp h
    cases pieces with
    | nil => exact split_of_notMem hpiece
    | cons next rest =>
      rw [join, List.append_assoc, List.singleton_append, split_append hpiece, ih hpieces (List.cons_ne_nil _ _)]

/-- Pieces that are joined, with one more separator, are pieces that are each ended. -/
theorem join_append {pieces : List (List Char)} (sep : List Char) (hne : pieces ≠ []) :
    join sep pieces ++ sep = pieces.flatMap (· ++ sep) := by
  induction pieces with
  | nil => exact (hne rfl).elim
  | cons piece pieces ih =>
    cases pieces with
    | nil => rw [join, List.flatMap_cons, List.flatMap_nil, List.append_nil]
    | cons next rest =>
      rw [join, List.append_assoc, ih (List.cons_ne_nil _ _)]
      rfl

/-- The pieces, each ended, make up the text, ended. -/
theorem flatMap_split (sep : Char) (text : List Char) :
    (split sep text).flatMap (· ++ [sep]) = text ++ [sep] := by
  induction text with
  | nil => rfl
  | cons c text ih =>
    unfold split
    by_cases hc : c = sep
    · rw [if_pos hc, List.flatMap_cons, ih, hc]
      rfl
    · rw [if_neg hc, List.cons_append, ← ih]
      cases hsplit : split sep text with
      | nil => exact (split_ne_nil sep text hsplit).elim
      | cons piece pieces => rfl

/-- What holds of the characters of a text between the separators holds of those of its pieces. -/
theorem forall_mem_split {P : Char → Prop} {text : List Char} (h : ∀ c ∈ text, c ≠ sep → P c) :
    ∀ piece ∈ split sep text, ∀ c ∈ piece, P c := by
  induction text with
  | nil =>
    rw [split, List.forall_mem_singleton]
    exact List.forall_mem_nil _
  | cons c text ih =>
    obtain ⟨hc, htext⟩ := List.forall_mem_cons.mp h
    have hpieces := ih htext
    unfold split
    by_cases hsep : c = sep
    · rw [if_pos hsep, List.forall_mem_cons]
      exact ⟨List.forall_mem_nil _, hpieces⟩
    · rw [if_neg hsep]
      cases hsplit : split sep text with
      | nil => exact (split_ne_nil sep text hsplit).elim
      | cons first pieces =>
        rw [hsplit, List.forall_mem_cons] at hpieces
        exact List.forall_mem_cons.mpr ⟨List.forall_mem_cons.mpr ⟨hc hsep, hpieces.1⟩, hpieces.2⟩

theorem notMem_of_mem_split {piece text : List Char} (h : piece ∈ split sep text) : sep ∉ piece :=
  fun hsep => forall_mem_split (P := (· ≠ sep)) (fun _ _ => id) piece h sep hsep rfl

theorem cut?_append (h : sep ∉ front) (rest : List Char) :
    cut? sep (front ++ sep :: rest) = some (front, rest) := by
  induction front with
  | nil => simp [cut?]
  | cons c front ih =>
    obtain ⟨hc, hfront⟩ := List.ne_and_not_mem_of_not_mem_cons h
    simp only [List.cons_append, cut?, Ne.symm hc, ite_false, ih hfront, Option.map_some]

theorem cut?_of_notMem {text : List Char} (h : sep ∉ text) : cut? sep text = none := by
  induction text with
  | nil => rfl
  | cons c text ih =>
    obtain ⟨hc, htext⟩ := List.ne_and_not_mem_of_not_mem_cons h
    rw [cut?, if_neg (Ne.symm hc), ih htext, Option.map_none]

/-- A text is cut at its first separator. -/
theorem cut?_eq_some_iff {text back : List Char} :
    cut? sep text = some (front, back) ↔ text = front ++ sep :: back ∧ sep ∉ front := by
  constructor
  · intro h
    induction text generalizing front with
    | nil => cases h
    | cons c text ih =>
      rw [cut?] at h
      split at h
      · rename_i hc
        obtain ⟨rfl, rfl⟩ := Prod.mk.inj (Option.some.inj h)
        exact ⟨hc ▸ rfl, List.not_mem_nil⟩
      · rename_i hc
        obtain ⟨⟨front', back'⟩, hcut, hpair⟩ := Option.map_eq_some_iff.mp h
        obtain ⟨rfl, rfl⟩ := Prod.mk.inj hpair
        obtain ⟨rfl, hfront⟩ := ih hcut
        exact ⟨rfl, List.not_mem_cons_of_ne_of_not_mem (Ne.symm hc) hfront⟩
  · rintro ⟨rfl, h⟩
    exact cut?_append h back

theorem after?_append (start rest : List Char) : after? start (start ++ rest) = some rest := by
  induction start with
  | nil => rfl
  | cons c start ih => rw [List.cons_append, after?, if_pos rfl, ih]

theorem eq_of_after? {start text rest : List Char} (h : after? start text = some rest) :
    text = start ++ rest := by
  induction start generalizing text with
  | nil => exact Option.some.inj h
  | cons c start ih =>
    cases text with
    | nil => cases h
    | cons d text =>
      rw [after?] at h
      split at h
      · rename_i hd
        rw [hd, ih h, List.cons_append]
      · cases h

theorem split_ended_append {lines : List (List Char)} (h : ∀ line ∈ lines, sep ∉ line) (rest : List Char) :
    split sep (lines.flatMap (· ++ [sep]) ++ rest) = lines ++ split sep rest := by
  induction lines with
  | nil => rfl
  | cons line lines ih =>
    rw [List.flatMap_cons, List.append_assoc, List.append_assoc, List.singleton_append,
      split_append (h line List.mem_cons_self),
      ih fun line' hline => h line' (List.mem_cons_of_mem _ hline), List.cons_append]

theorem split_ended {lines : List (List Char)} (h : ∀ line ∈ lines, sep ∉ line) :
    split sep (lines.flatMap (· ++ [sep])) = lines ++ [[]] := by
  rw [← List.append_nil (lines.flatMap _), split_ended_append h, split]

end BlobDisk.Pieces
