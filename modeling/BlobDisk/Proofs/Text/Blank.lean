import BlobDisk.Text.Blank

/-!
# Blanks at the ends

* `Blank.dropWhile_eq_iff`: what is left of a text from the first character that is kept;
* `Blank.trimEnd_eq_iff`, `Blank.trim_eq_iff`: what is left without blanks at the end, or at both ends.
-/

namespace BlobDisk.Blank

variable {p : Char → Bool} {text core : List Char}

theorem dropWhile_eq_iff : text.dropWhile p = core ↔
    ∃ front, text = front ++ core ∧ (∀ c ∈ front, p c = true) ∧ ∀ c ∈ core.head?, p c = false := by
  constructor
  · rintro rfl
    refine ⟨text.takeWhile p, List.takeWhile_append_dropWhile.symm, List.all_eq_true.mp List.all_takeWhile, ?_⟩
    intro c hc
    have hfirst := List.head?_dropWhile_not p text
    rwa [Option.mem_def.mp hc] at hfirst
  · rintro ⟨front, rfl, hfront, hcore⟩
    rw [List.dropWhile_append_of_pos hfront]
    cases core with
    | nil => rfl
    | cons c core => exact List.dropWhile_cons_of_neg (ne_true_of_eq_false (hcore c rfl))

/-- Without blanks at its end a text ends in none. -/
theorem trimEnd_eq_iff : trimEnd text = core ↔ ∃ blanks, text = core ++ blanks ∧
    (∀ c ∈ blanks, isBlank c = true) ∧ ∀ c ∈ core.getLast?, isBlank c = false := by
  rw [trimEnd, List.reverse_eq_iff, dropWhile_eq_iff]
  constructor
  · rintro ⟨front, htext, hfront, hcore⟩
    refine ⟨front.reverse, ?_, fun c hc => hfront c (List.mem_reverse.mp hc), List.head?_reverse ▸ hcore⟩
    rw [← List.reverse_reverse text, htext, List.reverse_append, List.reverse_reverse]
  · rintro ⟨blanks, rfl, hblanks, hcore⟩
    exact ⟨blanks.reverse, List.reverse_append, fun c hc => hblanks c (List.mem_reverse.mp hc),
      List.head?_reverse.symm ▸ hcore⟩

/-- Without blanks at its ends a text starts and ends with none. -/
theorem trim_eq_iff : trim text = core ↔ ∃ left right, text = left ++ core ++ right ∧
    (∀ c ∈ left, isBlank c = true) ∧ (∀ c ∈ right, isBlank c = true) ∧
    (∀ c ∈ core.head?, isBlank c = false) ∧ ∀ c ∈ core.getLast?, isBlank c = false := by
  rw [trim, trimEnd_eq_iff]
  constructor
  · rintro ⟨right, hdrop, hright, hlast⟩
    obtain ⟨left, htext, hleft, hfirst⟩ := dropWhile_eq_iff.mp hdrop
    refine ⟨left, right, htext.trans (List.append_assoc ..).symm, hleft, hright, fun c hc => hfirst c ?_, hlast⟩
    rw [List.head?_append, Option.mem_def.mp hc]
    rfl
  · rintro ⟨left, right, rfl, hleft, hright, hfirst, hlast⟩
    cases core with
    | nil =>
      refine ⟨[], dropWhile_eq_iff.mpr ⟨left ++ right, ?_, ?_, nofun⟩, nofun, nofun⟩
      · rw [List.append_nil, List.append_nil, List.append_nil]
      · exact List.forall_mem_append.mpr ⟨hleft, hright⟩
    | cons c core => exact ⟨right, dropWhile_eq_iff.mpr ⟨left, List.append_assoc .., hleft, hfirst⟩, hright, hlast⟩

end BlobDisk.Blank
