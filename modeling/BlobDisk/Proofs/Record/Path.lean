import BlobDisk.Proofs.Text.Pieces
import BlobDisk.Store.Blob

/-!
# Paths and the blobs at them

* `BlobPath.Addressable`: the blobs that have a path;
* `BlobPath.parse_eq_ok_iff`: a blob is read from its path if it has one, and from no other text;
* `BlobPath.eq_of_parse_text`: a path that is read is read as what was written;
* `BlobPath.parse_unambiguous`: so no path names two blobs, and no blob has two paths.
-/

namespace BlobDisk.BlobPath

variable {path : String} {b b' : BlobPath}

theorem parse_eq_ok (h : parse path = .ok b) :
    Pieces.split '/' path.toList = [[], b.container.toList, b.name.toList] := by
  unfold parse at h
  split at h
  · cases h
  · split at h
    · rename_i start container name hsplit
      split at h
      · rename_i hparts
        cases h
        rw [hsplit, hparts.1, String.toList_ofList, String.toList_ofList]
      · cases h
    · cases h

/-- A blob that has a path: its parts are not empty and have no slash, and its path is not too long. -/
structure Addressable (b : BlobPath) : Prop where
  container_ne : b.container ≠ ""
  container_slash : '/' ∉ b.container.toList
  name_ne : b.name ≠ ""
  name_slash : '/' ∉ b.name.toList
  length : b.text.utf8ByteSize ≤ Record.pathLimit

theorem toList_text : b.text.toList = '/' :: (b.container.toList ++ '/' :: b.name.toList) := by
  simp [text]

theorem split_text (hcontainer : '/' ∉ b.container.toList) (hname : '/' ∉ b.name.toList) :
    Pieces.split '/' b.text.toList = [[], b.container.toList, b.name.toList] := by
  rw [toList_text, Pieces.split, if_pos rfl, Pieces.split_append hcontainer, Pieces.split_of_notMem hname]

/-- A path with two slashes has none in its parts. -/
theorem notMem_of_count (h : b.text.toList.count '/' = 2) :
    '/' ∉ b.container.toList ∧ '/' ∉ b.name.toList := by
  rw [toList_text, List.count_cons_self, List.count_append, List.count_cons_self] at h
  exact ⟨List.count_eq_zero.mp (by omega), List.count_eq_zero.mp (by omega)⟩

theorem count_text (hcontainer : '/' ∉ b.container.toList) (hname : '/' ∉ b.name.toList) :
    b.text.toList.count '/' = 2 := by
  rw [toList_text, List.count_cons_self, List.count_append, List.count_cons_self,
    List.count_eq_zero.mpr hcontainer, List.count_eq_zero.mpr hname]

/-- A path that is read is read as what was written. -/
theorem eq_of_parse_text (h : parse b.text = .ok b') : b' = b := by
  have hsplit := parse_eq_ok h
  have hcount := Pieces.length_split '/' b.text.toList
  rw [hsplit] at hcount
  obtain ⟨hcontainer, hname⟩ := notMem_of_count (Nat.succ.inj hcount.symm)
  rw [split_text hcontainer hname] at hsplit
  obtain ⟨-, hparts⟩ := List.cons.inj hsplit
  obtain ⟨hc, hrest⟩ := List.cons.inj hparts
  obtain ⟨hn, -⟩ := List.cons.inj hrest
  cases b
  cases b'
  rw [mk.injEq]
  exact ⟨(String.toList_inj.mp hc).symm, (String.toList_inj.mp hn).symm⟩

theorem text_ne_empty : b.text ≠ "" := by
  intro h
  have htext := b.toList_text
  rw [h] at htext
  cases htext

/-- A blob is read from its path if it has one, and from no other text. -/
theorem parse_eq_ok_iff : parse path = .ok b ↔ path = b.text ∧ b.Addressable := by
  constructor
  · intro h
    have hsplit := parse_eq_ok h
    have htext : path = b.text := by
      rw [← String.toList_inj, ← Pieces.join_split '/' path.toList, hsplit, toList_text]
      simp [Pieces.join]
    refine ⟨htext, ?_⟩
    have hpiece : ∀ piece ∈ [[], b.container.toList, b.name.toList], '/' ∉ piece := by
      rw [← hsplit]
      exact fun piece => Pieces.notMem_of_mem_split
    unfold parse at h
    split at h
    · cases h
    · rename_i hlength
      obtain ⟨-, hlength⟩ := not_or.mp hlength
      rw [hsplit] at h
      simp only [true_and] at h
      split at h
      · rename_i hne
        exact {
          container_ne := fun hc => hne.1 (by rw [hc]; rfl)
          container_slash := hpiece _ (by simp)
          name_ne := fun hn => hne.2 (by rw [hn]; rfl)
          name_slash := hpiece _ (by simp)
          length := htext ▸ Nat.le_of_not_lt hlength }
      · cases h
  · rintro ⟨rfl, h⟩
    unfold parse
    rw [if_neg, split_text h.container_slash h.name_slash]
    · have hcontainer : b.container.toList ≠ [] := mt String.toList_eq_nil_iff.mp h.container_ne
      have hname : b.name.toList ≠ [] := mt String.toList_eq_nil_iff.mp h.name_ne
      simp only [hcontainer, hname, ne_eq, not_false_eq_true, and_self, if_true, String.ofList_toList]
    · rintro (hempty | hlong)
      · exact text_ne_empty (String.isEmpty_iff.mp hempty)
      · exact absurd h.length (Nat.not_le_of_lt hlong)

/-- A text is read as a blob just if it is a slash, the container, a slash and the name, the parts neither empty nor
with a slash in them, and at most 1024 bytes long; it is then the path of that blob. The path of any blob, with
whatever parts, is read as that blob or not at all. -/
theorem parse_unambiguous :
    (∀ path b, parse path = .ok b ↔ path = "/" ++ b.container ++ "/" ++ b.name ∧
      (b.container ≠ "" ∧ '/' ∉ b.container.toList) ∧ (b.name ≠ "" ∧ '/' ∉ b.name.toList) ∧
        path.utf8ByteSize ≤ 1024) ∧
    (∀ path b, parse path = .ok b → b.text = path) ∧
    ∀ container name b, parse (text ⟨container, name⟩) = .ok b → b = ⟨container, name⟩ := by
  refine ⟨fun path b => ?_, fun path b h => (parse_eq_ok_iff.mp h).1.symm, fun container name b => eq_of_parse_text⟩
  rw [parse_eq_ok_iff]
  constructor
  · rintro ⟨rfl, h⟩
    exact ⟨rfl, ⟨h.container_ne, h.container_slash⟩, ⟨h.name_ne, h.name_slash⟩, h.length⟩
  · rintro ⟨rfl, ⟨hcontainer, hcontainerSlash⟩, ⟨hname, hnameSlash⟩, hlength⟩
    exact ⟨rfl, hcontainer, hcontainerSlash, hname, hnameSlash, hlength⟩

theorem parse_unambiguous_sample :
    parse "/dysks/größe.vhd" = .ok ⟨"dysks", "größe.vhd"⟩ ∧
      text ⟨"dysks", "größe.vhd"⟩ = "/dysks/größe.vhd" ∧
      ∀ b, parse "/dysks/größe.vhd" = .ok b → b = ⟨"dysks", "größe.vhd"⟩ := by
  obtain ⟨hiff, htext, hback⟩ := parse_unambiguous
  have hparse := (hiff "/dysks/größe.vhd" ⟨"dysks", "größe.vhd"⟩).mpr (by decide)
  exact ⟨hparse, htext _ _ hparse, fun b => hback "dysks" "größe.vhd" b⟩

end BlobDisk.BlobPath
