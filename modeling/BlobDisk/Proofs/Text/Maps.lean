import BlobDisk.Proofs.Pairs
import BlobDisk.TextMap

/-!
# Maps in order

* `TextMap.Sorted`: the keys of a map increase, so each is there once;
* `TextMap.Sorted.insert`, `TextMap.sorted_ofList`: maps are made so;
* `TextMap.get?_ofList_reverse`, `TextMap.get?_ofList`: what a map of pairs has under a key;
* `TextMap.Sorted.ext`: maps with the same values under all keys are equal;
* `TextMap.Sorted.ofList_eq`: a map is made of its pairs in any order.
-/

namespace BlobDisk.TextMap

variable {m : TextMap} {pairs : List (String × String)} {key value k v : String} {p : String × String}

/-- The keys of the map increase. -/
def Sorted (m : TextMap) : Prop := m.Pairwise fun p q => p.1 < q.1

theorem mem_of_mem_insert (h : p ∈ insert key value m) : p = (key, value) ∨ p ∈ m := by
  induction m with
  | nil => exact .inl (List.mem_singleton.mp h)
  | cons q rest ih =>
    obtain ⟨k, v⟩ := q
    unfold insert at h
    split at h
    · exact (List.mem_cons.mp h).imp_right (List.mem_cons_of_mem _)
    · split at h
      · exact List.mem_cons.mp h
      · rcases List.mem_cons.mp h with rfl | h
        · exact .inr List.mem_cons_self
        · exact (ih h).imp_right (List.mem_cons_of_mem _)

theorem Sorted.insert (h : m.Sorted) : Sorted (insert key value m) := by
  induction m with
  | nil => exact List.pairwise_singleton ..
  | cons q rest ih =>
    obtain ⟨k, v⟩ := q
    obtain ⟨hfirst, hrest⟩ := List.pairwise_cons.mp h
    unfold TextMap.insert
    by_cases heq : key = k
    · rw [if_pos heq]
      exact List.pairwise_cons.mpr ⟨heq ▸ hfirst, hrest⟩
    · rw [if_neg heq]
      by_cases hlt : key < k
      · rw [if_pos hlt]
        refine List.pairwise_cons.mpr ⟨List.forall_mem_cons.mpr ⟨hlt, fun p hp => ?_⟩, h⟩
        exact String.lt_trans hlt (hfirst p hp)
      · rw [if_neg hlt]
        refine List.pairwise_cons.mpr ⟨fun p hp => ?_, ih hrest⟩
        rcases mem_of_mem_insert hp with rfl | hp
        · exact String.not_le.mp fun hle => heq (String.le_antisymm hle (String.not_lt.mp hlt))
        · exact hfirst p hp

/-- What is put into a map one after the other leaves it in order. -/
theorem sorted_ofList (pairs : List (String × String)) : (ofList pairs).Sorted := by
  suffices h : ∀ m : TextMap, m.Sorted → Sorted (pairs.foldl (fun m p => TextMap.insert p.1 p.2 m) m) from
    h [] List.Pairwise.nil
  induction pairs with
  | nil => exact fun m hm => hm
  | cons p pairs ih => exact fun m hm => ih _ hm.insert

theorem mem_of_mem_ofList (h : p ∈ ofList pairs) : p ∈ pairs := by
  suffices hfold : ∀ m : TextMap, p ∈ pairs.foldl (fun m p => TextMap.insert p.1 p.2 m) m →
      p ∈ m ∨ p ∈ pairs from (hfold [] h).resolve_left List.not_mem_nil
  clear h
  induction pairs with
  | nil => exact fun m hm => .inl hm
  | cons q pairs ih =>
    intro m hm
    rcases ih _ hm with hm | hm
    · rcases mem_of_mem_insert hm with rfl | hm
      · exact .inr List.mem_cons_self
      · exact .inl hm
    · exact .inr (List.mem_cons_of_mem _ hm)

theorem get?_eq_none (h : ∀ p ∈ m, p.1 ≠ key) : get? key m = none := by
  induction m with
  | nil => rfl
  | cons q rest ih =>
    obtain ⟨hne, hrest⟩ := List.forall_mem_cons.mp h
    rw [get?, if_neg (Ne.symm hne), ih hrest]

/-- What is put into a map one after the other is found there, the last of a key, in place of what was there
before. -/
theorem get?_foldl_insert : get? key (pairs.foldl (fun m p => insert p.1 p.2 m) m) =
    (pairs.reverse.lookup key).or (get? key m) := by
  induction pairs generalizing m with
  | nil => rfl
  | cons p pairs ih =>
    rw [List.foldl_cons, ih, get?_insert, List.reverse_cons, List.lookup_append, Pairs.lookup_cons,
      List.lookup_nil, Option.or_assoc]
    split <;> rfl

/-- A map of pairs has the last that the pairs have. -/
theorem get?_ofList_reverse : get? key (ofList pairs) = pairs.reverse.lookup key := by
  rw [ofList, get?_foldl_insert, get?, Option.or_none]

/-- A map of pairs with distinct keys has what the pairs have. -/
theorem get?_ofList (h : (pairs.map Prod.fst).Nodup) : get? key (ofList pairs) = pairs.lookup key := by
  rw [get?_ofList_reverse, Pairs.lookup_eq_of_perm h pairs.reverse_perm.symm]

theorem get?_eq_lookup : get? key m = m.lookup key := by
  induction m with
  | nil => rfl
  | cons p m ih => rw [get?, Pairs.lookup_cons, ih]

/-- Each key is in a map once. -/
theorem Sorted.nodup (h : m.Sorted) : (m.map Prod.fst).Nodup := by
  refine List.pairwise_map.mpr (List.Pairwise.imp (fun {p q} hlt => ?_) h)
  exact fun heq => String.lt_irrefl q.1 (heq ▸ hlt)

theorem Sorted.mem_iff (h : m.Sorted) : p ∈ m ↔ get? p.1 m = some p.2 := by
  rw [get?_eq_lookup, Pairs.lookup_eq_some_iff_mem h.nodup]

theorem mem_keys_ofList : key ∈ (ofList pairs).map Prod.fst ↔ key ∈ pairs.map Prod.fst := by
  constructor
  · intro h
    obtain ⟨p, hp, rfl⟩ := List.mem_map.mp h
    exact List.mem_map_of_mem (mem_of_mem_ofList hp)
  · intro h
    obtain ⟨p, hp, rfl⟩ := List.mem_map.mp h
    obtain ⟨value, hvalue⟩ := Option.isSome_iff_exists.mp
      (List.lookup_isSome_iff.mpr ⟨p, List.mem_reverse.mpr hp, beq_self_eq_true p.1⟩)
    exact List.mem_map.mpr ⟨(p.1, value), (sorted_ofList pairs).mem_iff.mpr (get?_ofList_reverse.trans hvalue), rfl⟩

/-- Maps with the same values under all keys are equal. -/
theorem Sorted.ext {m' : TextMap} (h : m.Sorted) (h' : m'.Sorted) (hget : ∀ key, get? key m = get? key m') :
    m = m' := by
  refine List.Perm.eq_of_pairwise (fun p q _ _ hlt hgt => (String.lt_asymm hlt hgt).elim) h h' ?_
  have hnodup : ∀ {m : TextMap}, m.Sorted → m.Nodup := fun hm =>
    List.Pairwise.of_map Prod.fst (fun p q hne heq => hne (congrArg Prod.fst heq)) hm.nodup
  rw [List.perm_ext_iff_of_nodup (hnodup h) (hnodup h')]
  intro p
  rw [h.mem_iff, h'.mem_iff, hget]

/-- A map is made of its pairs, put into it in any order. -/
theorem Sorted.ofList_eq (h : m.Sorted) (hperm : pairs.Perm m) : ofList pairs = m := by
  have hnodup : (pairs.map Prod.fst).Nodup := (hperm.map Prod.fst).nodup_iff.mpr h.nodup
  refine (sorted_ofList pairs).ext h fun key => ?_
  rw [get?_ofList hnodup, get?_eq_lookup, Pairs.lookup_eq_of_perm hnodup hperm]

end BlobDisk.TextMap
