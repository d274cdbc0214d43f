/-!
# Pairs by key

What is found under a key in pairs of keys and values, where the first pair with the key counts.

* `Pairs.lookup_cons`, `Pairs.lookup_filter`, `Pairs.lookup_map`: one more pair, fewer pairs, other values;
* `Pairs.lookup_filterMap_eq_some_iff`: the pairs of a list of anything that may have one;
* `Pairs.lookup_eq_some_iff_mem`: of pairs with distinct keys each is found;
* `Pairs.lookup_eq_of_perm`: their order does not matter.
-/

namespace BlobDisk.Pairs

variable {α β γ : Type} [DecidableEq α] {pairs pairs' : List (α × β)} {key k : α} {value : β}

theorem lookup_cons (value : β) (pairs : List (α × β)) :
    ((k, value) :: pairs).lookup key = if key = k then some value else pairs.lookup key := by
  rw [List.lookup_cons]
  by_cases h : key = k
  · rw [if_pos h, beq_iff_eq.mpr h]
  · rw [if_neg h, beq_false_of_ne h]

theorem lookup_filter (keep : α → Bool) (pairs : List (α × β)) :
    (pairs.filter fun p => keep p.1).lookup key = if keep key then pairs.lookup key else none := by
  induction pairs with
  | nil => exact (ite_self none).symm
  | cons p pairs ih =>
    obtain ⟨k, value⟩ := p
    rw [List.filter_cons, lookup_cons]
    by_cases hkey : key = k
    · subst hkey
      split
      · rw [lookup_cons, if_pos rfl, if_pos rfl]
      · exact ih.trans (if_neg ‹_›)
    · rw [if_neg hkey, ← ih]
      split
      · rw [lookup_cons, if_neg hkey]
      · rfl

theorem lookup_map (f : β → γ) (pairs : List (α × β)) :
    (pairs.map fun p => (p.1, f p.2)).lookup key = (pairs.lookup key).map f := by
  induction pairs with
  | nil => rfl
  | cons p pairs ih =>
    rw [List.map_cons, lookup_cons, lookup_cons, ih]
    split <;> rfl

/-- Of all that has a pair with the key, the first counts. -/
theorem lookup_filterMap_eq_some_iff {f : γ → Option (α × β)} {xs : List γ} :
    (xs.filterMap f).lookup key = some value ↔ ∃ before x after, xs = before ++ x :: after ∧
      f x = some (key, value) ∧ ∀ y ∈ before, ∀ other, f y ≠ some (key, other) := by
  have hlookup : (xs.filterMap f).lookup key =
      xs.findSome? fun x => (f x).bind fun p => if key = p.1 then some p.2 else none := by
    induction xs with
    | nil => rfl
    | cons x xs ih =>
      rw [List.filterMap_cons, List.findSome?_cons, ← ih]
      cases f x with
      | none => rfl
      | some p =>
        dsimp only [Option.bind_some]
        rw [lookup_cons]
        split <;> rfl
  have hsome (x : γ) (v : β) :
      ((f x).bind fun p => if key = p.1 then some p.2 else none) = some v ↔ f x = some (key, v) := by
    rw [Option.bind_eq_some_iff]
    constructor
    · rintro ⟨p, hp, hv⟩
      obtain ⟨hkey, hvalue⟩ := Option.ite_none_right_eq_some.mp hv
      exact hp.trans (congrArg some (Prod.ext hkey.symm (Option.some.inj hvalue)))
    · exact fun hp => ⟨_, hp, if_pos rfl⟩
  rw [hlookup, List.findSome?_eq_some_iff]
  simp only [hsome, Option.eq_none_iff_forall_ne_some, ne_eq]

/-! ## Distinct keys -/

/-- Of pairs with distinct keys each is found. -/
theorem lookup_eq_some_iff_mem (h : (pairs.map Prod.fst).Nodup) :
    pairs.lookup key = some value ↔ (key, value) ∈ pairs := by
  induction pairs with
  | nil => exact iff_of_false nofun List.not_mem_nil
  | cons p pairs ih =>
    obtain ⟨k, v⟩ := p
    obtain ⟨hp, hpairs⟩ := List.nodup_cons.mp h
    rw [lookup_cons, List.mem_cons, Prod.mk.injEq]
    by_cases hkey : key = k
    · have hrest : (key, value) ∉ pairs := fun hmem => hp (List.mem_map.mpr ⟨_, hmem, hkey⟩)
      rw [if_pos hkey, or_iff_left hrest, and_iff_right hkey, Option.some.injEq, eq_comm]
    · rw [if_neg hkey, or_iff_right fun heq => hkey heq.1, ih hpairs]

/-- The order of pairs with distinct keys does not matter. -/
theorem lookup_eq_of_perm (h : (pairs.map Prod.fst).Nodup) (hperm : pairs.Perm pairs') :
    pairs.lookup key = pairs'.lookup key := by
  have h' : (pairs'.map Prod.fst).Nodup := (hperm.map Prod.fst).nodup_iff.mp h
  ext value
  rw [lookup_eq_some_iff_mem h, lookup_eq_some_iff_mem h', hperm.mem_iff]

end BlobDisk.Pairs
