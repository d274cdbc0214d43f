import BlobDisk.Vhd.Geometry

/-!
# What a geometry leaves of a disk

The counts are chosen by at most three tries, each of which divides the sectors by the length of a track
and the tracks by the heads. Whichever try is taken, its heads are no zero and the counts fit the words
that hold them. So the cylinders are the sectors divided by those of one cylinder and rounded down, and
what the geometry leaves of the disk is less than a cylinder.

* `Vhd.Geometry.Chosen`: what is known of the counts, whichever try they are from;
* `Vhd.Geometry.chosen_large`, `Vhd.Geometry.chosen_short`, `Vhd.Geometry.chosen_longer`,
  `Vhd.Geometry.chosen_longest`: the tries;
* `Vhd.Geometry.chosen_choose`: some try is taken;
* `Vhd.Geometry.Chosen.cylinders_mul_le`, `Vhd.Geometry.Chosen.lt_cylinders_mul`: a disk cut into cylinders;
* `Vhd.Geometry.ofSize_sound`: the geometry of any disk.
-/

namespace BlobDisk.Vhd.Geometry

variable {n perTrack heads tracks : Nat}

/-- Counts for `n` sectors that can be divided by and fit their words: the tracks are those that `n`
sectors fill, and come in at most 65535 cylinders. -/
structure Chosen (n perTrack heads tracks : Nat) : Prop where
  tracks_eq : tracks = n / perTrack
  perTrack_mem : perTrack ∈ [17, 31, 63, 255]
  four_le_heads : 4 ≤ heads
  heads_le : heads ≤ 16
  tracks_lt : tracks < 65536 * heads

/-! ## The tries -/

/-- The longest tracks are for disks that no shorter ones can hold. -/
theorem chosen_large (h : n ≤ maxSectors) : Chosen n 255 16 (n / 255) where
  tracks_eq := rfl
  perTrack_mem := by decide
  four_le_heads := by decide
  heads_le := Nat.le_refl 16
  tracks_lt := by
    have hmost : n / 255 ≤ 65535 * 16 := Nat.div_le_of_le_mul (Nat.mul_comm .. ▸ h)
    omega

/-- Tracks of 17 sectors, with no more than 16 heads, and cylinders below the limit of the try. -/
theorem chosen_short {heads : Nat} (hheads : 4 ≤ heads) (hfew : ¬ (heads * 1024 ≤ n / 17 ∨ 16 < heads)) :
    Chosen n 17 heads (n / 17) where
  tracks_eq := rfl
  perTrack_mem := by decide
  four_le_heads := hheads
  heads_le := by omega
  tracks_lt := by omega

/-- Tracks of 31 sectors, with cylinders below the limit of the try. -/
theorem chosen_longer (hfew : ¬ 16 * 1024 ≤ n / 31) : Chosen n 31 16 (n / 31) where
  tracks_eq := rfl
  perTrack_mem := by decide
  four_le_heads := by decide
  heads_le := Nat.le_refl 16
  tracks_lt := by omega

/-- Tracks of 63 sectors hold all disks that are not for the longest tracks. -/
theorem chosen_longest (h : ¬ 65535 * 16 * 63 ≤ n) : Chosen n 63 16 (n / 63) where
  tracks_eq := rfl
  perTrack_mem := by decide
  four_le_heads := by decide
  heads_le := Nat.le_refl 16
  tracks_lt := by omega

/-- Whatever is chosen, it is one of the tries. -/
theorem chosen_choose (h : n ≤ maxSectors) :
    ∃ perTrack heads tracks, choose n = (perTrack, heads, tracks) ∧ Chosen n perTrack heads tracks := by
  unfold choose
  by_cases hlarge : 65535 * 16 * 63 ≤ n
  · rw [if_pos hlarge]
    exact ⟨_, _, _, rfl, chosen_large h⟩
  · rw [if_neg hlarge]
    dsimp only
    generalize hheads : max ((n / 17 + 1023) / 1024) 4 = heads
    by_cases hmany : heads * 1024 ≤ n / 17 ∨ 16 < heads
    · -- The second try has its own heads and tracks, and the third one looks at these.
      simp only [if_pos hmany]
      by_cases hlonger : 16 * 1024 ≤ n / 31
      · rw [if_pos hlonger]
        exact ⟨_, _, _, rfl, chosen_longest hlarge⟩
      · rw [if_neg hlonger]
        exact ⟨_, _, _, rfl, chosen_longer hlonger⟩
    · simp only [if_neg hmany]
      rw [if_neg fun htracks => hmany (.inl htracks)]
      exact ⟨_, _, _, rfl, chosen_short (hheads ▸ Nat.le_max_right _ 4) hmany⟩

/-! ## What is known of the counts -/

namespace Chosen

variable (h : Chosen n perTrack heads tracks)
include h

theorem perTrack_pos : 0 < perTrack := by
  have hmem : ∀ k ∈ [17, 31, 63, 255], 0 < k := by decide
  exact hmem perTrack h.perTrack_mem

theorem perTrack_lt : perTrack < 256 := by
  have hmem : ∀ k ∈ [17, 31, 63, 255], k < 256 := by decide
  exact hmem perTrack h.perTrack_mem

theorem heads_pos : 0 < heads := Nat.lt_of_lt_of_le (by decide) h.four_le_heads

theorem cylinders_lt : tracks / heads < 65536 := (Nat.div_lt_iff_lt_mul h.heads_pos).mpr h.tracks_lt

/-- The cylinders are the sectors divided by those of one cylinder. -/
theorem cylinders_eq : tracks / heads = n / (heads * perTrack) := by
  rw [h.tracks_eq, Nat.div_div_eq_div_mul, Nat.mul_comm]

theorem cylinders_mul_le : tracks / heads * heads * perTrack ≤ n := by
  rw [Nat.mul_assoc, h.cylinders_eq]
  exact Nat.div_mul_le_self ..

theorem lt_cylinders_mul : n < (tracks / heads + 1) * heads * perTrack := by
  rw [Nat.mul_assoc, h.cylinders_eq, Nat.mul_comm]
  exact Nat.lt_mul_div_succ n (Nat.mul_pos h.heads_pos h.perTrack_pos)

end Chosen

/-! ## Any disk -/

theorem ofSize_eq {size : UInt64}
    (h : choose (min (size.toNat / 512) maxSectors) = (perTrack, heads, tracks)) :
    ofSize size = ⟨UInt16.ofNat (tracks / heads), UInt8.ofNat heads, UInt8.ofNat perTrack⟩ := by
  unfold ofSize
  rw [h]

/-- For a disk of any size, the counts are chosen with no zero to divide by, and the words of the
geometry are these counts, with no bit lost. There are four to sixteen heads and tracks of one of four
lengths, and the cylinders hold no more than the disk, or than can be addressed of it, and less than a
cylinder less. -/
theorem ofSize_sound (size : UInt64) :
    let n := min (size.toNat / 512) (65535 * 16 * 255)
    let cylinders := (ofSize size).cylinders.toNat
    let heads := (ofSize size).heads.toNat
    let perTrack := (ofSize size).sectorsPerTrack.toNat
    (∃ tracks, choose n = (perTrack, heads, tracks) ∧ tracks = n / perTrack ∧ cylinders = tracks / heads) ∧
      0 < perTrack ∧ 4 ≤ heads ∧ heads ≤ 16 ∧ perTrack ∈ [17, 31, 63, 255] ∧
      cylinders * heads * perTrack ≤ n ∧ n < (cylinders + 1) * heads * perTrack := by
  intro n cylinders heads perTrack
  obtain ⟨p, k, t, hchoose, h⟩ := chosen_choose (n := n) (Nat.min_le_right ..)
  have hsize := ofSize_eq hchoose
  have hc : cylinders = t / k := by
    show (ofSize size).cylinders.toNat = _
    rw [hsize]
    exact UInt16.toNat_ofNat_of_lt' h.cylinders_lt
  have hk : heads = k := by
    show (ofSize size).heads.toNat = _
    rw [hsize]
    exact UInt8.toNat_ofNat_of_lt' (Nat.lt_of_le_of_lt h.heads_le (by decide))
  have hp : perTrack = p := by
    show (ofSize size).sectorsPerTrack.toNat = _
    rw [hsize]
    exact UInt8.toNat_ofNat_of_lt' h.perTrack_lt
  rw [hc, hk, hp]
  exact ⟨⟨t, hchoose, h.tracks_eq, rfl⟩, h.perTrack_pos, h.four_le_heads, h.heads_le, h.perTrack_mem,
    h.cylinders_mul_le, h.lt_cylinders_mul⟩

/-- Of four gigabytes, all but 32 sectors are in cylinders. -/
example : ofSize 4294967296 = ⟨8322, 16, 63⟩ := by decide

end BlobDisk.Vhd.Geometry
