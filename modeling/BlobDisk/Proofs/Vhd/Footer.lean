import BlobDisk.Vhd.Footer
import Mathlib.Algebra.Ring.Nat

/-!
# What a footer says

* `Vhd.ofBigEndian_bigEndian`: numbers are read back as they were written;
* `Vhd.Footer.length_build`: a footer has 512 bytes;
* `Vhd.Footer.isValid_build`: it has the cookie, and the checksum of its other bytes;
* `Vhd.Footer.diskSize_build`: it records the size of its payload.
-/

namespace BlobDisk.Vhd

@[simp] theorem length_bigEndian (width n : Nat) : (bigEndian width n).length = width := by
  simp [bigEndian]

/-- The last byte of a number comes last. -/
theorem bigEndian_succ (width n : Nat) :
    bigEndian (width + 1) n = bigEndian width (n / 256) ++ [UInt8.ofNat n] := by
  unfold bigEndian
  rw [List.range_succ, List.map_append, List.map_singleton]
  congr 1
  · refine List.map_congr_left fun i hi => ?_
    have hi : i < width := List.mem_range.mp hi
    have hpow : Nat.pow 256 (width + 1 - 1 - i) = 256 * Nat.pow 256 (width - 1 - i) := by
      rw [show width + 1 - 1 - i = width - 1 - i + 1 by omega]
      exact Nat.pow_succ'
    rw [hpow, Nat.div_div_eq_div_mul]
  · rw [Nat.add_sub_cancel, Nat.sub_self]
    exact congrArg (fun k => [UInt8.ofNat k]) (Nat.div_one n)

theorem ofBigEndian_append_singleton (bytes : List UInt8) (b : UInt8) :
    ofBigEndian (bytes ++ [b]) = ofBigEndian bytes * 256 + b.toNat := by
  rw [ofBigEndian, List.foldl_append]
  rfl

theorem ofBigEndian_bigEndian (width n : Nat) : ofBigEndian (bigEndian width n) = n % 256 ^ width := by
  induction width generalizing n with
  | zero => exact (Nat.mod_one n).symm
  | succ width ih =>
    rw [bigEndian_succ, ofBigEndian_append_singleton, ih, Nat.pow_succ', Nat.mod_mul]
    have hbyte : (UInt8.ofNat n).toNat = n % 256 := UInt8.toNat_ofNat'
    omega

namespace Footer

variable {payload : UInt64} {stamp : Stamp}

/-- A field is read where it stands. -/
theorem take_drop_field {before field after : List UInt8} {start width : Nat}
    (hstart : before.length = start) (hwidth : field.length = width) :
    ((before ++ field ++ after).drop start).take width = field := by
  rw [List.append_assoc, List.drop_left' hstart, List.take_left' hwidth]

theorem length_cookie : cookie.length = 8 := rfl

theorem length_front (payload : UInt64) (stamp : Stamp) : (front payload stamp).length = 64 := by
  simp [front, length_cookie]

theorem length_back (stamp : Stamp) : (back stamp).length = 444 := by
  rw [back, List.length_append, List.length_replicate, Vector.length_toList]

theorem length_build (payload : UInt64) (stamp : Stamp) : (build payload stamp).length = size := by
  simp [build, length_front, length_back, size]

/-- The checksum covers all but its own bytes. -/
theorem checksum_build :
    checksum (build payload stamp) = invertedSum (front payload stamp ++ back stamp) := by
  have htake : (build payload stamp).take 64 = front payload stamp := by
    rw [build, List.append_assoc, List.take_left' (length_front ..)]
  have hdrop : (build payload stamp).drop 68 = back stamp :=
    List.drop_left' (by simp [length_front])
  rw [checksum, htake, hdrop]

theorem storedChecksum_build :
    storedChecksum (build payload stamp) = (invertedSum (front payload stamp ++ back stamp)).toNat := by
  rw [storedChecksum, build, take_drop_field (length_front ..) (length_bigEndian ..), ofBigEndian_bigEndian]
  exact Nat.mod_eq_of_lt (UInt32.toNat_lt _)

/-- A footer that is built passes. -/
theorem isValid_build (payload : UInt64) (stamp : Stamp) : isValid (build payload stamp) = true := by
  have hcookie : (build payload stamp).take 8 = cookie := by
    simp only [build, front, List.append_assoc]
    exact List.take_left' length_cookie
  simp only [isValid, length_build, hcookie, storedChecksum_build, checksum_build, decide_true, Bool.and_self]

theorem diskSize_build (payload : UInt64) (stamp : Stamp) : diskSize (build payload stamp) = payload := by
  -- The size stands twice, the second time as the current one.
  have hfield : ∃ before after, build payload stamp = before ++ bigEndian 8 payload.toNat ++ after ∧
      before.length = 48 := by
    have hassoc : ∀ x f g h t c b : List UInt8,
        x ++ f ++ g ++ h ++ t ++ c ++ b = x ++ f ++ (g ++ h ++ t ++ c ++ b) := by
      intros
      simp only [List.append_assoc]
    exact ⟨_, _, hassoc .., by simp [length_cookie]⟩
  obtain ⟨before, after, hbuild, hlength⟩ := hfield
  have hword : payload.toNat % 256 ^ 8 = payload.toNat := Nat.mod_eq_of_lt (UInt64.toNat_lt payload)
  rw [diskSize, hbuild, take_drop_field hlength (length_bigEndian ..), ofBigEndian_bigEndian, hword,
    UInt64.ofNat_toNat]

end Footer

end BlobDisk.Vhd
