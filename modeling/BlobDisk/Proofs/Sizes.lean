import BlobDisk.Record
import Mathlib.Algebra.Ring.Nat

/-!
# The arithmetic of sizes

The words of `Size` read as natural numbers. Counting sectors rounds nothing away, since the payload is
whole sectors, with a footer and without; only the way back to gigabytes rounds down.

* `Size.objectBytes_eq_ok`, `Size.payloadBytes_eq_ok`, `Size.sectorsFor_eq_ok`, `Size.gbOfSectors_eq_ok`:
  what is computed, and that it is computed just if it fits a word;
* `Size.dvd_payload`, `Size.sectors_le_iff`: sectors and gigabytes as numbers;
* `Size.exists_sectorsFor_error`, `Size.exists_gbOfSectors_error`: what is too large;
* `Size.payloadBytes_iff_sectorsFor`: a payload is whole sectors;
* `Size.gbOfSectors_sectorsFor`: the way back;
* `Size.sectorsFor_adjoint`: the two ways are adjoint, over all words;
* `Record.extent`: the bytes of a blob that a record lays claim to, footer included;
* `Record.extent_le`: sectors counted from the size of a blob stay within the blob.
-/

namespace BlobDisk

namespace Size

variable {g w s : UInt64} {trailer : Bool}

/-! ## Sectors and gigabytes as numbers -/

/-- Without its footer an object is still whole sectors, and so is an object too small for one. -/
theorem dvd_payload (n : Nat) (trailer : Bool) : sectorBytes ∣ n * gib - footerShare trailer := by
  have hgib : sectorBytes ∣ gib := by decide
  have hshare : sectorBytes ∣ footerShare trailer := by
    cases trailer with
    | false => exact Nat.dvd_zero _
    | true => exact Nat.dvd_refl _
  exact Nat.dvd_sub (Nat.dvd_mul_left_of_dvd hgib n) hshare

/-- An object of `n` gigabytes has at most `k` sectors beside its footer just if `k` sectors and a
footer are at least `n` whole gigabytes. -/
theorem sectors_le_iff (n k : Nat) (trailer : Bool) :
    (n * gib - footerShare trailer) / sectorBytes ≤ k ↔
      n ≤ (k * sectorBytes + footerShare trailer) / gib :=
  calc (n * gib - footerShare trailer) / sectorBytes ≤ k
    _ ↔ n * gib - footerShare trailer ≤ k * sectorBytes :=
      Nat.div_le_iff_le_mul_of_dvd (by decide) (dvd_payload n trailer)
    _ ↔ n * gib ≤ k * sectorBytes + footerShare trailer := Nat.sub_le_iff_le_add
    _ ↔ n ≤ (k * sectorBytes + footerShare trailer) / gib :=
      (Nat.le_div_iff_mul_le (by decide)).symm

/-- Sectors counted from gigabytes are as many gigabytes, also when there are none of either. -/
theorem gigabytes_sectors (n : Nat) (trailer : Bool) :
    ((n * gib - footerShare trailer) / sectorBytes * sectorBytes + footerShare trailer) / gib = n := by
  have hshare : footerShare trailer < gib := by cases trailer <;> decide
  rw [Nat.div_mul_cancel (dvd_payload n trailer)]
  cases n with
  | zero => rw [Nat.zero_mul, Nat.zero_sub, Nat.zero_add, Nat.div_eq_of_lt hshare]
  | succ n =>
    have hroom : footerShare trailer ≤ (n + 1) * gib :=
      Nat.le_trans (Nat.le_of_lt hshare) (Nat.le_mul_of_pos_left gib n.succ_pos)
    rw [Nat.sub_add_cancel hroom, Nat.mul_div_cancel _ (by decide)]

/-- There are fewer sectors than bytes. -/
theorem sectors_lt {n : Nat} (h : n * gib < wordLimit) (trailer : Bool) :
    (n * gib - footerShare trailer) / sectorBytes < wordLimit :=
  Nat.lt_of_le_of_lt (Nat.le_trans (Nat.div_le_self _ _) (Nat.sub_le _ _)) h

/-! ## Words -/

/-- A word that is computed just if `c` holds, and then as the number `n`, is refused just if `c` does
not hold. -/
theorem exists_error_iff {x : Except Error UInt64} {c : Prop} {n : Nat}
    (hok : ∀ w, x = .ok w ↔ c ∧ w.toNat = n) (hn : c → n < wordLimit) : (∃ e, x = .error e) ↔ ¬ c := by
  constructor
  · rintro ⟨e, he⟩ hc
    have hword : x = .ok (UInt64.ofNat n) := (hok _).mpr ⟨hc, UInt64.toNat_ofNat_of_lt' (hn hc)⟩
    cases he.symm.trans hword
  · intro hc
    cases hx : x with
    | error e => exact ⟨e, rfl⟩
    | ok w => exact (hc ((hok w).mp hx).1).elim

theorem objectBytes_eq_ok : objectBytes g = .ok w ↔ w.toNat = g.toNat * gib := by
  unfold objectBytes
  have hw : w.toNat < wordLimit := w.toNat_lt
  split
  · rename_i h
    rw [Except.ok.injEq, ← UInt64.toNat_inj, UInt64.toNat_ofNat_of_lt' h]
    exact eq_comm
  · simp only [reduceCtorEq, false_iff]
    omega

theorem payloadBytes_eq_ok : payloadBytes g trailer = .ok w ↔
    g.toNat * gib < wordLimit ∧ w.toNat = g.toNat * gib - footerShare trailer := by
  simp only [payloadBytes, bind_eq_ok, pure_eq_ok, objectBytes_eq_ok]
  constructor
  · rintro ⟨bytes, hb, rfl⟩
    have hlt : bytes.toNat < wordLimit := bytes.toNat_lt
    refine ⟨hb ▸ hlt, ?_⟩
    cases trailer with
    | false => simpa [footerShare] using hb
    | true =>
      rw [if_pos rfl, UInt64.toNat_ofNat_of_lt' (Nat.lt_of_le_of_lt (Nat.sub_le _ _) hlt), hb]
      rfl
  · rintro ⟨hlt, hw⟩
    have hbytes : (UInt64.ofNat (g.toNat * gib)).toNat = g.toNat * gib := UInt64.toNat_ofNat_of_lt' hlt
    refine ⟨UInt64.ofNat (g.toNat * gib), hbytes, ?_⟩
    cases trailer with
    | false => exact UInt64.toNat_inj.mp (hbytes.trans hw.symm)
    | true =>
      have hw : w.toNat = g.toNat * gib - trailerBytes := hw
      rw [if_pos rfl, hbytes, ← hw, UInt64.ofNat_toNat]

theorem sectorsFor_eq_ok : sectorsFor g trailer = .ok s ↔
    g.toNat * gib < wordLimit ∧ s.toNat = (g.toNat * gib - footerShare trailer) / sectorBytes := by
  simp only [sectorsFor, bind_eq_ok, pure_eq_ok, payloadBytes_eq_ok]
  constructor
  · rintro ⟨payload, ⟨hg, hp⟩, rfl⟩
    have hlt : payload.toNat < wordLimit := payload.toNat_lt
    refine ⟨hg, ?_⟩
    rw [UInt64.toNat_ofNat_of_lt' (Nat.lt_of_le_of_lt (Nat.div_le_self _ _) hlt), hp]
  · rintro ⟨hg, hs⟩
    have hpayload : (UInt64.ofNat (g.toNat * gib - footerShare trailer)).toNat =
        g.toNat * gib - footerShare trailer :=
      UInt64.toNat_ofNat_of_lt' (Nat.lt_of_le_of_lt (Nat.sub_le _ _) hg)
    refine ⟨_, ⟨hg, hpayload⟩, ?_⟩
    rw [hpayload, ← hs, UInt64.ofNat_toNat]

theorem gbOfSectors_eq_ok : gbOfSectors s trailer = .ok g ↔
    s.toNat * sectorBytes + footerShare trailer < wordLimit ∧
      g.toNat = (s.toNat * sectorBytes + footerShare trailer) / gib := by
  unfold gbOfSectors
  dsimp only
  split
  · rename_i h
    have hlt := Nat.lt_of_le_of_lt (Nat.div_le_self (s.toNat * sectorBytes + footerShare trailer) gib) h
    rw [Except.ok.injEq, ← UInt64.toNat_inj, UInt64.toNat_ofNat_of_lt' hlt]
    exact ⟨fun hg => ⟨h, hg.symm⟩, fun hg => hg.2.symm⟩
  · rename_i h
    exact ⟨nofun, fun hg => (h hg.1).elim⟩

theorem exists_sectorsFor_error :
    (∃ e, sectorsFor g trailer = .error e) ↔ wordLimit ≤ g.toNat * gib := by
  rw [exists_error_iff (fun _ => sectorsFor_eq_ok) (sectors_lt · trailer), Nat.not_lt]

theorem exists_gbOfSectors_error : (∃ e, gbOfSectors s trailer = .error e) ↔
    wordLimit ≤ s.toNat * sectorBytes + footerShare trailer := by
  have hfits : s.toNat * sectorBytes + footerShare trailer < wordLimit →
      (s.toNat * sectorBytes + footerShare trailer) / gib < wordLimit :=
    Nat.lt_of_le_of_lt (Nat.div_le_self _ _)
  rw [exists_error_iff (fun _ => gbOfSectors_eq_ok) hfits, Nat.not_lt]

/-- A payload is its sectors, with no byte left over. -/
theorem payloadBytes_iff_sectorsFor : payloadBytes g trailer = .ok w ↔
    ∃ n, sectorsFor g trailer = .ok n ∧ w.toNat = n.toNat * sectorBytes := by
  have hexact := Nat.div_mul_cancel (dvd_payload g.toNat trailer)
  rw [payloadBytes_eq_ok]
  constructor
  · rintro ⟨hg, hw⟩
    have hword := UInt64.toNat_ofNat_of_lt' (sectors_lt hg trailer)
    refine ⟨_, sectorsFor_eq_ok.mpr ⟨hg, hword⟩, ?_⟩
    rw [hw, hword, hexact]
  · rintro ⟨n, hn, hw⟩
    obtain ⟨hg, hn⟩ := sectorsFor_eq_ok.mp hn
    exact ⟨hg, by rw [hw, hn, hexact]⟩

/-- Sectors counted from gigabytes are as many gigabytes. -/
theorem gbOfSectors_sectorsFor (h : sectorsFor g trailer = .ok s) : gbOfSectors s trailer = .ok g := by
  obtain ⟨hg, hs⟩ := sectorsFor_eq_ok.mp h
  have hshare : footerShare trailer < wordLimit := by cases trailer <;> decide
  rw [gbOfSectors_eq_ok, hs, gigabytes_sectors, Nat.div_mul_cancel (dvd_payload _ trailer)]
  omega

/-- Sectors can be counted just of an object whose bytes fit a word, and gigabytes just of sectors that
fit one together with the footer. Then an object of `g` gigabytes has at most `s` sectors beside its
footer just if `s` sectors are at least `g` gigabytes, so that counting there and back again is exact;
and its payload is its sectors, with no byte left over. -/
theorem sectorsFor_adjoint (g s : UInt64) (trailer : Bool) :
    ((∃ e, sectorsFor g trailer = .error e) ↔ 2 ^ 64 ≤ g.toNat * 2 ^ 30) ∧
    ((∃ e, gbOfSectors s trailer = .error e) ↔
      2 ^ 64 ≤ s.toNat * 512 + if trailer then 512 else 0) ∧
    (∀ n k, sectorsFor g trailer = .ok n → gbOfSectors s trailer = .ok k → (n ≤ s ↔ g ≤ k)) ∧
    (∀ n, sectorsFor g trailer = .ok n → gbOfSectors n trailer = .ok g) ∧
    ∀ p, payloadBytes g trailer = .ok p ↔ ∃ n, sectorsFor g trailer = .ok n ∧ p.toNat = n.toNat * 512 := by
  refine ⟨exists_sectorsFor_error, exists_gbOfSectors_error, fun n k hn hk => ?_,
    fun n => gbOfSectors_sectorsFor, fun p => payloadBytes_iff_sectorsFor⟩
  rw [UInt64.le_iff_toNat_le, UInt64.le_iff_toNat_le, (sectorsFor_eq_ok.mp hn).2, (gbOfSectors_eq_ok.mp hk).2]
  exact sectors_le_iff ..

/-- The largest object whose bytes fit a word, and the most sectors that do beside a footer. -/
theorem sectorsFor_adjoint_largest : sectorsFor 17179869183 true = .ok 36028797016866815 ∧
    gbOfSectors 36028797018963966 true = .ok 17179869183 ∧
      ((36028797016866815 : UInt64) ≤ 36028797018963966 ↔ (17179869183 : UInt64) ≤ 17179869183) ∧
    gbOfSectors 36028797016866815 true = .ok 17179869183 := by
  have hn : sectorsFor 17179869183 true = .ok 36028797016866815 := sectorsFor_eq_ok.mpr (by decide)
  have hk : gbOfSectors 36028797018963966 true = .ok 17179869183 := gbOfSectors_eq_ok.mpr (by decide)
  have hadjoint := sectorsFor_adjoint 17179869183 36028797018963966 true
  exact ⟨hn, hk, hadjoint.2.2.1 _ _ hn hk, hadjoint.2.2.2.1 _ hn⟩

theorem gbOfObject_le (bytes : UInt64) : (gbOfObject bytes).toNat * gib ≤ bytes.toNat := by
  have h : bytes.toNat / gib < wordLimit := Nat.lt_of_le_of_lt (Nat.div_le_self _ _) bytes.toNat_lt
  rw [gbOfObject, UInt64.toNat_ofNat_of_lt' h]
  exact Nat.div_mul_le_self _ _

end Size

/-- The bytes of a blob that a record lays claim to: its sectors, and its footer if it has one. -/
def Record.extent (r : Record) : Nat :=
  r.sectorCount.toNat * Size.sectorBytes + Size.footerShare r.vhd

/-- Sectors counted from the size of a blob, if there are any, lie within the blob. -/
theorem Record.extent_le {r r' : Record} {bytes : UInt64}
    (h : r.setSizeGb (Size.gbOfObject bytes) = .ok r') (hr : r'.sectorCount ≠ 0) :
    r'.extent ≤ bytes.toNat := by
  simp only [setSizeGb, bind_eq_ok, pure_eq_ok] at h
  obtain ⟨sectors, hs, rfl⟩ := h
  obtain ⟨-, hs⟩ := Size.sectorsFor_eq_ok.mp hs
  have hle := Size.gbOfObject_le bytes
  have hpos : sectors.toNat ≠ 0 := fun e => hr (UInt64.toNat_inj.mp e)
  simp only [extent, Size.sectorBytes] at hs ⊢
  omega

end BlobDisk
