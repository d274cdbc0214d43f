import BlobDisk.Proofs.Vhd.Footer

/-!
# What the checksum of a footer guards

A footer that is built passes, and one that passes is guarded byte by byte: no other byte in place of a
single one lets it pass again. Of footers that differ in one byte of the checksum field all other bytes
have the same sum, so only one of them can hold it. Everywhere else, the cookie included, the byte is part
of the sum, and too small to leave it the same modulo the word.

* `Vhd.ofBigEndian_inj`: numbers of one width are told apart by their bytes;
* `Vhd.Footer.byteSum`, `Vhd.Footer.eq_of_invertedSum`: a single byte shows in the sum;
* `Vhd.Footer.storedChecksum_field`, `Vhd.Footer.checksum_covered`: what a byte of the checksum field, or
  another one, leaves as it is;
* `Vhd.Footer.eq_of_isValid`: footers that pass and differ in no more than one byte are the same;
* `Vhd.Footer.guards_each_byte`: footers that are built, and bytes that are changed.
-/

namespace BlobDisk.Vhd

/-- Bytes that go on from two numbers to the same one go on from the same number and are the same. -/
theorem eq_of_foldl_bytes {a b : List UInt8} {m n : Nat} (hlength : a.length = b.length)
    (h : a.foldl (fun n b => n * 256 + b.toNat) m = b.foldl (fun n b => n * 256 + b.toNat) n) :
    m = n ∧ a = b := by
  induction a generalizing b m n with
  | nil =>
    obtain rfl := List.length_eq_zero_iff.mp hlength.symm
    exact ⟨h, rfl⟩
  | cons x a ih =>
    cases b with
    | nil => cases hlength
    | cons y b =>
      obtain ⟨hfront, rfl⟩ := ih (Nat.succ.inj hlength) h
      have hfront : m * 256 + x.toNat = n * 256 + y.toNat := hfront
      have hx : x.toNat < 256 := x.toNat_lt
      have hy : y.toNat < 256 := y.toNat_lt
      have hxy : x = y := UInt8.toNat_inj.mp (by omega)
      exact ⟨by omega, by rw [hxy]⟩

/-- Numbers of one width that are equal have the same bytes. -/
theorem ofBigEndian_inj {a b : List UInt8} (hlength : a.length = b.length)
    (h : ofBigEndian a = ofBigEndian b) : a = b :=
  (eq_of_foldl_bytes hlength h).2

namespace Footer

variable {front back : List UInt8} {a b : UInt8} {n : Nat}

/-! ## The sum -/

/-- The sum of bytes. -/
def byteSum (bytes : List UInt8) : Nat := (bytes.map UInt8.toNat).sum

theorem byteSum_split (front back : List UInt8) (b : UInt8) :
    byteSum (front ++ b :: back) = byteSum front + b.toNat + byteSum back := by
  simp only [byteSum, List.map_append, List.map_cons, List.sum_append, List.sum_cons, Nat.add_assoc]

theorem toNat_invertedSum (bytes : List UInt8) :
    (invertedSum bytes).toNat = 0xFFFFFFFF - byteSum bytes % 0x100000000 := by
  have hsum : bytes.foldl (fun n b => n + b.toNat) 0 = byteSum bytes := by
    rw [byteSum, List.sum_eq_foldl, List.foldl_map]
  rw [invertedSum, hsum]
  exact UInt32.toNat_ofNat_of_lt' (Nat.lt_of_le_of_lt (Nat.sub_le _ _) (by decide))

/-- Two bytes at the same place are closer than a word, so they are told apart by the sum. -/
theorem eq_of_invertedSum (h : invertedSum (front ++ a :: back) = invertedSum (front ++ b :: back)) :
    a = b := by
  have ha : a.toNat < 256 := a.toNat_lt
  have hb : b.toNat < 256 := b.toNat_lt
  rw [← UInt32.toNat_inj, toNat_invertedSum, toNat_invertedSum, byteSum_split, byteSum_split] at h
  exact UInt8.toNat_inj.mp (by omega)

/-! ## Footers that differ in one byte -/

theorem take_behind (h : front.length < n) (b : UInt8) :
    (front ++ b :: back).take n = front ++ b :: back.take (n - (front.length + 1)) := by
  rw [List.take_append, List.take_of_length_le (Nat.le_of_lt h),
    show n - front.length = n - (front.length + 1) + 1 by omega, List.take_succ_cons]

theorem drop_behind (h : front.length < n) (b : UInt8) :
    (front ++ b :: back).drop n = back.drop (n - (front.length + 1)) := by
  rw [List.drop_append, List.drop_eq_nil_of_le (Nat.le_of_lt h), List.nil_append,
    show n - front.length = n - (front.length + 1) + 1 by omega, List.drop_succ_cons]

/-- In the checksum field a byte is not covered. -/
theorem checksum_field (hfrom : 64 ≤ front.length) (hto : front.length < 68) (b : UInt8) :
    checksum (front ++ b :: back) = invertedSum (front.take 64 ++ back.drop (68 - (front.length + 1))) := by
  rw [checksum, List.take_append_of_le_length hfrom, drop_behind hto]

/-- There it is part of the checksum that the footer holds. -/
theorem storedChecksum_field (hfrom : 64 ≤ front.length) (hto : front.length < 68) (b : UInt8) :
    storedChecksum (front ++ b :: back) =
      ofBigEndian (front.drop 64 ++ b :: back.take (4 - ((front.drop 64).length + 1))) := by
  have hcut : (front.drop 64).length < 4 := by
    rw [List.length_drop]
    omega
  rw [storedChecksum, List.drop_append_of_le_length hfrom, take_behind hcut]

/-- Everywhere else a byte is covered. -/
theorem checksum_covered (back : List UInt8) (h : front.length < 64 ∨ 68 ≤ front.length) :
    ∃ before after, ∀ b, checksum (front ++ b :: back) = invertedSum (before ++ b :: after) := by
  rcases h with hfront | hback
  · refine ⟨front, back.take (64 - (front.length + 1)) ++ back.drop (68 - (front.length + 1)), fun b => ?_⟩
    rw [checksum, take_behind hfront, drop_behind (by omega), List.append_assoc, List.cons_append]
  · refine ⟨front.take 64 ++ front.drop 68, back, fun b => ?_⟩
    rw [checksum, List.take_append_of_le_length (by omega), List.drop_append_of_le_length hback,
      List.append_assoc]

/-- There it makes no difference to the checksum that the footer holds. -/
theorem storedChecksum_covered (back : List UInt8) (h : front.length < 64 ∨ 68 ≤ front.length) :
    ∃ stored, ∀ b, storedChecksum (front ++ b :: back) = stored := by
  rcases h with hfront | hback
  · refine ⟨ofBigEndian ((back.drop (64 - (front.length + 1))).take 4), fun b => ?_⟩
    rw [storedChecksum, drop_behind hfront]
  · refine ⟨ofBigEndian ((front.drop 64).take 4), fun b => ?_⟩
    have hcut : 4 ≤ (front.drop 64).length := by
      rw [List.length_drop]
      omega
    rw [storedChecksum, List.drop_append_of_le_length (by omega), List.take_append_of_le_length hcut]

theorem isValid_eq_true {bytes : List UInt8} : isValid bytes = true ↔
    bytes.length = size ∧ bytes.take 8 = cookie ∧ storedChecksum bytes = (checksum bytes).toNat := by
  simp only [isValid, Bool.and_eq_true, decide_eq_true_eq, and_assoc]

/-- Footers that pass and differ in no more than one byte do not differ. -/
theorem eq_of_isValid (ha : isValid (front ++ a :: back) = true)
    (hb : isValid (front ++ b :: back) = true) : a = b := by
  obtain ⟨-, -, ha⟩ := isValid_eq_true.mp ha
  obtain ⟨-, -, hb⟩ := isValid_eq_true.mp hb
  by_cases hfield : 64 ≤ front.length ∧ front.length < 68
  · obtain ⟨hfrom, hto⟩ := hfield
    rw [checksum_field hfrom hto, storedChecksum_field hfrom hto] at ha hb
    have hbytes := ofBigEndian_inj (by simp) (ha.trans hb.symm)
    exact (List.cons.inj (List.append_cancel_left hbytes)).1
  · have hcovered : front.length < 64 ∨ 68 ≤ front.length := by omega
    obtain ⟨before, after, hsum⟩ := checksum_covered back hcovered
    obtain ⟨stored, hstored⟩ := storedChecksum_covered back hcovered
    rw [hsum, hstored] at ha hb
    exact eq_of_invertedSum (UInt32.toNat_inj.mp (ha.symm.trans hb))

/-- The footer of a payload has 512 bytes, passes, and records the size of the payload. And whatever bytes
pass, there are 512 of them, and with another byte at any one place they do not pass. -/
theorem guards_each_byte :
    (∀ payload stamp, (build payload stamp).length = 512 ∧ isValid (build payload stamp) = true ∧
      diskSize (build payload stamp) = payload) ∧
    ∀ bytes, isValid bytes = true → bytes.length = 512 ∧
      ∀ i (hi : i < bytes.length) (v : UInt8), v ≠ bytes[i] → isValid (bytes.set i v) = false := by
  refine ⟨fun payload stamp => ⟨length_build payload stamp, isValid_build payload stamp,
    diskSize_build payload stamp⟩, fun bytes hvalid => ⟨(isValid_eq_true.mp hvalid).1, fun i hi v hv => ?_⟩⟩
  have hsplit : bytes = bytes.take i ++ bytes[i] :: bytes.drop (i + 1) := by
    rw [← List.drop_eq_getElem_cons hi, List.take_append_drop]
  have hset : bytes.set i v = bytes.take i ++ v :: bytes.drop (i + 1) := by
    rw [List.set_eq_take_append_cons_drop, if_pos hi]
  rw [hsplit] at hvalid
  rw [hset, Bool.eq_false_iff]
  exact fun hchanged => hv (eq_of_isValid hchanged hvalid)

/-- The footer of a disk of four gigabytes, its size changed in one byte, and its checksum. -/
theorem guards_each_byte_sample : ∃ footer, footer = build 4294966784 default ∧ isValid footer = true ∧
    isValid (footer.set 44 1) = false ∧ isValid (footer.set 67 0) = false := by
  have hpasses := (guards_each_byte.1 4294966784 default).2.1
  have hguards := (guards_each_byte.2 _ hpasses).2
  exact ⟨_, rfl, hpasses, hguards 44 (by decide +kernel) 1 (by decide +kernel),
    hguards 67 (by decide +kernel) 0 (by decide +kernel)⟩

end Footer

end BlobDisk.Vhd
