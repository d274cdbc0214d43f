import BlobDisk.Proofs.Store.History

/-!
# The bytes of a blob

A blob is kept as the list of its writes, and a read lays them over zeros one by one. Seen from outside
it is a flat array of bytes in which every write replaces its own range.

* `ByteRange.slice`, `ByteRange.overwrite`: a read of and a write to a flat array;
* `StoredBlob.overlay_slice`: to lay a write over what is read is to read what the write leaves;
* `StoredBlob.Holds`: the invariant, that a blob reads as an array does;
* `MemoryStore.readRange_written`: what is read from a blob is what the writes that went through left.
-/

namespace BlobDisk

/-! ## Flat arrays -/

namespace ByteRange

variable {r window range : ByteRange} {data bytes out : List UInt8} {i : Nat}

/-- The bytes of the range in an array. -/
def slice (r : ByteRange) (bytes : List UInt8) : List UInt8 := (bytes.drop r.first).take r.length

/-- The array with the bytes of the range replaced. -/
def overwrite (r : ByteRange) (data bytes : List UInt8) : List UInt8 :=
  bytes.take r.first ++ data ++ bytes.drop (r.last + 1)

/-- The data fill the range, which is not empty and lies within `size` bytes. -/
structure Filled (r : ByteRange) (data : List UInt8) (size : Nat) : Prop where
  nonempty : r.first ≤ r.last
  within : r.last < size
  length : data.length = r.length

theorem getElem?_slice : (r.slice bytes)[i]? = if i < r.length then bytes[r.first + i]? else none := by
  rw [slice, List.getElem?_take, List.getElem?_drop]

theorem length_slice (h : r.last < bytes.length) : (r.slice bytes).length = r.length := by
  rw [slice, List.length_take, List.length_drop, length]
  omega

theorem length_overwrite (h : r.Filled data bytes.length) :
    (r.overwrite data bytes).length = bytes.length := by
  obtain ⟨hr, hin, hdata⟩ := h
  rw [length] at hdata
  rw [overwrite, List.length_append, List.length_append, List.length_take, List.length_drop]
  omega

/-- A part of an array replaced by as many bytes. -/
theorem getElem?_splice {start stop : Nat} {part : List UInt8} (hstop : stop = start + part.length)
    (hstart : start ≤ bytes.length) : (bytes.take start ++ part ++ bytes.drop stop)[i]? =
      if start ≤ i ∧ i < stop then part[i - start]? else bytes[i]? := by
  have htake : (bytes.take start).length = start := by
    rw [List.length_take]
    omega
  rw [List.append_assoc]
  by_cases hbefore : i < start
  · rw [List.getElem?_append_left (by omega), List.getElem?_take, if_pos hbefore, if_neg (by omega)]
  · rw [List.getElem?_append_right (by omega), htake]
    by_cases hwithin : i < stop
    · rw [List.getElem?_append_left (by omega), if_pos (by omega)]
    · rw [List.getElem?_append_right (by omega), List.getElem?_drop, if_neg (by omega)]
      congr 1
      omega

/-- Within the range stand the data, and elsewhere what stood there before. -/
theorem getElem?_overwrite (h : r.Filled data bytes.length) :
    (r.overwrite data bytes)[i]? =
      if r.first ≤ i ∧ i < r.last + 1 then data[i - r.first]? else bytes[i]? := by
  obtain ⟨hr, hin, hdata⟩ := h
  rw [length] at hdata
  exact getElem?_splice (by omega) (by omega)

end ByteRange

/-! ## Blobs as arrays -/

namespace StoredBlob

open ByteRange

variable {s s' : StoredBlob} {window range : ByteRange} {data bytes out : List UInt8} {i : Nat}

/-- A write shows at the places of the window that its range reaches. -/
theorem getElem?_overlay (hout : out.length = window.length) (hdata : data.length = range.length) :
    (overlay window out (range, data))[i]? =
      if i < window.length ∧ range.first ≤ window.first + i ∧ window.first + i < range.last + 1 then
        data[window.first + i - range.first]?
      else out[i]? := by
  rw [ByteRange.length] at hout hdata ⊢
  simp only [overlay]
  -- The part of the write in the window, from `first` to `last`.
  generalize hfirst : max range.first window.first = first
  generalize hlast : min range.last window.last = last
  by_cases hapart : last < first
  · rw [if_pos hapart, if_neg (by omega)]
  · have hpart : ((data.drop (first - range.first)).take (last + 1 - first)).length = last + 1 - first := by
      rw [List.length_take, List.length_drop]
      omega
    rw [if_neg hapart, getElem?_splice (by omega) (by omega)]
    by_cases hwithin : window.first + i < first ∨ last < window.first + i
    · rw [if_neg (by omega), if_neg (by omega)]
    · rw [if_pos (by omega), if_pos (by omega), List.getElem?_take, if_pos (by omega), List.getElem?_drop]
      congr 1
      omega

/-- To lay a write over what is read of an array is to read the array that the write leaves. -/
theorem overlay_slice (hwindow : window.last < bytes.length) (h : range.Filled data bytes.length) :
    overlay window (window.slice bytes) (range, data) = window.slice (range.overwrite data bytes) := by
  apply List.ext_getElem?
  intro i
  rw [getElem?_overlay (length_slice hwindow) h.length, getElem?_slice, getElem?_slice,
    getElem?_overwrite h]
  by_cases hi : i < window.length
  · simp only [hi, true_and, if_true]
  · simp only [hi, false_and, if_false]

/-- The blob reads as the array does, wherever it is read. -/
structure Holds (s : StoredBlob) (bytes : List UInt8) : Prop where
  length : bytes.length = s.size.toNat
  read : ∀ window, window.last < s.size.toNat → s.read window = window.slice bytes

theorem holds_fresh (size : UInt64) (kind : BlobKind) :
    (fresh size kind).Holds (List.replicate size.toNat 0) := by
  refine ⟨List.length_replicate, fun window hwindow => ?_⟩
  have hwindow : window.last < size.toNat := hwindow
  rw [slice, List.drop_replicate, List.take_replicate, Nat.min_eq_left]
  · rfl
  · rw [ByteRange.length]
    omega

theorem Holds.write (h : s.Holds bytes) (hfilled : range.Filled data s.size.toNat) :
    { s with writes := s.writes ++ [(range, data)] }.Holds (range.overwrite data bytes) := by
  rw [← h.length] at hfilled
  refine ⟨(length_overwrite hfilled).trans h.length, fun window hwindow => ?_⟩
  have hwindow : window.last < s.size.toNat := hwindow
  calc { s with writes := s.writes ++ [(range, data)] }.read window
      = overlay window (s.read window) (range, data) := by
        simp only [StoredBlob.read, List.foldl_append, List.foldl_cons, List.foldl_nil]
    _ = overlay window (window.slice bytes) (range, data) := by rw [h.read window hwindow]
    _ = window.slice (range.overwrite data bytes) := overlay_slice (h.length ▸ hwindow) hfilled

/-- What a blob holds depends on its size and its writes alone. -/
theorem Holds.congr (h : s.Holds bytes) (hsize : s'.size = s.size) (hwrites : s'.writes = s.writes) :
    s'.Holds bytes := by
  refine ⟨hsize ▸ h.length, fun window hwindow => ?_⟩
  rw [StoredBlob.read, hwrites]
  exact h.read window (hsize ▸ hwindow)

end StoredBlob

/-! ## The writes of a history -/

/-- The array behind the blob at `b` after a call: a write to the blob that went through replaces its
range, and nothing else does anything. -/
def Served.writeOn (b : BlobPath) (bytes : List UInt8) : Served → List UInt8
  | ⟨.writeRange k range data _, .ok _⟩ => if k = b then range.overwrite data bytes else bytes
  | _ => bytes

/-- The array of `size` zeros after the writes to the blob at `b` that went through, in their order. -/
def written (b : BlobPath) (size : Nat) (history : List Served) : List UInt8 :=
  history.foldl (Served.writeOn b) (List.replicate size 0)

namespace MemoryStore

open StoredBlob

variable {m m' : MemoryStore} {b : BlobPath} {s : StoredBlob} {call : StoreCall} {fresh : String}
  {range : ByteRange} {data bytes : List UInt8} {lease : Option String} {size : UInt64}

theorem checkRange_eq_ok :
    checkRange range size = .ok () ↔ range.first ≤ range.last ∧ range.last < size.toNat := by
  simp only [checkRange, ite_error_eq_ok, ByteRange.isEmpty, decide_eq_true_eq, and_true]
  omega

theorem checkPages_eq_ok :
    checkPages range size = .ok () ↔ range.first ≤ range.last ∧ range.first % Size.sectorBytes = 0 ∧
      range.length % Size.sectorBytes = 0 ∧ range.last < size.toNat := by
  simp only [checkPages, ite_error_eq_ok, ByteRange.isEmpty, decide_eq_true_eq, and_true]
  omega

/-- A write that goes through fills a range of its blob, and is the last of the blob's writes then. -/
theorem blob?_of_writeRange (hs : m.blob? b = some s) (h : m.writeRange b range data lease = .ok m') :
    range.Filled data s.size.toNat ∧
      m'.blob? b = some { s with writes := s.writes ++ [(range, data)] } := by
  obtain ⟨s', hs', -, hblobs⟩ := writeRange_eq_ok h
  obtain rfl : s = s' := Option.some.inj (hs.symm.trans hs')
  refine ⟨?_, by rw [blob?_congr hblobs, blob?_put, if_pos rfl]⟩
  simp only [writeRange, bind_eq_ok, guard_eq_ok, find_eq_ok] at h
  obtain ⟨t, ht, ⟨⟩, -, ⟨⟩, hpages, hlength, -⟩ := h
  obtain rfl : s = t := Option.some.inj (hs.symm.trans ht)
  obtain ⟨hrange, -, -, hin⟩ := checkPages_eq_ok.mp hpages
  exact ⟨hrange, hin, Decidable.not_not.mp hlength⟩

theorem writeOn_of_ne {answer : Except Error call.Answer}
    (h : ∀ range data lease, call ≠ .writeRange b range data lease) :
    Served.writeOn b bytes ⟨call, answer⟩ = bytes := by
  cases call with
  | writeRange k range data lease =>
    have hk : k ≠ b := by
      rintro rfl
      exact h range data lease rfl
    cases answer with
    | ok _ => exact if_neg hk
    | error e => rfl
  | _ => rfl

/-- While a blob is neither made anew nor removed, a call leaves it holding the array that the call
leaves. -/
theorem holds_perform (fresh : String) (hs : m.blob? b = some s) (h : s.Holds bytes)
    (hcreate : ∀ size, call ≠ .createPageBlob b size) (hdelete : ∀ lease, call ≠ .deleteBlob b lease) :
    ∃ s', (m.perform fresh call).2.blob? b = some s' ∧ s'.size = s.size ∧
      s'.Holds (Served.writeOn b bytes ⟨call, (m.perform fresh call).1⟩) := by
  by_cases hwrite : ∃ range data lease, call = .writeRange b range data lease
  · obtain ⟨range, data, lease, rfl⟩ := hwrite
    simp only [perform]
    cases hm : m.writeRange b range data lease with
    | error e => exact ⟨s, hs, rfl, h⟩
    | ok m' =>
      obtain ⟨hfilled, hs'⟩ := blob?_of_writeRange hs hm
      refine ⟨_, hs', rfl, ?_⟩
      simp only [settle, Served.writeOn, if_true]
      exact h.write hfilled
  · have hwrite : ∀ range data lease, call ≠ .writeRange b range data lease :=
      fun range data lease heq => hwrite ⟨range, data, lease, heq⟩
    rw [writeOn_of_ne hwrite]
    have hchange := change_perform fresh m b call
    rw [hs] at hchange
    generalize (m.perform fresh call).2.blob? b = new at hchange
    cases hchange with
    | keep => exact ⟨s, rfl, rfl, h⟩
    | create _ => exact (hcreate _ rfl).elim
    | delete _ => exact (hdelete _ rfl).elim
    | write _ => exact (hwrite _ _ _ rfl).elim
    | setMetadata _ | acquire _ | breakLease _ => exact ⟨_, rfl, rfl, h.congr rfl rfl⟩

theorem holds_serve {calls : List (StoreCall × String)} (hs : m.blob? b = some s) (h : s.Holds bytes)
    (hcreate : ∀ p ∈ calls, ∀ size, p.1 ≠ .createPageBlob b size)
    (hdelete : ∀ p ∈ calls, ∀ lease, p.1 ≠ .deleteBlob b lease) :
    ∃ s', (m.serve calls).2.blob? b = some s' ∧ s'.size = s.size ∧
      s'.Holds ((m.serve calls).1.foldl (Served.writeOn b) bytes) := by
  induction calls generalizing m s bytes with
  | nil => exact ⟨s, hs, rfl, h⟩
  | cons p rest ih =>
    obtain ⟨call, fresh⟩ := p
    obtain ⟨t, ht, htsize, htholds⟩ := holds_perform fresh hs h
      (hcreate (call, fresh) List.mem_cons_self) (hdelete (call, fresh) List.mem_cons_self)
    obtain ⟨s', hs', hsize, hholds⟩ := ih ht htholds
      (fun q hq => hcreate q (List.mem_cons_of_mem _ hq))
      (fun q hq => hdelete q (List.mem_cons_of_mem _ hq))
    exact ⟨s', hs', hsize.trans htsize, hholds⟩

/-- A read within a blob returns what the blob holds, if a lease id presented with it is the live
one. -/
theorem readRange_of_holds (hs : m.blob? b = some s) (h : s.Holds bytes)
    (hrange : range.first ≤ range.last) (hin : range.last < s.size.toNat)
    (hlease : StoredBlob.presented lease = none ∨ StoredBlob.presented lease = s.leaseId) :
    m.readRange b range lease = .ok (range.slice bytes) := by
  have hread : s.checkReadLease b lease = .ok () := by
    unfold checkReadLease
    rcases hlease with hnone | hlive
    · rw [hnone]
    · split
      · rfl
      · exact checkWriteLease_eq_ok.mpr hlive.symm
  have hfind : m.find b = .ok s := find_eq_ok.mpr hs
  have hcheck : checkRange range s.size = .ok () := checkRange_eq_ok.mpr ⟨hrange, hin⟩
  rw [← h.read range hin, readRange, bind_eq_ok]
  refine ⟨s, hfind, ?_⟩
  rw [check_eq_ok, check_eq_ok]
  exact ⟨hread, hcheck, rfl⟩

/-- A blob that was made with `size` bytes and is neither made anew nor removed reads as a flat array
does: as `size` zeros in which each write that went through has replaced its range, in their order. Other
calls may come between the writes, and any of them may be refused. -/
theorem readRange_written {m₀ : MemoryStore} {calls : List (StoreCall × String)}
    (hmade : m₀.perform fresh (.createPageBlob b size) = (.ok (), m))
    (hcreate : ∀ p ∈ calls, ∀ n, p.1 ≠ .createPageBlob b n)
    (hdelete : ∀ p ∈ calls, ∀ lease, p.1 ≠ .deleteBlob b lease)
    (hrange : range.first ≤ range.last) (hin : range.last < size.toNat)
    (hlease : StoredBlob.presented lease = none ∨
      StoredBlob.presented lease = (m.serve calls).2.lease? b) :
    (m.serve calls).2.readRange b range lease =
      .ok (range.slice (written b size.toNat (m.serve calls).1)) := by
  have hs : m.blob? b = some (.fresh size .page) := by
    simp only [perform] at hmade
    cases hm : m₀.createPageBlob b size with
    | error e =>
      rw [hm] at hmade
      cases hmade
    | ok m' =>
      obtain ⟨-, rfl⟩ := createPageBlob_eq_ok hm
      rw [hm] at hmade
      cases hmade
      rw [blob?_put, if_pos rfl]
  obtain ⟨s, hs', hsize, hholds⟩ := holds_serve hs (holds_fresh size .page) hcreate hdelete
  refine readRange_of_holds hs' hholds hrange ?_ ?_
  · rw [hsize]
    exact hin
  · rwa [lease?, hs'] at hlease

/-- A store with a new disk of four sectors. -/
def newDisk : MemoryStore :=
  ({ containers := ["disks"] } : MemoryStore).put ⟨"disks", "a"⟩ (.fresh 2048 .page)

/-- Writes that overlap at either end and in the middle, one of them under a lease, among writes that are
refused: out of line, beyond the end, too short, without the lease id. -/
def overlappingWrites : List (StoreCall × String) :=
  [(.writeRange ⟨"disks", "a"⟩ ⟨0, 1535⟩ (List.replicate 1536 1) none, ""),
    (.writeRange ⟨"disks", "a"⟩ ⟨1, 512⟩ (List.replicate 512 9) none, ""),
    (.writeRange ⟨"disks", "a"⟩ ⟨1024, 2047⟩ (List.replicate 1024 2) none, ""),
    (.writeRange ⟨"disks", "a"⟩ ⟨1536, 2559⟩ (List.replicate 1024 9) none, ""),
    (.acquireLease ⟨"disks", "a"⟩ .infinite, "mine"),
    (.writeRange ⟨"disks", "a"⟩ ⟨512, 1023⟩ (List.replicate 512 9) none, ""),
    (.writeRange ⟨"disks", "a"⟩ ⟨512, 1023⟩ (List.replicate 511 9) (some "mine"), ""),
    (.writeRange ⟨"disks", "a"⟩ ⟨512, 1023⟩ (List.replicate 512 3) (some "mine"), ""),
    (.setMetadata ⟨"disks", "a"⟩ [("k", "v")] (some "mine"), "")]

theorem readRange_written_overlapping :
    (newDisk.serve overlappingWrites).2.readRange ⟨"disks", "a"⟩ ⟨510, 1025⟩ (some "mine") =
        .ok (ByteRange.slice ⟨510, 1025⟩
          (written ⟨"disks", "a"⟩ (UInt64.toNat 2048) (newDisk.serve overlappingWrites).1)) ∧
      ByteRange.slice ⟨510, 1025⟩ (written ⟨"disks", "a"⟩ 2048 (newDisk.serve overlappingWrites).1) =
        [1, 1] ++ List.replicate 512 3 ++ [2, 2] :=
  have hmade : ({ containers := ["disks"] } : MemoryStore).perform ""
      (.createPageBlob ⟨"disks", "a"⟩ 2048) = (.ok (), newDisk) := rfl
  ⟨readRange_written hmade (by simp [overlappingWrites, -List.reduceReplicate])
    (by simp [overlappingWrites, -List.reduceReplicate]) (by decide) (by decide) (by decide +kernel),
    by decide +kernel⟩

end MemoryStore

end BlobDisk
