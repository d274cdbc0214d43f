import BlobDisk.Proofs.Store.Bytes
import BlobDisk.Proofs.Store.Contents
import BlobDisk.Proofs.Store.Reachable

/-!
# Stores whose parts agree

A store keeps containers, blobs, leases and writes apart, and no type says that they agree. That they do is
an invariant of its calls. Reads rest on it: they cut slices out of the data of a write and copy them into
the bytes that they return, and these slices are in bounds because every write that was kept brings just
the bytes of its range.

* `StoredBlob.read?`: a read that gives up at a difference below zero or a slice out of bounds;
* `StoredBlob.read?_eq_some`: it never gives up on writes that fill their ranges, and reads the same;
* `StoredBlob.WellFormed`, `MemoryStore.WellFormed`: the invariant, of a blob and of a store;
* `MemoryStore.WellFormed.perform`: every call keeps it;
* `MemoryStore.parts_agree`: it holds of every store that can come about.
-/

namespace BlobDisk

/-! ## Checked slices -/

namespace Checked

variable {bytes part : List UInt8} {start stop : Nat}

/-- How far it is from one place to another that does not come before it. -/
def distance (start stop : Nat) : Option Nat :=
  if start ≤ stop then some (stop - start) else none

/-- The bytes from `start` up to `stop`, if that is a slice of the list. -/
def slice (bytes : List UInt8) (start stop : Nat) : Option (List UInt8) :=
  if start ≤ stop ∧ stop ≤ bytes.length then some ((bytes.drop start).take (stop - start)) else none

/-- The list with the bytes from `start` up to `stop` replaced, if that is a slice of it, by as many
others. -/
def copy (part bytes : List UInt8) (start stop : Nat) : Option (List UInt8) :=
  if start ≤ stop ∧ stop ≤ bytes.length ∧ part.length = stop - start then
    some (bytes.take start ++ part ++ bytes.drop stop)
  else none

theorem distance_eq_some (h : start ≤ stop) : distance start stop = some (stop - start) := if_pos h

theorem slice_eq_some (h : start ≤ stop) (hstop : stop ≤ bytes.length) :
    slice bytes start stop = some ((bytes.drop start).take (stop - start)) := if_pos ⟨h, hstop⟩

theorem copy_eq_some (h : start ≤ stop) (hstop : stop ≤ bytes.length) (hpart : part.length = stop - start) :
    copy part bytes start stop = some (bytes.take start ++ part ++ bytes.drop stop) :=
  if_pos ⟨h, hstop, hpart⟩

end Checked

namespace StoredBlob

open Checked

variable {s : StoredBlob} {window range : ByteRange} {data out : List UInt8}
  {writes : List (ByteRange × List UInt8)}

/-- `overlay` with every difference and every slice checked. -/
def overlay? (window : ByteRange) (out : List UInt8) (write : ByteRange × List UInt8) :
    Option (List UInt8) := do
  let first := max write.1.first window.first
  let last := min write.1.last window.last
  if last < first then
    return out
  else
    let sourceFirst ← distance write.1.first first
    let sourceLast ← distance write.1.first last
    let targetFirst ← distance window.first first
    let targetLast ← distance window.first last
    let part ← slice write.2 sourceFirst (sourceLast + 1)
    copy part out targetFirst (targetLast + 1)

/-- `read` with every difference and every slice checked. -/
def read? (s : StoredBlob) (window : ByteRange) : Option (List UInt8) :=
  s.writes.foldlM (overlay? window) (List.replicate window.length 0)

/-- To lay a write over bytes does not change how many they are. -/
theorem length_overlay (hout : out.length = window.length) (hdata : data.length = range.length) :
    (overlay window out (range, data)).length = window.length := by
  rw [ByteRange.length] at hdata hout ⊢
  simp only [overlay]
  split
  · exact hout
  · rw [List.length_append, List.length_append, List.length_take, List.length_take, List.length_drop,
      List.length_drop]
    omega

/-- The part of a write that shows in a window is in bounds on both sides, if the write brings just the
bytes of its range. -/
theorem overlay?_eq_some (hout : out.length = window.length) (hdata : data.length = range.length) :
    overlay? window out (range, data) = some (overlay window out (range, data)) := by
  rw [ByteRange.length] at hdata hout
  simp only [overlay?, overlay]
  generalize hfirst : max range.first window.first = first
  generalize hlast : min range.last window.last = last
  by_cases hapart : last < first
  · rw [if_pos hapart, if_pos hapart]
    rfl
  · have hsource : range.first ≤ first := by omega
    have htarget : window.first ≤ first := by omega
    have horder : first ≤ last := by omega
    have hpart : last - range.first + 1 - (first - range.first) = last + 1 - first := by omega
    have hstop : last - window.first + 1 = last + 1 - window.first := by omega
    have hlength : ((data.drop (first - range.first)).take (last + 1 - first)).length =
        last - window.first + 1 - (first - window.first) := by
      rw [List.length_take, List.length_drop]
      omega
    rw [if_neg hapart, if_neg hapart, distance_eq_some hsource,
      distance_eq_some (Nat.le_trans hsource horder), distance_eq_some htarget,
      distance_eq_some (Nat.le_trans htarget horder)]
    simp only [Option.bind_eq_bind, Option.bind_some]
    rw [slice_eq_some (by omega) (by omega), hpart, Option.bind_some,
      copy_eq_some (by omega) (by omega) hlength, hstop]

/-- Write by write, what has been read so far stays as long as the window. -/
theorem foldlM_overlay?_eq_some (h : ∀ w ∈ writes, w.2.length = w.1.length)
    (hout : out.length = window.length) :
    writes.foldlM (overlay? window) out = some (writes.foldl (overlay window) out) := by
  induction writes generalizing out with
  | nil => rfl
  | cons w rest ih =>
    have hdata : w.2.length = w.1.length := h w List.mem_cons_self
    rw [List.foldlM_cons, List.foldl_cons, overlay?_eq_some hout hdata]
    exact ih (fun w hw => h w (List.mem_cons_of_mem _ hw)) (length_overlay hout hdata)

/-- Over writes that bring just the bytes of their ranges a checked read goes through, and reads what an
unchecked one does. -/
theorem read?_eq_some (h : ∀ w ∈ s.writes, w.2.length = w.1.length) (window : ByteRange) :
    s.read? window = some (s.read window) :=
  foldlM_overlay?_eq_some h List.length_replicate

end StoredBlob

/-! ## Blobs and stores in good order -/

/-- The data fill a range of whole sectors, one at least, within `size` bytes. -/
structure ByteRange.Paged (r : ByteRange) (data : List UInt8) (size : Nat) : Prop
    extends r.Filled data size where
  first_dvd : Size.sectorBytes ∣ r.first
  length_dvd : Size.sectorBytes ∣ r.length

namespace StoredBlob

/-- What holds of a blob beside that it is sound: its lease is live, was broken or was never taken, and all
that was written to it are pages of it. Only blobs of pages need be whole sectors. -/
structure WellFormed (s : StoredBlob) : Prop where
  state : s.leaseState = .leased ∨ s.leaseState = .available ∨ s.leaseState = .broken
  size : s.kind = .page → Size.sectorBytes ∣ s.size.toNat
  writes : ∀ w ∈ s.writes, w.1.Paged w.2 s.size.toNat

variable {s s' : StoredBlob} {range : ByteRange} {data : List UInt8}

theorem wellFormed_fresh {size : UInt64} {kind : BlobKind}
    (h : kind = .page → Size.sectorBytes ∣ size.toNat) : (fresh size kind).WellFormed where
  state := .inr (.inl rfl)
  size := h
  writes := nofun

theorem WellFormed.write (h : s.WellFormed) (hpaged : range.Paged data s.size.toNat) :
    { s with writes := s.writes ++ [(range, data)] }.WellFormed where
  state := h.state
  size := h.size
  writes w hw := by
    rcases List.mem_append.mp hw with hold | hnew
    · exact h.writes w hold
    · obtain rfl := List.mem_singleton.mp hnew
      exact hpaged

end StoredBlob

namespace MemoryStore

open StoredBlob

/-- Blobs lie in containers of the store and are well formed. -/
structure WellFormed (m : MemoryStore) : Prop where
  housed : ∀ {b s}, m.blob? b = some s → b.container ∈ m.containers
  blobs : ∀ {b s}, m.blob? b = some s → s.WellFormed

namespace WellFormed

variable {m m' : MemoryStore} {b : BlobPath} {s : StoredBlob}

theorem empty : ({} : MemoryStore).WellFormed where
  housed := nofun
  blobs := nofun

/-- Only containers and blobs matter. -/
theorem congr (h : m.WellFormed) (hcontainers : m'.containers = m.containers)
    (hblobs : m'.blobs = m.blobs) : m'.WellFormed where
  housed hs := hcontainers ▸ h.housed ((blob?_congr hblobs).symm.trans hs)
  blobs hs := h.blobs ((blob?_congr hblobs).symm.trans hs)

theorem put (h : m.WellFormed) (hcontainer : b.container ∈ m.containers) (hs : s.WellFormed) :
    (m.put b s).WellFormed := by
  have hcases : ∀ {k t}, (m.put b s).blob? k = some t → k = b ∧ t = s ∨ m.blob? k = some t := by
    intro k t hk
    rw [blob?_put] at hk
    split at hk
    · exact .inl ⟨‹k = b›, (Option.some.inj hk).symm⟩
    · exact .inr hk
  constructor
  · intro k t hk
    obtain ⟨rfl, -⟩ | hk := hcases hk
    · exact hcontainer
    · exact h.housed hk
  · intro k t hk
    obtain ⟨-, rfl⟩ | hk := hcases hk
    · exact hs
    · exact h.blobs hk

theorem drop (h : m.WellFormed) : (m.drop b).WellFormed := by
  have hkept : ∀ {k t}, (m.drop b).blob? k = some t → m.blob? k = some t := by
    intro k t hk
    rw [blob?_drop] at hk
    split at hk
    · cases hk
    · exact hk
  exact ⟨fun hk => h.housed (hkept hk), fun hk => h.blobs (hkept hk)⟩

theorem addContainer (h : m.WellFormed) (c : String) : (m.addContainer c).WellFormed := by
  unfold MemoryStore.addContainer
  split
  · exact h
  · exact ⟨fun hs => List.mem_append_left _ (h.housed hs), h.blobs⟩

theorem insertBlockBlob (h : m.WellFormed) (b : BlobPath) (size : UInt64) :
    (m.insertBlockBlob b size).WellFormed := by
  have hcontainer : b.container ∈ (m.addContainer b.container).containers := by
    unfold MemoryStore.addContainer
    split
    · assumption
    · exact List.mem_append_right _ (List.mem_singleton_self _)
  exact (h.addContainer b.container).put hcontainer (wellFormed_fresh nofun)

/-- A change that may be refused keeps a store well formed if it does so when it is not. -/
theorem settle {α : Type} {value : α} {r : Except Error MemoryStore} (h : m.WellFormed)
    (hok : ∀ m', r = .ok m' → m'.WellFormed) : (m.settle value r).2.WellFormed := by
  cases r with
  | ok m' => exact hok m' rfl
  | error e => exact h

end WellFormed

/-! ## Calls -/

variable {m m' : MemoryStore} {b : BlobPath} {s : StoredBlob} {range : ByteRange} {data : List UInt8}
  {lease : Option String} {size : UInt64}

/-- A new blob is whole sectors in a container of the store. -/
theorem checked_of_createPageBlob (h : m.createPageBlob b size = .ok m') :
    b.container ∈ m.containers ∧ Size.sectorBytes ∣ size.toNat := by
  simp only [createPageBlob, guard_eq_ok] at h
  obtain ⟨hcontainer, hsize, -⟩ := h
  exact ⟨Decidable.not_not.mp hcontainer, Nat.dvd_of_mod_eq_zero (Decidable.not_not.mp hsize)⟩

/-- What is written are pages of the blob. -/
theorem paged_of_writeRange (hs : m.blob? b = some s) (h : m.writeRange b range data lease = .ok m') :
    range.Paged data s.size.toNat := by
  obtain ⟨hfilled, -⟩ := blob?_of_writeRange hs h
  simp only [writeRange, bind_eq_ok, guard_eq_ok, find_eq_ok] at h
  obtain ⟨t, ht, ⟨⟩, -, ⟨⟩, hpages, -⟩ := h
  obtain rfl : s = t := Option.some.inj (hs.symm.trans ht)
  obtain ⟨-, hfirst, hlength, -⟩ := checkPages_eq_ok.mp hpages
  exact { hfilled with
    first_dvd := Nat.dvd_of_mod_eq_zero hfirst
    length_dvd := Nat.dvd_of_mod_eq_zero hlength }

/-- Every call keeps a store well formed. -/
theorem WellFormed.perform (h : m.WellFormed) (fresh : String) (call : StoreCall) :
    (m.perform fresh call).2.WellFormed := by
  cases call with
  | containerExists c | blobExists k | readRange k range lease | properties k lease => exact h
  | createContainer c => exact h.addContainer c
  | createPageBlob k size =>
    refine h.settle fun m' hm => ?_
    obtain ⟨hcontainer, hsize⟩ := checked_of_createPageBlob hm
    obtain ⟨-, rfl⟩ := createPageBlob_eq_ok hm
    exact h.put hcontainer (wellFormed_fresh fun _ => hsize)
  | writeRange k range data lease =>
    refine h.settle fun m' hm => ?_
    obtain ⟨s, hs, -, hblobs⟩ := writeRange_eq_ok hm
    have hwritten := (h.blobs hs).write (paged_of_writeRange hs hm)
    have hcontainers : m'.containers = m.containers := containers_of_writeRange hm
    exact (h.put (h.housed hs) hwritten).congr hcontainers hblobs
  | setMetadata k metadata lease =>
    refine h.settle fun m' hm => ?_
    obtain ⟨s, hs, -, hblobs⟩ := setMetadata_eq_ok hm
    have hmarked : { s with metadata }.WellFormed := { h.blobs hs with }
    have hcontainers : m'.containers = m.containers := containers_of_setMetadata hm
    exact (h.put (h.housed hs) hmarked).congr hcontainers hblobs
  | acquireLease k duration =>
    have h : m.countAcquire.WellFormed := h.congr rfl rfl
    refine h.settle fun m' hm => ?_
    obtain ⟨s, hs, -, rfl⟩ := acquireLease_eq_ok hm
    exact h.put (h.housed hs) { h.blobs hs with state := .inl rfl }
  | breakLease k seconds =>
    have h : m.countBreak.WellFormed := h.congr rfl rfl
    refine h.settle fun m' hm => ?_
    obtain ⟨s, id, hs, -, rfl⟩ := breakLease_eq_ok hm
    exact h.put (h.housed hs) { h.blobs hs with state := .inr (.inr rfl) }
  | deleteBlob k lease =>
    refine h.settle fun m' hm => ?_
    obtain ⟨s, -, -, hblobs⟩ := deleteBlob_eq_ok hm
    have hcontainers : m'.containers = m.containers := containers_of_deleteBlob hm
    exact h.drop.congr hcontainers hblobs

/-- Stores that can come about are well formed. -/
theorem Reachable.wellFormed (h : m.Reachable) : m.WellFormed := by
  induction h with
  | empty => exact .empty
  | @called m fresh call _ _ ih => exact ih.perform fresh call
  | inserted b size _ ih => exact ih.insertBlockBlob b size

/-- What is read from a blob is read under its writes. -/
theorem eq_read_of_readRange {bytes : List UInt8} (hs : m.blob? b = some s)
    (h : m.readRange b range lease = .ok bytes) : bytes = s.read range := by
  simp only [readRange, bind_eq_ok, find_eq_ok, pure_eq_ok] at h
  obtain ⟨t, ht, ⟨⟩, -, ⟨⟩, -, rfl⟩ := h
  rw [Option.some.inj (hs.symm.trans ht)]

/-- In every store that can come about the parts of a blob agree. Its container is one of the store. It has
a lease id just if it is leased; otherwise its lease was broken or never taken. A blob of pages is whole
sectors. Each write kept is one sector or more, in whole sectors within the blob, and has just as many
bytes. So a read that checks every slice that it takes goes through, and it reads what the store answers. -/
theorem parts_agree (h : m.Reachable) (hs : m.blob? b = some s) :
    b.container ∈ m.containers ∧
      (s.leaseId ≠ none ↔ s.leaseState = .leased) ∧
      (s.leaseState ≠ .leased → s.leaseState = .available ∨ s.leaseState = .broken) ∧
      (s.kind = .page → 512 ∣ s.size.toNat) ∧
      (∀ range data, (range, data) ∈ s.writes → range.first ≤ range.last ∧ 512 ∣ range.first ∧
        512 ∣ range.length ∧ range.last < s.size.toNat ∧ data.length = range.length) ∧
      ∀ window, s.read? window = some (s.read window) ∧
        ∀ lease bytes, m.readRange b window lease = .ok bytes → s.read? window = some bytes := by
  have hblob := h.wellFormed.blobs hs
  have hread := read?_eq_some fun w hw => (hblob.writes w hw).length
  refine ⟨h.wellFormed.housed hs, (h.sound hs).leased_iff.symm, hblob.state.resolve_left, hblob.size,
    fun range data hw => ?_, fun window => ⟨hread window, fun lease bytes hbytes => ?_⟩⟩
  · have hpaged := hblob.writes (range, data) hw
    exact ⟨hpaged.nonempty, hpaged.first_dvd, hpaged.length_dvd, hpaged.within, hpaged.length⟩
  · rw [hread, eq_read_of_readRange hs hbytes]

end MemoryStore

/-- The disk of `held`, written over in part by its holder, who then loses the lease, beside a blob that is
no disk and of no whole number of sectors. -/
def Sample.rewritten : MemoryStore :=
  ((held.serve [(.writeRange blob ⟨0, 1023⟩ (List.replicate 1024 1) (some "theirs"), "c"),
    (.writeRange blob ⟨512, 1023⟩ (List.replicate 512 2) (some "theirs"), "d"),
    (.breakLease blob 0, "e")]).2).insertBlockBlob ⟨"dysks", "notes"⟩ 1000

theorem Sample.reachable_rewritten : rewritten.Reachable :=
  .inserted _ _ (.serve reachable_held (by decide))

namespace MemoryStore

theorem parts_agree_rewritten : ∃ s, Sample.rewritten.Reachable ∧
    Sample.rewritten.blob? Sample.blob = some s ∧ s.leaseState = .broken ∧ s.leaseId = none ∧
    s.kind = .page ∧ 512 ∣ s.size.toNat ∧ (⟨512, 1023⟩, List.replicate 512 2) ∈ s.writes ∧
    1023 < s.size.toNat ∧ s.read? ⟨511, 512⟩ = some [1, 2] := by
  obtain ⟨s, hs, hstate, hkind, hwrite, hread⟩ : ∃ s, Sample.rewritten.blob? Sample.blob = some s ∧
      s.leaseState = .broken ∧ s.kind = .page ∧ (⟨512, 1023⟩, List.replicate 512 2) ∈ s.writes ∧
      s.read ⟨511, 512⟩ = [1, 2] :=
    ⟨⟨1024, .page, [(⟨0, 1023⟩, List.replicate 1024 1), (⟨512, 1023⟩, List.replicate 512 2)], [], none,
      .broken⟩, by decide +kernel, rfl, rfl, List.mem_cons_of_mem _ List.mem_cons_self, by decide +kernel⟩
  obtain ⟨-, hlease, -, hsize, hwrites, hreads⟩ := parts_agree Sample.reachable_rewritten hs
  obtain ⟨-, -, -, hwithin, -⟩ := hwrites _ _ hwrite
  have hnone : s.leaseId = none := by simpa [hstate] using hlease
  have hboth : s.read? ⟨511, 512⟩ = some [1, 2] := by rw [(hreads _).1, hread]
  exact ⟨s, Sample.reachable_rewritten, hs, hstate, hnone, hkind, hsize hkind, hwrite, hwithin, hboth⟩

end MemoryStore

end BlobDisk
