import BlobDisk.Proofs.Pairs
import BlobDisk.Store.Memory

/-!
# What a call does to a blob

A call of the store in memory changes at most the blob that it is about, and that blob in one of
seven ways. Everything that is true of a blob over time follows from this list.

* `MemoryStore.Change`: the ways in which a call can leave a blob;
* `MemoryStore.change_perform`: every call leaves every blob in one of them;
* `MemoryStore.lease?`, `MemoryStore.size?`: the lease and the size of the blob at a path, and what
  `Change` says of them.
-/

namespace BlobDisk.MemoryStore

variable {m m' : MemoryStore} {b k : BlobPath} {s : StoredBlob}

/-! ## Blobs by path -/

theorem lookup_putIn (blobs : List (BlobPath × StoredBlob)) :
    (putIn k s blobs).lookup b = if b = k then some s else blobs.lookup b := by
  induction blobs with
  | nil => simp only [putIn, Pairs.lookup_cons]
  | cons p rest ih =>
    obtain ⟨k', v⟩ := p
    by_cases hk : k = k'
    · subst hk; simp only [putIn, ite_true, Pairs.lookup_cons]; split <;> rfl
    · simp only [putIn, hk, ite_false, Pairs.lookup_cons, ih]
      by_cases hb : b = k'
      · subst hb; simp [Ne.symm hk]
      · simp [hb]

theorem blob?_put : (m.put k s).blob? b = if b = k then some s else m.blob? b :=
  lookup_putIn m.blobs

theorem blob?_drop : (m.drop k).blob? b = if b = k then none else m.blob? b := by
  rw [blob?, drop, Pairs.lookup_filter (fun key => decide (key ≠ k))]
  by_cases h : b = k <;> simp [h, blob?]

/-! ## Calls -/

theorem find_eq_ok : m.find b = .ok s ↔ m.blob? b = some s := by
  unfold find
  split <;> simp [*]

/-- The ways in which a call can leave the blob at `b`; a lease that is taken gets the id `fresh`. -/
inductive Change (fresh : String) (b : BlobPath) :
    StoreCall → Option StoredBlob → Option StoredBlob → Prop
  | keep {call old} : Change fresh b call old old
  | create {old size} : (∀ s, old = some s → s.leaseId = none) →
    Change fresh b (.createPageBlob b size) old (some (.fresh size .page))
  | write {s range data lease} : s.checkWriteLease b lease = .ok () →
    Change fresh b (.writeRange b range data lease) (some s)
      (some { s with writes := s.writes ++ [(range, data)] })
  | setMetadata {s metadata lease} : s.checkWriteLease b lease = .ok () →
    Change fresh b (.setMetadata b metadata lease) (some s) (some { s with metadata })
  | acquire {s duration} : s.leaseId = none →
    Change fresh b (.acquireLease b duration) (some s)
      (some { s with leaseId := some fresh, leaseState := .leased })
  | breakLease {s id seconds} : s.leaseId = some id →
    Change fresh b (.breakLease b seconds) (some s)
      (some { s with leaseId := none, leaseState := .broken })
  | delete {s lease} : s.checkWriteLease b lease = .ok () →
    Change fresh b (.deleteBlob b lease) (some s) none

/-- A change must present exactly the lease that is live. -/
theorem checkWriteLease_eq_ok {lease : Option String} :
    s.checkWriteLease b lease = .ok () ↔ s.leaseId = StoredBlob.presented lease := by
  unfold StoredBlob.checkWriteLease
  cases s.leaseId <;> cases StoredBlob.presented lease <;> simp

theorem presented_some {id : String} (h : id ≠ "") : StoredBlob.presented (some id) = some id := by
  simp [StoredBlob.presented, h]

/-- A lease id that is presented to read must be that of the live lease. -/
theorem checkReadLease_eq_ok {id : String} (h : id ≠ "") :
    s.checkReadLease b (some id) = .ok () ↔ s.leaseId = some id := by
  simp only [StoredBlob.checkReadLease, presented_some h, checkWriteLease_eq_ok]

theorem createPageBlob_eq_ok {size : UInt64} (h : m.createPageBlob k size = .ok m') :
    (∀ s, m.blob? k = some s → s.leaseId = none) ∧ m' = m.put k (.fresh size .page) := by
  simp only [createPageBlob, guard_eq_ok] at h
  obtain ⟨-, -, h⟩ := h
  cases hk : m.blob? k with
  | none =>
    simp only [hk, pure_eq_ok] at h
    exact ⟨nofun, h.symm⟩
  | some s =>
    simp only [hk, bind_eq_ok, pure_eq_ok] at h
    obtain ⟨⟨⟩, hs, h⟩ := h
    exact ⟨fun t ht => by cases ht; exact checkWriteLease_eq_ok.mp hs, h.symm⟩

theorem writeRange_eq_ok {range : ByteRange} {data : List UInt8} {lease : Option String}
    (h : m.writeRange k range data lease = .ok m') :
    ∃ s, m.blob? k = some s ∧ s.checkWriteLease k lease = .ok () ∧
      m'.blobs = (m.put k { s with writes := s.writes ++ [(range, data)] }).blobs := by
  simp only [writeRange, bind_eq_ok, guard_eq_ok, find_eq_ok, pure_eq_ok] at h
  obtain ⟨s, hk, ⟨⟩, hs, -, -, -, rfl⟩ := h
  exact ⟨s, hk, hs, rfl⟩

theorem setMetadata_eq_ok {metadata : TextMap} {lease : Option String}
    (h : m.setMetadata k metadata lease = .ok m') :
    ∃ s, m.blob? k = some s ∧ s.checkWriteLease k lease = .ok () ∧
      m'.blobs = (m.put k { s with metadata }).blobs := by
  simp only [setMetadata, bind_eq_ok, find_eq_ok, pure_eq_ok] at h
  obtain ⟨s, hk, ⟨⟩, hs, rfl⟩ := h
  exact ⟨s, hk, hs, rfl⟩

theorem acquireLease_eq_ok {fresh : String} (h : m.acquireLease k fresh = .ok m') :
    ∃ s, m.blob? k = some s ∧ s.leaseId = none ∧
      m' = m.put k { s with leaseId := some fresh, leaseState := .leased } := by
  simp only [acquireLease, bind_eq_ok, guard_eq_ok, find_eq_ok, pure_eq_ok,
    Option.not_isSome_iff_eq_none] at h
  obtain ⟨s, hk, hs, rfl⟩ := h
  exact ⟨s, hk, hs, rfl⟩

theorem breakLease_eq_ok (h : m.breakLease k = .ok m') :
    ∃ s id, m.blob? k = some s ∧ s.leaseId = some id ∧
      m' = m.put k { s with leaseId := none, leaseState := .broken } := by
  simp only [breakLease, bind_eq_ok, guard_eq_ok, find_eq_ok, pure_eq_ok,
    Option.isNone_iff_eq_none, ← ne_eq, Option.ne_none_iff_exists'] at h
  obtain ⟨s, hk, ⟨id, hs⟩, rfl⟩ := h
  exact ⟨s, id, hk, hs, rfl⟩

theorem deleteBlob_eq_ok {lease : Option String} (h : m.deleteBlob k lease = .ok m') :
    ∃ s, m.blob? k = some s ∧ s.checkWriteLease k lease = .ok () ∧ m'.blobs = (m.drop k).blobs := by
  simp only [deleteBlob, bind_eq_ok, find_eq_ok, pure_eq_ok] at h
  obtain ⟨s, hk, ⟨⟩, hs, rfl⟩ := h
  exact ⟨s, hk, hs, rfl⟩

theorem blob?_congr (h : m'.blobs = m.blobs) : m'.blob? b = m.blob? b := by
  unfold blob?
  rw [h]

/-- A change that may be refused leaves the blob as it was, or as the change leaves it. -/
theorem change_settle {fresh : String} {call : StoreCall} {α : Type} {value : α}
    {r : Except Error MemoryStore}
    (h : ∀ m', r = .ok m' → Change fresh b call (m.blob? b) (m'.blob? b)) :
    Change fresh b call (m.blob? b) ((m.settle value r).2.blob? b) := by
  cases r with
  | ok m' => exact h m' rfl
  | error e => exact .keep

/-- A blob that is replaced changes as it does at its own path, and all others stay. -/
theorem change_put {fresh : String} {call : StoreCall} (h : b = k → Change fresh b call (m.blob? b) (some s)) :
    Change fresh b call (m.blob? b) ((m.put k s).blob? b) := by
  rw [blob?_put]
  split
  · exact h ‹_›
  · exact .keep

/-- Every call leaves every blob in one of the ways of `Change`. -/
theorem change_perform (fresh : String) (m : MemoryStore) (b : BlobPath) (call : StoreCall) :
    Change fresh b call (m.blob? b) ((m.perform fresh call).2.blob? b) := by
  cases call with
  | containerExists c => exact .keep
  | blobExists k => exact .keep
  | readRange k range lease => exact .keep
  | properties k lease => exact .keep
  | createContainer c =>
    have : (m.addContainer c).blob? b = m.blob? b := blob?_congr (by unfold addContainer; split <;> rfl)
    exact this ▸ .keep
  | createPageBlob k size =>
    refine change_settle fun m' h => ?_
    obtain ⟨hs, rfl⟩ := createPageBlob_eq_ok h
    refine change_put ?_
    rintro rfl
    exact .create hs
  | writeRange k range data lease =>
    refine change_settle fun m' h => ?_
    obtain ⟨s, hk, hs, hb⟩ := writeRange_eq_ok h
    rw [blob?_congr hb]
    refine change_put ?_
    rintro rfl
    exact hk ▸ .write hs
  | setMetadata k metadata lease =>
    refine change_settle fun m' h => ?_
    obtain ⟨s, hk, hs, hb⟩ := setMetadata_eq_ok h
    rw [blob?_congr hb]
    refine change_put ?_
    rintro rfl
    exact hk ▸ .setMetadata hs
  | acquireLease k duration =>
    refine change_settle (m := m.countAcquire) fun m' h => ?_
    obtain ⟨s, hk, hs, rfl⟩ := acquireLease_eq_ok h
    refine change_put ?_
    rintro rfl
    exact hk ▸ .acquire hs
  | breakLease k seconds =>
    refine change_settle (m := m.countBreak) fun m' h => ?_
    obtain ⟨s, id, hk, hs, rfl⟩ := breakLease_eq_ok h
    refine change_put ?_
    rintro rfl
    exact hk ▸ .breakLease hs
  | deleteBlob k lease =>
    refine change_settle fun m' h => ?_
    obtain ⟨s, hk, hs, hb⟩ := deleteBlob_eq_ok h
    rw [blob?_congr hb, blob?_drop]
    split
    · subst b; exact hk ▸ .delete hs
    · exact .keep

/-! ## The lease and the size over time -/

/-- The live lease of the blob at a path. -/
def lease? (m : MemoryStore) (b : BlobPath) : Option String := (m.blob? b).bind (·.leaseId)

/-- The size of the blob at a path. -/
def size? (m : MemoryStore) (b : BlobPath) : Option UInt64 := (m.blob? b).map (·.size)

/-- A call leaves the lease of a blob alone, takes a lease under the fresh id where there was none, or
ends the lease. -/
theorem lease?_perform (fresh : String) (m : MemoryStore) (b : BlobPath) (call : StoreCall) :
    (m.perform fresh call).2.lease? b = m.lease? b ∨
      m.lease? b = none ∧ (m.perform fresh call).2.lease? b = some fresh ∨
      (m.perform fresh call).2.lease? b = none := by
  unfold lease?
  have h := change_perform fresh m b call
  generalize m.blob? b = old, (m.perform fresh call).2.blob? b = new at h
  cases h with
  | keep | write _ | setMetadata _ => exact .inl rfl
  | acquire hs => exact .inr (.inl ⟨hs, rfl⟩)
  | create _ | breakLease _ | delete _ => exact .inr (.inr rfl)

/-- A blob keeps its size under every call that its lease survives. -/
theorem size?_perform_of_lease? {fresh : String} {call : StoreCall} {id : String}
    (hold : m.lease? b = some id) (hnew : (m.perform fresh call).2.lease? b = some id) :
    (m.perform fresh call).2.size? b = m.size? b := by
  unfold lease? at hold hnew
  unfold size?
  have h := change_perform fresh m b call
  generalize m.blob? b = old, (m.perform fresh call).2.blob? b = new at h hold hnew ⊢
  cases h with
  | keep | write _ | setMetadata _ | acquire _ | breakLease _ => rfl
  | create _ | delete _ => cases hnew

/-- Only a call that makes or removes blobs can change a size. -/
theorem size?_perform_eq {fresh : String} {call : StoreCall}
    (hcreate : ∀ size, call ≠ .createPageBlob b size) (hdelete : ∀ lease, call ≠ .deleteBlob b lease) :
    (m.perform fresh call).2.size? b = m.size? b := by
  unfold size?
  have h := change_perform fresh m b call
  generalize m.blob? b = old, (m.perform fresh call).2.blob? b = new at h ⊢
  cases h with
  | keep | write _ | setMetadata _ | acquire _ | breakLease _ => rfl
  | create _ => exact (hcreate _ rfl).elim
  | delete _ => exact (hdelete _ rfl).elim

/-- Only a call that makes or removes blobs, or takes or breaks leases, can change a lease. -/
theorem lease?_perform_eq {fresh : String} {call : StoreCall}
    (hcreate : ∀ size, call ≠ .createPageBlob b size) (hdelete : ∀ lease, call ≠ .deleteBlob b lease)
    (hacquire : ∀ duration, call ≠ .acquireLease b duration) (hbreak : ∀ s, call ≠ .breakLease b s) :
    (m.perform fresh call).2.lease? b = m.lease? b := by
  unfold lease?
  have h := change_perform fresh m b call
  generalize m.blob? b = old, (m.perform fresh call).2.blob? b = new at h ⊢
  cases h with
  | keep | write _ | setMetadata _ => rfl
  | create _ => exact (hcreate _ rfl).elim
  | delete _ => exact (hdelete _ rfl).elim
  | acquire _ => exact (hacquire _ rfl).elim
  | breakLease _ => exact (hbreak _ rfl).elim

/-- A lease that was not live before a call was asked for by it. -/
theorem acquireLease_of_lease? {fresh id : String} {call : StoreCall} (hold : m.lease? b ≠ some id)
    (hnew : (m.perform fresh call).2.lease? b = some id) : ∃ duration, call = .acquireLease b duration := by
  unfold lease? at hold hnew
  have h := change_perform fresh m b call
  generalize m.blob? b = old, (m.perform fresh call).2.blob? b = new at h hold hnew
  cases h with
  | keep | write _ | setMetadata _ => exact (hold hnew).elim
  | acquire _ => exact ⟨_, rfl⟩
  | create _ | breakLease _ | delete _ => cases hnew

/-! ## What the answers say -/

theorem perform_acquireLease_ok {fresh id : String} {duration : LeaseDuration}
    (h : (m.perform fresh (.acquireLease b duration)).1 = .ok id) :
    id = fresh ∧ m.lease? b = none ∧
      (m.perform fresh (.acquireLease b duration)).2.lease? b = some fresh := by
  simp only [perform] at h ⊢
  cases hr : m.countAcquire.acquireLease b fresh with
  | error e =>
    rw [hr] at h
    cases h
  | ok m' =>
    obtain ⟨s, hk, hs, rfl⟩ := acquireLease_eq_ok hr
    rw [hr] at h
    cases h
    have hk : m.blob? b = some s := hk
    refine ⟨rfl, ?_, ?_⟩
    · rw [lease?, hk]; exact hs
    · change ((MemoryStore.put _ b _).blob? b).bind _ = _
      rw [blob?_put, if_pos rfl]
      rfl

/-- A lease that is refused changes no lease. -/
theorem lease?_of_acquireLease_error {fresh : String} {duration : LeaseDuration} {e : Error}
    (h : (m.perform fresh (.acquireLease k duration)).1 = .error e) :
    (m.perform fresh (.acquireLease k duration)).2.lease? b = m.lease? b := by
  simp only [perform] at h ⊢
  cases hr : m.countAcquire.acquireLease k fresh with
  | ok m' =>
    rw [hr] at h
    cases h
  | error e => rfl

/-- A break ends the lease or leaves it as it is. -/
theorem lease?_breakLease (fresh : String) (m : MemoryStore) (b k : BlobPath) (seconds : UInt32) :
    (m.perform fresh (.breakLease k seconds)).2.lease? b = m.lease? b ∨
      (m.perform fresh (.breakLease k seconds)).2.lease? b = none := by
  unfold lease?
  have h := change_perform fresh m b (.breakLease k seconds)
  generalize m.blob? b = old, (m.perform fresh (.breakLease k seconds)).2.blob? b = new at h
  cases h with
  | keep => exact .inl rfl
  | breakLease _ => exact .inr rfl

theorem perform_properties_ok {fresh : String} {lease : Option String} {p : Properties}
    (h : (m.perform fresh (.properties b lease)).1 = .ok p) :
    ∃ s, m.blob? b = some s ∧ s.checkReadLease b lease = .ok () ∧ p = s.properties := by
  change m.properties b lease = .ok p at h
  simp only [properties, bind_eq_ok, find_eq_ok, pure_eq_ok] at h
  obtain ⟨s, hk, ⟨⟩, hs, rfl⟩ := h
  exact ⟨s, hk, hs, rfl⟩

theorem size?_of_properties {fresh : String} {lease : Option String} {p : Properties}
    (h : (m.perform fresh (.properties b lease)).1 = .ok p) : m.size? b = some p.contentLength := by
  obtain ⟨s, hk, -, rfl⟩ := perform_properties_ok h
  rw [size?, hk]
  rfl

/-- Properties are read under a lease id only if it is that of the live lease. -/
theorem lease?_of_properties {fresh id : String} {p : Properties} (hid : id ≠ "")
    (h : (m.perform fresh (.properties b (some id))).1 = .ok p) : m.lease? b = some id := by
  obtain ⟨s, hk, hs, -⟩ := perform_properties_ok h
  rw [lease?, hk]
  exact (checkReadLease_eq_ok hid).mp hs

end BlobDisk.MemoryStore
