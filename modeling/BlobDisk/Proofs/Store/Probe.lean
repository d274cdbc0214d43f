import BlobDisk.Proofs.Store.Reachable

/-!
# What a probe of a lease proves

A lease is probed by a read of the properties under it and, where the disk is to be written, by a write
to the metadata. Reads and writes check leases by rules of their own. Under an id that is not empty the
two rules agree, so either probe succeeds just if the blob has pages and the lease is live. The write
replaces all metadata, and what it puts there is what was read with one mark set.

* `StoredBlob.marked`: the blob with the mark of a probe;
* `MemoryStore.run_properties`, `MemoryStore.run_setMetadata`: the two calls under the live lease;
* `MemoryStore.run_verifyWritable_live`, `MemoryStore.run_verifyWritable_dead`: a probe with the live lease
  and without;
* `Lease.verifyWritable_proves`: a probe succeeds just if the lease is live, and leaves at most its mark.
-/

namespace BlobDisk

/-! ## The mark -/

/-- The blob with the mark of a probe in its metadata. -/
def StoredBlob.marked (s : StoredBlob) : StoredBlob :=
  { s with metadata := s.metadata.insert Lease.probeKey Lease.probeValue }

theorem StoredBlob.marked_marked (s : StoredBlob) : s.marked.marked = s.marked := by
  have h : s.marked.metadata.insert Lease.probeKey Lease.probeValue = s.marked.metadata :=
    TextMap.insert_insert ..
  rw [marked, h]

namespace MemoryStore

variable {m : MemoryStore} {b : BlobPath} {s : StoredBlob} {id : String}

/-- The store with one more change to metadata counted. -/
def countMetadata (m : MemoryStore) : MemoryStore :=
  { m with counters := { m.counters with metadataWrites := m.counters.metadataWrites + 1 } }

/-- The store after a probe of the blob `s` at `b` that succeeds. -/
def probed (m : MemoryStore) (b : BlobPath) (s : StoredBlob) : AccessMode → MemoryStore
  | .readOnly => m
  | .readWrite => (m.put b s.marked).countMetadata

theorem blob?_probed_ne {k : BlobPath} (hk : k ≠ b) (mode : AccessMode) :
    (m.probed b s mode).blob? k = m.blob? k := by
  cases mode with
  | readOnly => rfl
  | readWrite =>
    show (m.put b s.marked).blob? k = _
    rw [blob?_put, if_neg hk]

theorem blob?_probed_readWrite : (m.probed b s .readWrite).blob? b = some s.marked := by
  show (m.put b s.marked).blob? b = _
  rw [blob?_put, if_pos rfl]

/-! ## The two calls -/

section

variable (login : Credentials) (answers : (e : Effect) → e.Answer) (draw : MemoryStore → String)

theorem run_properties (hs : m.blob? b = some s) (hid : id ≠ "") (hlive : s.leaseId = some id) :
    (Action.store login (.properties b (some id))).run.run (handle answers draw) m =
      (.ok s.properties, m) := by
  have hcheck : s.checkReadLease b (some id) = .ok () := (checkReadLease_eq_ok hid).mpr hlive
  have hread : m.properties b (some id) = .ok s.properties := by
    simp only [properties, find, hs]
    show (s.checkReadLease b (some id) >>= fun _ => .ok s.properties) = _
    rw [hcheck]
    rfl
  exact congrArg (·, m) hread

/-- Properties are not read under an id that is not that of the live lease. -/
theorem run_properties_dead (hid : id ≠ "") (hdead : m.lease? b ≠ some id) :
    ∃ e, (Action.store login (.properties b (some id))).run.run (handle answers draw) m =
      (.error e, m) := by
  cases h : m.properties b (some id) with
  | error e => exact ⟨e, congrArg (·, m) h⟩
  | ok p =>
    have hanswer : (m.perform (draw m) (.properties b (some id))).1 = .ok p := h
    exact (hdead (lease?_of_properties hid hanswer)).elim

theorem run_setMetadata (hs : m.blob? b = some s) (hid : id ≠ "") (hlive : s.leaseId = some id)
    (metadata : TextMap) :
    (Action.store login (.setMetadata b metadata (some id))).run.run (handle answers draw) m =
      (.ok (), (m.put b { s with metadata }).countMetadata) := by
  have hcheck : s.checkWriteLease b (some id) = .ok () :=
    checkWriteLease_eq_ok.mpr (hlive.trans (presented_some hid).symm)
  have hwrite : m.setMetadata b metadata (some id) = .ok (m.put b { s with metadata }).countMetadata := by
    simp only [setMetadata, find, hs]
    show (s.checkWriteLease b (some id) >>= fun _ => _) = _
    rw [hcheck]
    rfl
  exact congrArg (m.settle ()) hwrite

end

/-! ## The probe -/

variable {login : Credentials} {mode : AccessMode} {answers : (e : Effect) → e.Answer}
  {draw : MemoryStore → String}

/-- With the live lease a probe of a blob with pages succeeds. -/
theorem run_verifyWritable_live (hs : m.blob? b = some s) (hkind : s.kind = .page) (hid : id ≠ "")
    (hlive : s.leaseId = some id) :
    (Lease.verifyWritable login b id mode).run.run (handle answers draw) m =
      (.ok s.properties, m.probed b s mode) := by
  have hread := run_properties login answers draw hs hid hlive
  have hpages : ¬ s.properties.kind ≠ some .page := not_not.mpr (congrArg some hkind)
  refine (Action.run_bind_ok hread).trans (Action.run_guard.trans ?_)
  rw [if_neg hpages]
  cases mode with
  | readOnly => rfl
  | readWrite =>
    have hwrite := run_setMetadata login answers draw hs hid hlive s.marked.metadata
    exact Action.run_bind_ok hwrite

/-- Without it, or for a blob without pages, a probe is refused before anything is written. -/
theorem run_verifyWritable_dead (hid : id ≠ "")
    (h : ¬ ∃ s, m.blob? b = some s ∧ s.kind = .page ∧ s.leaseId = some id) :
    ∃ e, (Lease.verifyWritable login b id mode).run.run (handle answers draw) m = (.error e, m) := by
  by_cases hlive : m.lease? b = some id
  · -- The lease is live, so it is the blob that has no pages.
    obtain ⟨s, hs, hlive⟩ := Option.bind_eq_some_iff.mp hlive
    have hread := run_properties login answers draw hs hid hlive
    have hpages : s.properties.kind ≠ some .page :=
      fun hkind => h ⟨s, hs, Option.some.inj hkind, hlive⟩
    refine ⟨.validation "This blob is not a page blob",
      (Action.run_bind_ok hread).trans (Action.run_guard.trans ?_)⟩
    rw [if_pos hpages]
  · obtain ⟨e, hread⟩ := run_properties_dead login answers draw hid hlive
    exact ⟨e, Action.run_bind_error hread⟩

/-- A probe that follows on one that succeeded finds what that left, and leaves it so. -/
theorem run_verifyWritable_again (hs : m.blob? b = some s) (hkind : s.kind = .page) (hid : id ≠ "")
    (hlive : s.leaseId = some id) : ∃ p m'',
      (Lease.verifyWritable login b id mode).run.run (handle answers draw) (m.probed b s mode) =
        (.ok p, m'') ∧ ∀ k, m''.blob? k = (m.probed b s mode).blob? k := by
  cases mode with
  | readOnly => exact ⟨_, _, run_verifyWritable_live hs hkind hid hlive, fun _ => rfl⟩
  | readWrite =>
    refine ⟨_, _, run_verifyWritable_live blob?_probed_readWrite hkind hid hlive, fun k => ?_⟩
    by_cases hk : k = b
    · rw [hk, blob?_probed_readWrite, blob?_probed_readWrite, StoredBlob.marked_marked]
    · exact blob?_probed_ne hk .readWrite

end MemoryStore

namespace Lease

open MemoryStore (handle)

/-- Under an id that is not empty, a probe of a blob succeeds just if the blob is there, has pages and is
leased under this id. It returns the properties as they were. Only a probe for writing changes the
store, and only by the mark in the metadata of the blob, whose other keys stay; a second one finds the
mark and changes no blob. A probe that is refused changes nothing. -/
theorem verifyWritable_proves (login : Credentials) (blob : BlobPath) {id : String} (hid : id ≠ "")
    (mode : AccessMode) {m m' : MemoryStore} {v : Except Error Properties}
    {answers : (e : Effect) → e.Answer} {draw : MemoryStore → String}
    (hrun : (verifyWritable login blob id mode).run.run (handle answers draw) m = (v, m')) :
    ((∃ p, v = .ok p) ↔ ∃ s, m.blob? blob = some s ∧ s.kind = .page ∧ s.leaseId = some id) ∧
      (∀ p, v = .ok p → ∃ s, m.blob? blob = some s ∧ p = s.properties ∧ m' = m.probed blob s mode ∧
        (∀ key, s.marked.metadata.get? key =
          if key = "dysk" then some "dysk" else s.metadata.get? key) ∧
        ∃ p' m'', (verifyWritable login blob id mode).run.run (handle answers draw) m' = (.ok p', m'') ∧
          ∀ k, m''.blob? k = m'.blob? k) ∧
      ∀ e, v = .error e → m' = m := by
  by_cases hcond : ∃ s, m.blob? blob = some s ∧ s.kind = .page ∧ s.leaseId = some id
  · obtain ⟨s, hs, hkind, hlive⟩ := hcond
    have hok : (verifyWritable login blob id mode).run.run (handle answers draw) m =
        (.ok s.properties, m.probed blob s mode) := MemoryStore.run_verifyWritable_live hs hkind hid hlive
    obtain ⟨rfl, rfl⟩ := Prod.mk.inj (hok.symm.trans hrun)
    refine ⟨⟨fun _ => ⟨s, hs, hkind, hlive⟩, fun _ => ⟨s.properties, rfl⟩⟩, fun p hp => ?_, nofun⟩
    refine ⟨s, hs, (Except.ok.inj hp).symm, rfl, fun key => TextMap.get?_insert .., ?_⟩
    exact MemoryStore.run_verifyWritable_again hs hkind hid hlive
  · have herror : ∃ e, (verifyWritable login blob id mode).run.run (handle answers draw) m =
        (.error e, m) := MemoryStore.run_verifyWritable_dead hid hcond
    obtain ⟨e, herror⟩ := herror
    obtain ⟨rfl, rfl⟩ := Prod.mk.inj (herror.symm.trans hrun)
    exact ⟨⟨nofun, fun h => (hcond h).elim⟩, nofun, fun _ _ => rfl⟩

/-- A probe by the holder of the lease, and one by somebody else. -/
theorem verifyWritable_proves_held : ∃ s p m' e, Sample.held.blob? Sample.blob = some s ∧
    (verifyWritable ⟨"account", "a2V5"⟩ Sample.blob "theirs" .readWrite).run.run
        (handle (Sample.answers "") fun _ => "") Sample.held = (.ok p, m') ∧
      p = s.properties ∧ m' = Sample.held.probed Sample.blob s .readWrite ∧
    (verifyWritable ⟨"account", "a2V5"⟩ Sample.blob "ours" .readWrite).run.run
        (handle (Sample.answers "") fun _ => "") Sample.held = (.error e, Sample.held) ∧
      ¬ ∃ s, Sample.held.blob? Sample.blob = some s ∧ s.kind = .page ∧ s.leaseId = some "ours" := by
  have htheirs := verifyWritable_proves ⟨"account", "a2V5"⟩ Sample.blob (show "theirs" ≠ "" by decide)
    .readWrite (show Program.run (handle (Sample.answers "") fun _ => "") _ Sample.held = _ from rfl)
  have hours := verifyWritable_proves ⟨"account", "a2V5"⟩ Sample.blob (show "ours" ≠ "" by decide)
    .readWrite (show Program.run (handle (Sample.answers "") fun _ => "") _ Sample.held = _ from rfl)
  obtain ⟨s, hs, hp, hm, -⟩ := htheirs.2.1 _ rfl
  refine ⟨s, _, _, _, hs, rfl, hp, hm, rfl, fun h => ?_⟩
  obtain ⟨p, ⟨⟩⟩ := hours.1.mpr h

end Lease

end BlobDisk
