import BlobDisk.Proofs.Store.Blobs

/-!
# Sequences of calls

Any number of clients call a store, one call after another, and some of the calls are refused. What
stands here is about whole sequences: which calls a leased blob outlasts, and that it comes out of them
as it was.

* `MemoryStore.serve`: the answers to a sequence of calls and the store after it;
* `MemoryStore.blob?_of_error`, `MemoryStore.blob?_of_changed?_ne`: a call that is refused, or that only
  reads or is about another blob, leaves a blob as it is;
* `MemoryStore.presents_of_ok`: a change that goes through presents the live lease or breaks it;
* `MemoryStore.lease_protects`: without its lease id or a break, nothing changes a leased blob.
-/

namespace BlobDisk

namespace StoreCall

/-- The lease id that a call presents. -/
def presented? : StoreCall → Option String
  | writeRange _ _ _ lease | readRange _ _ lease | properties _ lease | setMetadata _ _ lease
  | deleteBlob _ lease => StoredBlob.presented lease
  | createContainer _ | containerExists _ | blobExists _ | createPageBlob _ _ | acquireLease _ _
  | breakLease _ _ => none

/-- The blob that a call changes when it succeeds. -/
def changed? : StoreCall → Option BlobPath
  | createPageBlob b _ | writeRange b _ _ _ | setMetadata b _ _ | acquireLease b _ | breakLease b _
  | deleteBlob b _ => some b
  | createContainer _ | containerExists _ | blobExists _ | readRange _ _ _ | properties _ _ => none

theorem blob?_of_changed? {call : StoreCall} {b : BlobPath} (h : call.changed? = some b) :
    call.blob? = some b := by
  cases call <;> first | exact h | cases h

end StoreCall

/-- A call and the answer that it got. -/
structure Served where
  call : StoreCall
  answer : Except Error call.Answer

namespace MemoryStore

variable {m : MemoryStore} {b : BlobPath} {s : StoredBlob} {call : StoreCall} {fresh id : String}

/-- The answers to calls, one after another, and the store after them. Each call comes with the id that
a lease gets which it takes. -/
def serve (m : MemoryStore) : List (StoreCall × String) → List Served × MemoryStore
  | [] => ([], m)
  | (call, fresh) :: rest =>
    let later := (m.perform fresh call).2.serve rest
    (⟨call, (m.perform fresh call).1⟩ :: later.1, later.2)

/-! ## What one call leaves as it is -/

theorem settle_fst_ok {α : Type} {value a : α} {r : Except Error MemoryStore}
    (h : (m.settle value r).1 = .ok a) : ∃ m', r = .ok m' := by
  cases r with
  | ok m' => exact ⟨m', rfl⟩
  | error e => cases h

theorem settle_snd_of_error {α : Type} {value : α} {r : Except Error MemoryStore} {e : Error}
    (h : (m.settle value r).1 = .error e) : (m.settle value r).2 = m := by
  cases r with
  | ok m' => cases h
  | error e' => rfl

/-- A call that is refused leaves every blob as it was. -/
theorem blob?_of_error {e : Error} (h : (m.perform fresh call).1 = .error e) :
    (m.perform fresh call).2.blob? b = m.blob? b := by
  cases call with
  | createContainer c => cases h
  | containerExists c | blobExists k | readRange k range lease | properties k lease => rfl
  | createPageBlob k size | writeRange k range data lease | setMetadata k metadata lease
  | deleteBlob k lease => exact blob?_congr (congrArg blobs (settle_snd_of_error h))
  | acquireLease k duration =>
    show _ = m.countAcquire.blob? b
    exact blob?_congr (congrArg blobs (settle_snd_of_error h))
  | breakLease k seconds =>
    show _ = m.countBreak.blob? b
    exact blob?_congr (congrArg blobs (settle_snd_of_error h))

/-- A call that does not change the blob at a path leaves it as it was. -/
theorem blob?_of_changed?_ne (h : call.changed? ≠ some b) :
    (m.perform fresh call).2.blob? b = m.blob? b := by
  have hchange := change_perform fresh m b call
  generalize m.blob? b = old, (m.perform fresh call).2.blob? b = new at hchange
  cases hchange with
  | keep => rfl
  | create _ | write _ | setMetadata _ | acquire _ | breakLease _ | delete _ => exact (h rfl).elim

theorem lease?_of_checkWriteLease {lease : Option String} (hs : m.blob? b = some s)
    (h : s.checkWriteLease b lease = .ok ()) : m.lease? b = StoredBlob.presented lease := by
  rw [lease?, hs]
  exact checkWriteLease_eq_ok.mp h

/-- A change that goes through presents the live lease of the blob, or none if it has none. Only a
break needs no lease id. -/
theorem presents_of_ok {a : call.Answer} (hchanged : call.changed? = some b)
    (hbreak : ∀ seconds, call ≠ .breakLease b seconds) (h : (m.perform fresh call).1 = .ok a) :
    m.lease? b = call.presented? := by
  cases call with
  | createContainer _ | containerExists _ | blobExists _ | readRange _ _ _ | properties _ _ =>
    cases hchanged
  | breakLease k seconds =>
    cases hchanged
    exact (hbreak seconds rfl).elim
  | createPageBlob k size =>
    cases hchanged
    obtain ⟨m', hm⟩ := settle_fst_ok h
    obtain ⟨hfree, -⟩ := createPageBlob_eq_ok hm
    rw [lease?, StoreCall.presented?, Option.bind_eq_none_iff]
    exact hfree
  | writeRange k range data lease =>
    cases hchanged
    obtain ⟨m', hm⟩ := settle_fst_ok h
    obtain ⟨s, hs, hlease, -⟩ := writeRange_eq_ok hm
    exact lease?_of_checkWriteLease hs hlease
  | setMetadata k metadata lease =>
    cases hchanged
    obtain ⟨m', hm⟩ := settle_fst_ok h
    obtain ⟨s, hs, hlease, -⟩ := setMetadata_eq_ok hm
    exact lease?_of_checkWriteLease hs hlease
  | acquireLease k duration =>
    cases hchanged
    obtain ⟨m', hm⟩ := settle_fst_ok (m := m.countAcquire) h
    obtain ⟨s, hs, hfree, -⟩ := acquireLease_eq_ok hm
    have hs : m.blob? b = some s := hs
    rw [lease?, hs]
    exact hfree
  | deleteBlob k lease =>
    cases hchanged
    obtain ⟨m', hm⟩ := settle_fst_ok h
    obtain ⟨s, hs, hlease, -⟩ := deleteBlob_eq_ok hm
    exact lease?_of_checkWriteLease hs hlease

/-! ## What a lease protects -/

/-- A call without the live lease id that breaks no lease leaves a leased blob as it was, and is
refused if it would change it. -/
theorem lease_protects_step (fresh : String) (hs : m.blob? b = some s) (hid : s.leaseId = some id)
    (hbreak : ∀ seconds, call ≠ .breakLease b seconds)
    (hforeign : call.blob? = some b → call.presented? ≠ some id) :
    (m.perform fresh call).2.blob? b = some s ∧
      (call.changed? = some b → ∃ e, (m.perform fresh call).1 = .error e) := by
  by_cases hchanged : call.changed? = some b
  · have hlease : m.lease? b = some id := by
      rw [lease?, hs]
      exact hid
    cases h : (m.perform fresh call).1 with
    | ok a =>
      have hpresents := presents_of_ok hchanged hbreak h
      exact (hforeign (StoreCall.blob?_of_changed? hchanged) (hpresents.symm.trans hlease)).elim
    | error e => exact ⟨(blob?_of_error h).trans hs, fun _ => ⟨e, rfl⟩⟩
  · exact ⟨(blob?_of_changed?_ne hchanged).trans hs, fun h => (hchanged h).elim⟩

theorem readRange_congr {m' : MemoryStore} (h : m'.blob? b = m.blob? b) (range : ByteRange)
    (lease : Option String) : m'.readRange b range lease = m.readRange b range lease := by
  simp only [readRange, find, h]

/-- However many calls come in, from whomever: if none of them breaks the lease of a blob, and none
about it presents the lease id, then the blob is afterwards what it was before, leased as before and
with the same size, kind, metadata and contents, and every call that would have changed it was
refused. -/
theorem lease_protects {calls : List (StoreCall × String)} (hs : m.blob? b = some s)
    (hid : s.leaseId = some id) (hbreak : ∀ p ∈ calls, ∀ seconds, p.1 ≠ .breakLease b seconds)
    (hforeign : ∀ p ∈ calls, p.1.blob? = some b → p.1.presented? ≠ some id) :
    (m.serve calls).2.blob? b = some s ∧
      (∀ range lease, (m.serve calls).2.readRange b range lease = m.readRange b range lease) ∧
      ∀ x ∈ (m.serve calls).1, x.call.changed? = some b → ∃ e, x.answer = .error e := by
  suffices h : (m.serve calls).2.blob? b = some s ∧
      ∀ x ∈ (m.serve calls).1, x.call.changed? = some b → ∃ e, x.answer = .error e from
    ⟨h.1, readRange_congr (h.1.trans hs.symm), h.2⟩
  induction calls generalizing m with
  | nil => exact ⟨hs, nofun⟩
  | cons p rest ih =>
    obtain ⟨call, fresh⟩ := p
    obtain ⟨hkept, hrefused⟩ := lease_protects_step fresh hs hid
      (hbreak (call, fresh) List.mem_cons_self) (hforeign (call, fresh) List.mem_cons_self)
    obtain ⟨hlast, hlater⟩ := ih hkept (fun q hq => hbreak q (List.mem_cons_of_mem _ hq))
      (fun q hq => hforeign q (List.mem_cons_of_mem _ hq))
    refine ⟨hlast, fun x hx => ?_⟩
    rcases List.mem_cons.mp hx with rfl | hx
    · exact hrefused
    · exact hlater x hx

/-- A disk of two sectors, the first one written, under the lease `mine`. -/
def leasedDisk : MemoryStore :=
  (serve {} [(.createContainer "disks", ""), (.createPageBlob ⟨"disks", "a"⟩ 1024, ""),
    (.writeRange ⟨"disks", "a"⟩ ⟨0, 511⟩ (List.replicate 512 7) none, ""),
    (.acquireLease ⟨"disks", "a"⟩ .infinite, "mine")]).2

/-- What others might try: every kind of change, with no lease id, an empty one or a wrong one, and a
lease under the very same id on a blob beside it, which they break again. -/
def rivalCalls : List (StoreCall × String) :=
  [(.acquireLease ⟨"disks", "a"⟩ .infinite, "mine"), (.createPageBlob ⟨"disks", "a"⟩ 512, ""),
    (.writeRange ⟨"disks", "a"⟩ ⟨0, 511⟩ (List.replicate 512 1) (some "yours"), ""),
    (.writeRange ⟨"disks", "a"⟩ ⟨512, 1023⟩ (List.replicate 512 1) (some ""), ""),
    (.setMetadata ⟨"disks", "a"⟩ [("k", "v")] none, ""), (.properties ⟨"disks", "a"⟩ (some "yours"), ""),
    (.createPageBlob ⟨"disks", "b"⟩ 512, ""), (.acquireLease ⟨"disks", "b"⟩ .infinite, "mine"),
    (.breakLease ⟨"disks", "b"⟩ 0, ""), (.deleteBlob ⟨"disks", "a"⟩ (some ""), ""),
    (.createContainer "disks", ""), (.readRange ⟨"disks", "a"⟩ ⟨0, 1023⟩ none, "")]

theorem lease_protects_rivals : ∃ s, leasedDisk.blob? ⟨"disks", "a"⟩ = some s ∧ s.leaseId = some "mine" ∧
    (leasedDisk.serve rivalCalls).2.blob? ⟨"disks", "a"⟩ = some s ∧
      (∀ range lease, (leasedDisk.serve rivalCalls).2.readRange ⟨"disks", "a"⟩ range lease =
        leasedDisk.readRange ⟨"disks", "a"⟩ range lease) ∧
      ∀ x ∈ (leasedDisk.serve rivalCalls).1, x.call.changed? = some ⟨"disks", "a"⟩ →
        ∃ e, x.answer = .error e :=
  ⟨⟨1024, .page, [(⟨0, 511⟩, List.replicate 512 7)], [], some "mine", .leased⟩, by decide +kernel, rfl,
    lease_protects (by decide +kernel) rfl (by simp [rivalCalls, -List.reduceReplicate]) (by decide)⟩

end MemoryStore

end BlobDisk
