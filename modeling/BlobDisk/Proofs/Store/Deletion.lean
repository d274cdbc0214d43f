import BlobDisk.Proofs.Store.Acquisition

/-!
# How a blob is removed

A blob is removed by one call under a lease id, or without one after a call that breaks its lease. The
break fails where there is no lease, and then the removal that follows needs no lease id either. So with
a break it is enough that the blob is there, and a warning tells only that there was nothing to break.

* `Provision.delete_plain`, `Provision.delete_forced`: a removal without a break and with one;
* `Provision.runs_delete_plain`: without one it is a single call, whatever the store answers;
* `MemoryStore.perform_deleteBlob`, `MemoryStore.perform_deleteBlob_refused`,
  `MemoryStore.perform_breakLease_free`, `MemoryStore.perform_breakLease_missing`: the two calls on a store
  in memory;
* `MemoryStore.Removed`: what a removal leaves;
* `MemoryStore.run_delete_plain`, `MemoryStore.run_delete_refused`, `MemoryStore.run_delete_leased`,
  `MemoryStore.run_delete_free`, `MemoryStore.run_delete_missing`: what a removal comes to on it, put together
  in `MemoryStore.run_delete`;
* `Provision.delete_exact`: when a removal succeeds on stores that can come about, and what it changes.
-/

namespace BlobDisk

/-! ## The calls -/

namespace Lease

/-- The warning of a break that was answered so. -/
def warning? (blob : BlobPath) : Except Error Unit → Option CleanupWarning
  | .ok () => none
  | .error e => some (.ofBreak blob.text e)

end Lease

namespace Provision

variable {login : Credentials} {blob : BlobPath} {leaseId : Option String}

/-- The removal itself, after a break with a warning or without. -/
def remove (login : Credentials) (blob : BlobPath) (leaseId : Option String) (warning : Option CleanupWarning) :
    Action Outcome :=
  (fun _ => .ofWarning? warning) <$> Action.store login (.deleteBlob blob leaseId)

theorem delete_plain (login : Credentials) (blob : BlobPath) (leaseId : Option String) :
    delete login blob leaseId false = remove login blob leaseId none :=
  bind_pure_comp ..

theorem delete_forced (login : Credentials) (blob : BlobPath) (leaseId : Option String) :
    delete login blob leaseId true =
      Action.always (Lease.breakBestEffort login blob) >>= remove login blob none := by
  refine congrArg (Action.always (Lease.breakBestEffort login blob) >>= ·) (funext fun warning => ?_)
  exact bind_pure_comp ..

/-- Without a break, a removal is one call under the lease id. -/
theorem runs_delete_plain {events : List Event} {v : Except Error Outcome} :
    (delete login blob leaseId false).run.Runs events v ↔
      ∃ answer, events = [⟨.store login (.deleteBlob blob leaseId), answer⟩] ∧
        v = (fun _ => .ofWarning? none) <$> answer := by
  have hcall : ∀ {answer : Except Error Unit},
      (Action.store login (.deleteBlob blob leaseId)).run.Runs events answer ↔
        events = [⟨.store login (.deleteBlob blob leaseId), answer⟩] := Program.runs_perform
  rw [delete_plain]
  exact Action.runs_map.trans (exists_congr fun answer => and_congr_left fun _ => hcall)

end Provision

/-! ## A store in memory -/

namespace MemoryStore

variable {m : MemoryStore} {b : BlobPath} {s : StoredBlob} {lease : Option String}

/-- The store without the blob at `b`, its removal counted. -/
def without (m : MemoryStore) (b : BlobPath) : MemoryStore :=
  { m.drop b with counters := { m.counters with deletes := m.counters.deletes + 1 } }

theorem perform_deleteBlob (fresh : String) (hs : m.blob? b = some s)
    (hid : s.leaseId = StoredBlob.presented lease) :
    m.perform fresh (.deleteBlob b lease) = (.ok (), m.without b) := by
  have hcheck : s.checkWriteLease b lease = .ok () := checkWriteLease_eq_ok.mpr hid
  have hdelete : m.deleteBlob b lease = .ok (m.without b) := by
    simp only [deleteBlob, find, hs]
    show (s.checkWriteLease b lease >>= fun _ => _) = _
    rw [hcheck]
    rfl
  exact congrArg (m.settle ()) hdelete

theorem perform_deleteBlob_refused (fresh : String)
    (h : ¬ ∃ s, m.blob? b = some s ∧ s.leaseId = StoredBlob.presented lease) :
    ∃ e, m.perform fresh (.deleteBlob b lease) = (.error e, m) := by
  cases hdelete : m.deleteBlob b lease with
  | error e => exact ⟨e, congrArg (m.settle ()) hdelete⟩
  | ok m' =>
    obtain ⟨s, hs, hcheck, -⟩ := deleteBlob_eq_ok hdelete
    exact (h ⟨s, hs, checkWriteLease_eq_ok.mp hcheck⟩).elim

/-- How a break is refused where there is no lease. -/
def unleased (b : BlobPath) : Error := .backend ("There is currently no lease on " ++ b.text)

theorem perform_breakLease_free (fresh : String) (hs : m.blob? b = some s) (hid : s.leaseId = none)
    (seconds : UInt32) : m.perform fresh (.breakLease b seconds) = (.error (unleased b), m.countBreak) := by
  have hfind : m.countBreak.blob? b = some s := hs
  have hnone : s.leaseId.isNone = true := Option.isNone_iff_eq_none.mpr hid
  simp only [perform, breakLease, find, hfind]
  show m.countBreak.settle () (if s.leaseId.isNone = true then _ else _) = _
  rw [if_pos hnone]
  rfl

theorem perform_breakLease_missing (fresh : String) (h : m.blob? b = none) (seconds : UInt32) :
    ∃ e, m.perform fresh (.breakLease b seconds) = (.error e, m.countBreak) := by
  have hfind : m.countBreak.blob? b = none := h
  refine ⟨.notFound ("The specified blob " ++ b.text ++ " does not exist"), ?_⟩
  simp only [perform, breakLease, find, hfind]
  rfl

/-- The blob at `b` is gone. All other blobs are what they were, and so are the containers. -/
structure Removed (b : BlobPath) (m m' : MemoryStore) : Prop where
  gone : m'.blob? b = none
  others : ∀ k, k ≠ b → m'.blob? k = m.blob? k
  containers : m'.containers = m.containers

theorem removed_without (m : MemoryStore) (b : BlobPath) : Removed b m (m.without b) where
  gone := by
    show (m.drop b).blob? b = none
    rw [blob?_drop, if_pos rfl]
  others k hk := by
    show (m.drop b).blob? k = _
    rw [blob?_drop, if_neg hk]
  containers := rfl

variable {login : Credentials} {answers : (e : Effect) → e.Answer} {draw : MemoryStore → String}

/-- A removal is answered as its last call is. -/
theorem run_remove {warning : Option CleanupWarning} {answer : Except Error Unit} {m' : MemoryStore}
    (h : m.perform (draw m) (.deleteBlob b lease) = (answer, m')) :
    (Provision.remove login b lease warning).run.run (handle answers draw) m =
      ((fun _ => .ofWarning? warning) <$> answer, m') := by
  rw [Provision.remove, map_eq_pure_bind]
  cases answer with
  | ok u => exact Action.run_bind_ok (a := Action.store login (.deleteBlob b lease)) h
  | error e => exact Action.run_bind_error (a := Action.store login (.deleteBlob b lease)) h

theorem run_breakBestEffort {broken : Except Error Unit} {m₁ : MemoryStore}
    (h : m.perform (draw m) (.breakLease b 0) = (broken, m₁)) :
    (Lease.breakBestEffort login b).run (handle answers draw) m = (Lease.warning? b broken, m₁) := by
  have hcall : (Lease.breakNow login b).outcome.run (handle answers draw) m = (broken, m₁) := h
  show (Program.bind (Lease.breakNow login b).outcome _).run (handle answers draw) m = _
  rw [Program.run_bind, hcall]
  cases broken <;> rfl

/-- After a break, whatever it was answered, the blob is removed without a lease id. -/
theorem run_delete_forced {broken answer : Except Error Unit} {m₁ m' : MemoryStore}
    (hbreak : m.perform (draw m) (.breakLease b 0) = (broken, m₁))
    (hremove : m₁.perform (draw m₁) (.deleteBlob b none) = (answer, m')) :
    (Provision.delete login b lease true).run.run (handle answers draw) m =
      ((fun _ => .ofWarning? (Lease.warning? b broken)) <$> answer, m') := by
  have hwarn : (Action.always (Lease.breakBestEffort login b)).run.run (handle answers draw) m =
      (.ok (Lease.warning? b broken), m₁) := by
    show (Program.bind (Lease.breakBestEffort login b) _).run (handle answers draw) m = _
    rw [Program.run_bind, run_breakBestEffort hbreak]
    rfl
  rw [Provision.delete_forced]
  exact (Action.run_bind_ok hwarn).trans (run_remove hremove)

section

variable (login : Credentials) (answers : (e : Effect) → e.Answer) (draw : MemoryStore → String)
  (lease : Option String)

/-- Under the live lease id, or none where there is no lease, the blob is removed. -/
theorem run_delete_plain (hs : m.blob? b = some s) (hid : s.leaseId = StoredBlob.presented lease) :
    (Provision.delete login b lease false).run.run (handle answers draw) m = (.ok ⟨[]⟩, m.without b) := by
  rw [Provision.delete_plain]
  exact run_remove (perform_deleteBlob (draw m) hs hid)

/-- Under any other it is not, and nothing happens. -/
theorem run_delete_refused (h : ¬ ∃ s, m.blob? b = some s ∧ s.leaseId = StoredBlob.presented lease) :
    ∃ e, (Provision.delete login b lease false).run.run (handle answers draw) m = (.error e, m) := by
  obtain ⟨e, hrefused⟩ := perform_deleteBlob_refused (draw m) h
  rw [Provision.delete_plain]
  exact ⟨e, run_remove hrefused⟩

/-- With a break a leased blob is removed, and there is no warning. -/
theorem run_delete_leased (hs : m.blob? b = some s) (hid : s.leaseId ≠ none) :
    ∃ m', (Provision.delete login b lease true).run.run (handle answers draw) m = (.ok ⟨[]⟩, m') ∧
      Removed b m m' := by
  have hbreak := perform_breakLease_leased (draw m) hs hid 0
  generalize hm₁ : m.countBreak.put b { s with leaseId := none, leaseState := .broken } = m₁ at hbreak
  have hs₁ : m₁.blob? b = some { s with leaseId := none, leaseState := .broken } := by
    rw [← hm₁, blob?_put, if_pos rfl]
  have hremove : m₁.perform (draw m₁) (.deleteBlob b none) = (.ok (), m₁.without b) :=
    perform_deleteBlob (draw m₁) hs₁ rfl
  have hremoved := removed_without m₁ b
  refine ⟨_, run_delete_forced hbreak hremove, hremoved.gone, fun k hk => ?_, ?_⟩
  · rw [hremoved.others k hk, ← hm₁, blob?_put, if_neg hk]
    rfl
  · rw [hremoved.containers, ← hm₁]
    rfl

/-- With a break a blob without a lease is removed, with a warning that it had none. -/
theorem run_delete_free (hs : m.blob? b = some s) (hid : s.leaseId = none) :
    ∃ m', (Provision.delete login b lease true).run.run (handle answers draw) m =
        (.ok ⟨[.ofBreak b.text (unleased b)]⟩, m') ∧ Removed b m m' := by
  have hbreak := perform_breakLease_free (draw m) hs hid 0
  have hremove : m.countBreak.perform (draw m.countBreak) (.deleteBlob b none) =
      (.ok (), m.countBreak.without b) := perform_deleteBlob (draw m.countBreak) hs hid
  have hremoved := removed_without m.countBreak b
  exact ⟨_, run_delete_forced hbreak hremove, hremoved.gone, hremoved.others, hremoved.containers⟩

/-- With a break, only a blob that is missing is not removed. -/
theorem run_delete_missing (h : m.blob? b = none) :
    ∃ e, (Provision.delete login b lease true).run.run (handle answers draw) m = (.error e, m.countBreak) := by
  obtain ⟨e, hbreak⟩ := perform_breakLease_missing (draw m) h 0
  have hnone : ¬ ∃ s, m.countBreak.blob? b = some s ∧ s.leaseId = StoredBlob.presented none := by
    rintro ⟨s, hs, -⟩
    cases h.symm.trans hs
  obtain ⟨e', hremove⟩ := perform_deleteBlob_refused (draw m.countBreak) hnone
  exact ⟨e', run_delete_forced hbreak hremove⟩

/-- A removal finds the blob, and with a break or the right lease id it removes it; or that is not so, and
then it changes no blob. -/
theorem run_delete (m : MemoryStore) (b : BlobPath) (force : Bool) :
    (∃ s, m.blob? b = some s ∧ (force = true ∨ s.leaseId = StoredBlob.presented lease) ∧
      ∃ m', (Provision.delete login b lease force).run.run (handle answers draw) m =
        (.ok ⟨if force = true ∧ s.leaseId = none then [.ofBreak b.text (unleased b)] else []⟩, m') ∧
        Removed b m m') ∨
    (¬ ∃ s, m.blob? b = some s ∧ (force = true ∨ s.leaseId = StoredBlob.presented lease)) ∧
      ∃ e m', (Provision.delete login b lease force).run.run (handle answers draw) m = (.error e, m') ∧
        (∀ k, m'.blob? k = m.blob? k) ∧ m'.containers = m.containers := by
  cases force with
  | false =>
    by_cases hfits : ∃ s, m.blob? b = some s ∧ s.leaseId = StoredBlob.presented lease
    · obtain ⟨s, hs, hid⟩ := hfits
      exact .inl ⟨s, hs, .inr hid, _, run_delete_plain login answers draw lease hs hid, removed_without m b⟩
    · obtain ⟨e, hrun⟩ := run_delete_refused login answers draw lease hfits
      simp only [Bool.false_eq_true, false_or]
      exact .inr ⟨hfits, e, m, hrun, fun _ => rfl, rfl⟩
  | true =>
    cases hblob : m.blob? b with
    | none =>
      obtain ⟨e, hrun⟩ := run_delete_missing login answers draw lease hblob
      exact .inr ⟨nofun, e, m.countBreak, hrun, fun _ => rfl, rfl⟩
    | some s =>
      refine .inl ⟨s, rfl, .inl rfl, ?_⟩
      by_cases hid : s.leaseId = none
      · rw [if_pos ⟨rfl, hid⟩]
        exact run_delete_free login answers draw lease hblob hid
      · rw [if_neg fun h => hid h.2]
        exact run_delete_leased login answers draw lease hblob hid

end

/-- On a store that can come about, a lease id fits a blob if it is that of its lease, and none fits if the
blob has no lease. -/
theorem Reachable.leaseId_eq_presented (hm : m.Reachable) (hs : m.blob? b = some s) (lease : Option String) :
    s.leaseId = StoredBlob.presented lease ↔ s.leaseState ≠ .leased ∧ StoredBlob.presented lease = none ∨
      ∃ id, StoredBlob.presented lease = some id ∧ s.leaseId = some id := by
  rw [← hm.leaseId_eq_none hs]
  cases StoredBlob.presented lease with
  | none => simp
  | some id => simp

end MemoryStore

namespace Provision

open MemoryStore (handle Removed unleased)

/-- Without a break, a removal breaks no lease, whatever it is answered. On a store that came about from an
empty one it succeeds just if the blob is there and either it is not leased and no lease id is given, or
the lease id is that of its lease; an empty one is none. With a break it succeeds just if the blob is
there, and gives a warning just if it was not leased. Then the blob is gone and all else is what it was;
and if the removal fails, all blobs are what they were. -/
theorem delete_exact (login : Credentials) (blob : BlobPath) (leaseId : Option String) :
    (∀ events v, (delete login blob leaseId false).run.Runs events v → ∀ x ∈ events,
      ∀ login' k seconds, x.effect ≠ .store login' (.breakLease k seconds)) ∧
    ∀ {m m' : MemoryStore} {v : Except Error Outcome} {force : Bool} {answers : (e : Effect) → e.Answer}
      {draw : MemoryStore → String}, m.Reachable →
      (delete login blob leaseId force).run.run (handle answers draw) m = (v, m') →
      ((∃ o, v = .ok o) ↔ ∃ s, m.blob? blob = some s ∧
        (force = true ∨ s.leaseState ≠ .leased ∧ StoredBlob.presented leaseId = none ∨
          ∃ id, StoredBlob.presented leaseId = some id ∧ s.leaseId = some id)) ∧
        (∀ o, v = .ok o → Removed blob m m' ∧ ∃ s, m.blob? blob = some s ∧
          o.warnings = if force = true ∧ s.leaseState ≠ .leased then
            [.ofBreak blob.text (unleased blob)] else []) ∧
        ∀ e, v = .error e → (∀ k, m'.blob? k = m.blob? k) ∧ m'.containers = m.containers := by
  refine ⟨fun events v hruns x hx login' k seconds => ?_,
    fun {m m' v force answers draw} hm hrun => ?_⟩
  · obtain ⟨answer, rfl, -⟩ := runs_delete_plain.mp hruns
    obtain rfl := List.mem_singleton.mp hx
    exact nofun
  · rcases MemoryStore.run_delete login answers draw leaseId m blob force with
      ⟨s, hs, hcond, m₁, hok, hremoved⟩ | ⟨hcond, e, m₁, herror, hblobs⟩
    · obtain ⟨rfl, rfl⟩ := Prod.mk.inj (hok.symm.trans hrun)
      have hcond := hcond.imp_right (hm.leaseId_eq_presented hs leaseId).mp
      refine ⟨⟨fun _ => ⟨s, hs, hcond⟩, fun _ => ⟨_, rfl⟩⟩, ?_, nofun⟩
      rintro _ ⟨⟩
      refine ⟨hremoved, s, hs, ?_⟩
      simp only [hm.leaseId_eq_none hs]
    · obtain ⟨rfl, rfl⟩ := Prod.mk.inj (herror.symm.trans hrun)
      refine ⟨⟨nofun, ?_⟩, nofun, fun _ _ => hblobs⟩
      rintro ⟨s, hs, h⟩
      exact (hcond ⟨s, hs, h.imp_right (hm.leaseId_eq_presented hs leaseId).mpr⟩).elim

/-- The disk that someone has leased: removed under the lease id, not removed under none, and removed with
a break; and with a break and a warning, once the lease is broken already. -/
theorem delete_exact_held : ∃ m₁ m₂ m₃ m₄ e,
    (delete ⟨"account", "a2V5"⟩ Sample.blob (some "theirs") false).run.run
        (handle (Sample.answers "") fun _ => "") Sample.held = (.ok ⟨[]⟩, m₁) ∧
      Removed Sample.blob Sample.held m₁ ∧
    (delete ⟨"account", "a2V5"⟩ Sample.blob (some "") false).run.run
        (handle (Sample.answers "") fun _ => "") Sample.held = (.error e, m₂) ∧
      (∀ k, m₂.blob? k = Sample.held.blob? k) ∧
    (delete ⟨"account", "a2V5"⟩ Sample.blob (some "ours") true).run.run
        (handle (Sample.answers "") fun _ => "") Sample.held = (.ok ⟨[]⟩, m₃) ∧
      Removed Sample.blob Sample.held m₃ ∧
    (delete ⟨"account", "a2V5"⟩ Sample.blob none true).run.run (handle (Sample.answers "") fun _ => "")
        (Sample.held.perform "id" (.breakLease Sample.blob 0)).2 =
          (.ok ⟨[.ofBreak "/dysks/disk" (unleased Sample.blob)]⟩, m₄) ∧
      m₄.blob? Sample.blob = none := by
  have hbroken : (Sample.held.perform "id" (.breakLease Sample.blob 0)).2.Reachable :=
    .called _ Sample.reachable_held (by decide)
  have hlive := (delete_exact ⟨"account", "a2V5"⟩ Sample.blob (some "theirs")).2 Sample.reachable_held
    (show (delete _ _ _ false).run.run (handle (Sample.answers "") fun _ => "") Sample.held = _ from rfl)
  have hempty := (delete_exact ⟨"account", "a2V5"⟩ Sample.blob (some "")).2 Sample.reachable_held
    (show (delete _ _ _ false).run.run (handle (Sample.answers "") fun _ => "") Sample.held = _ from rfl)
  have hours := (delete_exact ⟨"account", "a2V5"⟩ Sample.blob (some "ours")).2 Sample.reachable_held
    (show (delete _ _ _ true).run.run (handle (Sample.answers "") fun _ => "") Sample.held = _ from rfl)
  have hnone := (delete_exact ⟨"account", "a2V5"⟩ Sample.blob none).2 hbroken
    (show (delete _ _ _ true).run.run (handle (Sample.answers "") fun _ => "") _ = _ from rfl)
  exact ⟨_, _, _, _, _, rfl, (hlive.2.1 _ rfl).1, rfl, (hempty.2.2 _ rfl).1, rfl, (hours.2.1 _ rfl).1, rfl,
    (hnone.2.1 _ rfl).1.gone⟩

end Provision

end BlobDisk
