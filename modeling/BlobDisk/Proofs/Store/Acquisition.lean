import BlobDisk.Proofs.Store.Reachable

/-!
# How a lease is acquired

A lease is asked for once. Only if the answer is that there is another one, and that one may be broken,
is it broken and the lease asked for again. On a store in memory this always works out with a break,
and without one just if there is no lease.

* `Lease.acquire_eq`: an acquisition cut at its first call;
* `Lease.Acquiring`, `Lease.runs_acquire`: the calls of an acquisition, whatever the store answers;
* `MemoryStore.perform_acquireLease_free` to `MemoryStore.perform_breakLease_leased`: the two calls on a
  store in memory;
* `MemoryStore.run_acquire_free`, `MemoryStore.run_acquire_forced`, `MemoryStore.run_acquire_refused`: what
  an acquisition comes to on it;
* `Lease.acquire_protocol`: the calls, and what they come to on stores that can come about.
-/

namespace BlobDisk

namespace Lease

variable {login : Credentials} {blob : BlobPath} {force : Bool} {events : List Event}
  {v : Except Error String}

/-- Whether the error says that there is another lease. -/
def isPresent : Error → Bool
  | .leaseAlreadyPresent _ => true
  | _ => false

/-- The other lease is broken and the lease asked for again. -/
def again (login : Credentials) (blob : BlobPath) : Action String := do
  Action.store login (.breakLease blob 0)
  Action.store login (.acquireLease blob .infinite)

/-- What follows on the first answer. -/
def goOn (login : Credentials) (blob : BlobPath) (force : Bool) :
    Except Error String → Program (Except Error String)
  | .ok id => .done (.ok id)
  | .error e => if force = true ∧ isPresent e = true then (again login blob).run else .done (.error e)

/-- All that follows on the first call depends on its answer and on whether a lease may be broken. -/
theorem acquire_eq (login : Credentials) (blob : BlobPath) (force : Bool) :
    (acquire login blob force).run =
      .ask (.store login (.acquireLease blob .infinite)) (goOn login blob force) := by
  refine congrArg (Program.ask (.store login (.acquireLease blob .infinite))) (funext fun answer => ?_)
  cases answer with
  | ok id => rfl
  | error e =>
    -- One error is asked for by its constructor, so each is looked at.
    cases force with
    | false => cases e <;> rfl
    | true => cases e <;> rfl

theorem goOn_again {e : Error} (hforce : force = true) (hpresent : isPresent e = true) :
    goOn login blob force (.error e) = (again login blob).run :=
  if_pos ⟨hforce, hpresent⟩

theorem goOn_refused {e : Error} (h : ¬ (force = true ∧ isPresent e = true)) :
    goOn login blob force (.error e) = .done (.error e) :=
  if_neg h

/-! ## The calls -/

/-- The call that takes the lease, with its answer. -/
def asking (login : Credentials) (blob : BlobPath) (answer : Except Error String) : Event :=
  ⟨.store login (.acquireLease blob .infinite), answer⟩

/-- The call that ends another lease at once, with its answer. -/
def ending (login : Credentials) (blob : BlobPath) (answer : Except Error Unit) : Event :=
  ⟨.store login (.breakLease blob 0), answer⟩

/-- The calls of an acquisition and its result. -/
inductive Acquiring (login : Credentials) (blob : BlobPath) (force : Bool) :
    List Event → Except Error String → Prop
  | taken (id : String) : Acquiring login blob force [asking login blob (.ok id)] (.ok id)
  | refused {e : Error} : ¬ (force = true ∧ isPresent e = true) →
    Acquiring login blob force [asking login blob (.error e)] (.error e)
  | unbroken {e e' : Error} : force = true → isPresent e = true →
    Acquiring login blob force [asking login blob (.error e), ending login blob (.error e')] (.error e')
  | again {e : Error} {v : Except Error String} : force = true → isPresent e = true →
    Acquiring login blob force
      [asking login blob (.error e), ending login blob (.ok ()), asking login blob v] v

theorem runs_again : (again login blob).run.Runs events v ↔
    (∃ e, events = [ending login blob (.error e)] ∧ v = .error e) ∨
      events = [ending login blob (.ok ()), asking login blob v] := by
  have hbreak : ∀ {events} {answer : Except Error Unit},
      (Action.store login (.breakLease blob 0)).run.Runs events answer ↔
        events = [ending login blob answer] := Program.runs_perform
  have hask : ∀ {events} {answer : Except Error String},
      (Action.store login (.acquireLease blob .infinite)).run.Runs events answer ↔
        events = [asking login blob answer] := Program.runs_perform
  refine Action.runs_bind.trans ⟨?_, ?_⟩
  · rintro (⟨e, rfl, hb⟩ | ⟨front, ⟨⟩, back, rfl, hb, ha⟩)
    · exact .inl ⟨e, hbreak.mp hb, rfl⟩
    · rw [hbreak.mp hb, hask.mp ha]
      exact .inr rfl
  · rintro (⟨e, rfl, rfl⟩ | rfl)
    · exact .inl ⟨e, rfl, hbreak.mpr rfl⟩
    · exact .inr ⟨[_], (), [_], rfl, hbreak.mpr rfl, hask.mpr rfl⟩

/-- Whatever a store answers, an acquisition makes these calls and ends with this result. -/
theorem runs_acquire : (acquire login blob force).run.Runs events v ↔
    Acquiring login blob force events v := by
  rw [acquire_eq]
  constructor
  · have hrest : ∀ {answer : Except Error String} {back}, (goOn login blob force answer).Runs back v →
        Acquiring login blob force (asking login blob answer :: back) v := by
      intro answer back h
      cases answer with
      | ok id =>
        obtain ⟨rfl, rfl⟩ := Program.runs_done.mp h
        exact .taken id
      | error e =>
        by_cases hagain : force = true ∧ isPresent e = true
        · rw [goOn_again hagain.1 hagain.2] at h
          rcases runs_again.mp h with ⟨e', rfl, rfl⟩ | rfl
          · exact .unbroken hagain.1 hagain.2
          · exact .again hagain.1 hagain.2
        · rw [goOn_refused hagain] at h
          obtain ⟨rfl, rfl⟩ := Program.runs_done.mp h
          exact .refused hagain
    intro h
    cases h with
    | ask answer h => exact hrest h
  · -- Each kind of run begins with the first call and goes on as its answer says.
    have hfirst : ∀ {answer : Except Error String} {back}, (goOn login blob force answer).Runs back v →
        Program.Runs (.ask (.store login (.acquireLease blob .infinite)) (goOn login blob force))
          (asking login blob answer :: back) v :=
      fun h => .ask (e := .store login (.acquireLease blob .infinite)) _ h
    intro h
    cases h with
    | taken id => exact hfirst (.done _)
    | refused hagain =>
      apply hfirst
      rw [goOn_refused hagain]
      exact .done _
    | @unbroken e e' hforce hpresent =>
      apply hfirst
      rw [goOn_again hforce hpresent]
      exact runs_again.mpr (.inl ⟨e', rfl, rfl⟩)
    | again hforce hpresent =>
      apply hfirst
      rw [goOn_again hforce hpresent]
      exact runs_again.mpr (.inr rfl)

end Lease

/-! ## A store in memory -/

namespace MemoryStore

variable {m : MemoryStore} {b : BlobPath} {s : StoredBlob} {id : String}

theorem perform_acquireLease_missing (fresh : String) (h : m.blob? b = none) (duration : LeaseDuration) :
    ∃ e, Lease.isPresent e = false ∧
      m.perform fresh (.acquireLease b duration) = (.error e, m.countAcquire) := by
  have hfind : m.countAcquire.blob? b = none := h
  refine ⟨.notFound ("The specified blob " ++ b.text ++ " does not exist"), rfl, ?_⟩
  simp only [perform, acquireLease, find, hfind]
  rfl

theorem perform_acquireLease_leased (fresh : String) (hs : m.blob? b = some s) (hid : s.leaseId ≠ none)
    (duration : LeaseDuration) : ∃ e, Lease.isPresent e = true ∧
      m.perform fresh (.acquireLease b duration) = (.error e, m.countAcquire) := by
  have hfind : m.countAcquire.blob? b = some s := hs
  have hsome : s.leaseId.isSome = true := Option.isSome_iff_ne_none.mpr hid
  refine ⟨.leaseAlreadyPresent ("There is already a lease present on " ++ b.text), rfl, ?_⟩
  simp only [perform, acquireLease, find, hfind]
  show m.countAcquire.settle fresh (if s.leaseId.isSome = true then _ else _) = _
  rw [if_pos hsome]
  rfl

theorem perform_acquireLease_free (fresh : String) (hs : m.blob? b = some s) (hid : s.leaseId = none)
    (duration : LeaseDuration) : m.perform fresh (.acquireLease b duration) =
      (.ok fresh, m.countAcquire.put b { s with leaseId := some fresh, leaseState := .leased }) := by
  have hfind : m.countAcquire.blob? b = some s := hs
  have hnone : ¬ s.leaseId.isSome = true := by
    rw [hid]
    exact nofun
  simp only [perform, acquireLease, find, hfind]
  show m.countAcquire.settle fresh (if s.leaseId.isSome = true then _ else _) = _
  rw [if_neg hnone]
  rfl

theorem perform_breakLease_leased (fresh : String) (hs : m.blob? b = some s) (hid : s.leaseId ≠ none)
    (seconds : UInt32) : m.perform fresh (.breakLease b seconds) =
      (.ok (), m.countBreak.put b { s with leaseId := none, leaseState := .broken }) := by
  have hfind : m.countBreak.blob? b = some s := hs
  have hsome : ¬ s.leaseId.isNone = true := by
    rw [Option.isNone_iff_eq_none]
    exact hid
  simp only [perform, breakLease, find, hfind]
  show m.countBreak.settle () (if s.leaseId.isNone = true then _ else _) = _
  rw [if_neg hsome]
  rfl

/-- The lease of a blob has been taken under an id that was drawn when it had none and all other blobs
were as they are. Nothing else of the blob has changed, and no other blob. -/
structure Acquired (draw : MemoryStore → String) (b : BlobPath) (m m' : MemoryStore) (id : String) :
    Prop where
  drawn : ∃ m₁, m₁.lease? b = none ∧ (∀ k, k ≠ b → m₁.blob? k = m.blob? k) ∧ id = draw m₁
  blob : ∃ s, m.blob? b = some s ∧
    m'.blob? b = some { s with leaseId := some id, leaseState := .leased }
  others : ∀ k, k ≠ b → m'.blob? k = m.blob? k
  containers : m'.containers = m.containers

variable {login : Credentials} {force : Bool} {answers : (e : Effect) → e.Answer}
  {draw : MemoryStore → String}

/-- An acquisition goes on with the answer to its first call. -/
theorem run_acquire (answer : Except Error String) {m' : MemoryStore}
    (h : handle answers draw (.store login (.acquireLease b .infinite)) m = (answer, m')) :
    (Lease.acquire login b force).run.run (handle answers draw) m =
      (Lease.goOn login b force answer).run (handle answers draw) m' := by
  rw [Lease.acquire_eq]
  show (Lease.goOn login b force (handle answers draw (.store login (.acquireLease b .infinite)) m).1).run
    (handle answers draw) (handle answers draw (.store login (.acquireLease b .infinite)) m).2 = _
  rw [h]

theorem run_acquire_error {e : Error} {m' : MemoryStore}
    (h : m.perform (draw m) (.acquireLease b .infinite) = (.error e, m')) :
    (Lease.acquire login b force).run.run (handle answers draw) m =
      (Lease.goOn login b force (.error e)).run (handle answers draw) m' :=
  run_acquire (.error e) h

/-- The lease is taken where there is none. -/
theorem acquired_put (draw : MemoryStore → String) (hs : m.blob? b = some s) (hid : s.leaseId = none) :
    Acquired draw b m (m.countAcquire.put b
      { s with leaseId := some (draw m), leaseState := .leased }) (draw m) where
  drawn := ⟨m, by rw [lease?, hs]; exact hid, fun _ _ => rfl, rfl⟩
  blob := ⟨s, hs, by rw [blob?_put, if_pos rfl]⟩
  others k hk := by
    rw [blob?_put, if_neg hk]
    rfl
  containers := rfl

/-- Where there is no lease, it is taken at once. -/
theorem run_acquire_free (hs : m.blob? b = some s) (hid : s.leaseId = none) :
    ∃ id m', (Lease.acquire login b force).run.run (handle answers draw) m = (.ok id, m') ∧
      Acquired draw b m m' id := by
  have hask := perform_acquireLease_free (draw m) hs hid .infinite
  exact ⟨_, _, run_acquire (.ok (draw m)) hask, acquired_put draw hs hid⟩

/-- Another lease is broken, and then the blob has none. -/
theorem run_again_leased (login : Credentials) (answers : (e : Effect) → e.Answer)
    (draw : MemoryStore → String) (hs : m.blob? b = some s) (hid : s.leaseId ≠ none) :
    ∃ id m', (Lease.again login b).run.run (handle answers draw) m = (.ok id, m') ∧
      Acquired draw b m m' id := by
  have hbreak := perform_breakLease_leased (draw m) hs hid 0
  generalize hm₁ : m.countBreak.put b { s with leaseId := none, leaseState := .broken } = m₁ at hbreak
  have hs₁ : m₁.blob? b = some { s with leaseId := none, leaseState := .broken } := by
    rw [← hm₁, blob?_put, if_pos rfl]
  have hothers : ∀ k, k ≠ b → m₁.blob? k = m.blob? k := by
    intro k hk
    rw [← hm₁, blob?_put, if_neg hk]
    rfl
  have hcontainers : m₁.containers = m.containers := by
    rw [← hm₁]
    rfl
  have hfree : m₁.lease? b = none := by
    rw [lease?, hs₁]
    rfl
  have hask := perform_acquireLease_free (draw m₁) hs₁ rfl .infinite
  have hacquired := acquired_put draw hs₁ rfl
  refine ⟨draw m₁, m₁.countAcquire.put b { s with leaseId := some (draw m₁), leaseState := .leased },
    ?_, ⟨m₁, hfree, hothers, rfl⟩, ⟨s, hs, ?_⟩, fun k hk => ?_, ?_⟩
  · have hfirst : (Action.store login (.breakLease b 0)).run.run (handle answers draw) m = (.ok (), m₁) :=
      hbreak
    exact (Action.run_bind_ok hfirst).trans hask
  · rw [blob?_put, if_pos rfl]
  · exact (hacquired.others k hk).trans (hothers k hk)
  · exact hacquired.containers.trans hcontainers

/-- With a break, another lease is no obstacle. -/
theorem run_acquire_forced (hs : m.blob? b = some s) (hid : s.leaseId ≠ none) :
    ∃ id m', (Lease.acquire login b true).run.run (handle answers draw) m = (.ok id, m') ∧
      Acquired draw b m m' id := by
  obtain ⟨e, hpresent, hask⟩ := perform_acquireLease_leased (draw m) hs hid .infinite
  obtain ⟨id, m', hagain, hacquired⟩ := run_again_leased login answers draw (m := m.countAcquire)
    hs hid
  refine ⟨id, m', ?_, hacquired.drawn, hacquired.blob, hacquired.others, hacquired.containers⟩
  rw [run_acquire_error hask, Lease.goOn_again rfl hpresent]
  exact hagain

/-- Where there is no blob, or a lease that may not be broken, nothing happens. -/
theorem run_acquire_refused
    (h : m.blob? b = none ∨ force = false ∧ ∃ s, m.blob? b = some s ∧ s.leaseId ≠ none) :
    ∃ e, (Lease.acquire login b force).run.run (handle answers draw) m = (.error e, m.countAcquire) := by
  have hask : ∃ e, ¬ (force = true ∧ Lease.isPresent e = true) ∧
      m.perform (draw m) (.acquireLease b .infinite) = (.error e, m.countAcquire) := by
    rcases h with hnone | ⟨hforce, s, hs, hid⟩
    · obtain ⟨e, hpresent, hask⟩ := perform_acquireLease_missing (draw m) hnone .infinite
      exact ⟨e, fun hagain => by simp [hpresent] at hagain, hask⟩
    · obtain ⟨e, -, hask⟩ := perform_acquireLease_leased (draw m) hs hid .infinite
      exact ⟨e, fun hagain => by simp [hforce] at hagain, hask⟩
  obtain ⟨e, hagain, hask⟩ := hask
  refine ⟨e, ?_⟩
  rw [run_acquire_error hask, Lease.goOn_refused hagain]
  rfl

/-- On a store that can come about, the blob is there and its lease may be taken or broken, and then it
is taken; or that is not so, and then nothing happens. -/
theorem Reachable.run_acquire (hm : m.Reachable) (login : Credentials) (b : BlobPath) (force : Bool)
    (answers : (e : Effect) → e.Answer) (draw : MemoryStore → String) :
    (∃ s, m.blob? b = some s ∧ (force = true ∨ s.leaseState ≠ .leased)) ∧
        (∃ id m', (Lease.acquire login b force).run.run (handle answers draw) m = (.ok id, m') ∧
          Acquired draw b m m' id) ∨
      (¬ ∃ s, m.blob? b = some s ∧ (force = true ∨ s.leaseState ≠ .leased)) ∧
        ∃ e, (Lease.acquire login b force).run.run (handle answers draw) m = (.error e, m.countAcquire) := by
  cases hblob : m.blob? b with
  | none =>
    refine .inr ⟨?_, run_acquire_refused (.inl hblob)⟩
    rintro ⟨s, ⟨⟩, -⟩
  | some s =>
    have hleased := hm.leaseId_eq_none hblob
    by_cases hid : s.leaseId = none
    · exact .inl ⟨⟨s, rfl, .inr (hleased.mp hid)⟩, run_acquire_free hblob hid⟩
    · cases force with
      | true => exact .inl ⟨⟨s, rfl, .inl rfl⟩, run_acquire_forced hblob hid⟩
      | false =>
        refine .inr ⟨?_, run_acquire_refused (.inr ⟨rfl, s, hblob, hid⟩)⟩
        rintro ⟨_, ⟨⟩, h | h⟩
        · cases h
        · exact hid (hleased.mpr h)

end MemoryStore

namespace Lease

open MemoryStore (handle Acquired)

/-- An acquisition is one call, or two of which the second fails to break another lease, or three. It
breaks only what it was allowed to and was told of. On a store that came about from an empty one it
succeeds just if there is the blob and either it is not leased or its lease may be broken. The blob is
leased then under the new id and is else what it was, and so is all else; and if it fails, all blobs
are what they were. -/
theorem acquire_protocol (login : Credentials) (blob : BlobPath) (force : Bool) :
    (∀ events v, (acquire login blob force).run.Runs events v ↔ Acquiring login blob force events v) ∧
      ∀ {m m' : MemoryStore} {v : Except Error String} {answers : (e : Effect) → e.Answer}
        {draw : MemoryStore → String}, m.Reachable →
        (acquire login blob force).run.run (handle answers draw) m = (v, m') →
        ((∃ id, v = .ok id) ↔ ∃ s, m.blob? blob = some s ∧ (force = true ∨ s.leaseState ≠ .leased)) ∧
          (∀ id, v = .ok id → Acquired draw blob m m' id) ∧
          ∀ e, v = .error e → (∀ k, m'.blob? k = m.blob? k) ∧ m'.containers = m.containers := by
  refine ⟨fun _ _ => runs_acquire, fun {m m' v answers draw} hm hrun => ?_⟩
  rcases hm.run_acquire login blob force answers draw with
    ⟨hcond, id, m₁, hok, hacquired⟩ | ⟨hcond, e, herror⟩
  · obtain ⟨rfl, rfl⟩ := Prod.mk.inj (hok.symm.trans hrun)
    refine ⟨⟨fun _ => hcond, fun _ => ⟨id, rfl⟩⟩, fun id' hid => ?_, nofun⟩
    obtain rfl := Except.ok.inj hid
    exact hacquired
  · obtain ⟨rfl, rfl⟩ := Prod.mk.inj (herror.symm.trans hrun)
    exact ⟨⟨nofun, fun h => (hcond h).elim⟩, nofun, fun _ _ => ⟨fun _ => rfl, rfl⟩⟩

/-- The lease of someone else, taken with a break and refused without one. -/
theorem acquire_protocol_held : ∃ m₁ m₂ e, Sample.held.lease? Sample.blob = some "theirs" ∧
    (acquire ⟨"account", "a2V5"⟩ Sample.blob true).run.run
        (handle (Sample.answers "") fun _ => "ours") Sample.held = (.ok "ours", m₁) ∧
      Acquired (fun _ => "ours") Sample.blob Sample.held m₁ "ours" ∧
    (acquire ⟨"account", "a2V5"⟩ Sample.blob false).run.run
        (handle (Sample.answers "") fun _ => "ours") Sample.held = (.error e, m₂) ∧
      (∀ k, m₂.blob? k = Sample.held.blob? k) ∧ m₂.containers = Sample.held.containers := by
  refine ⟨_, _, _, rfl, rfl, ?_, rfl, ?_⟩
  · exact ((acquire_protocol ⟨"account", "a2V5"⟩ Sample.blob true).2 Sample.reachable_held rfl).2.1 _ rfl
  · exact ((acquire_protocol ⟨"account", "a2V5"⟩ Sample.blob false).2 Sample.reachable_held rfl).2.2 _ rfl

end Lease

end BlobDisk
