import BlobDisk.Proofs.Store.Reachable

/-!
# Calls that are refused

A call that is refused leaves containers and blobs as they were, whatever it was refused for. At most it
has been counted as an attempt to take or to break a lease, and no call looks at how many of these there
were. So refused calls can be left out of a history: the calls that went through get the same answers
without them and make the same of the store.

* `MemoryStore.withAttempts`: the store with other numbers of attempts;
* `MemoryStore.perform_of_error`: what a refused call leaves;
* `MemoryStore.perform_withAttempts`: no call looks at the numbers of attempts;
* `MemoryStore.refused_calls_leave_no_trace`: a history and what is left of it without its refused calls.
-/

namespace BlobDisk

/-- Whether the call went through. -/
def Served.accepted (x : Served) : Bool :=
  match x.answer with
  | .ok _ => true
  | .error _ => false

namespace MemoryStore

variable {m : MemoryStore} {b : BlobPath} {s : StoredBlob} {call : StoreCall} {fresh : String} {e : Error}

/-- The store with other numbers of attempts to take and to break a lease. -/
def withAttempts (m : MemoryStore) (acquires breaks : Nat) : MemoryStore :=
  { m with counters := { m.counters with acquires, breaks } }

@[simp] theorem containers_withAttempts (m : MemoryStore) (acquires breaks : Nat) :
    (m.withAttempts acquires breaks).containers = m.containers := rfl

@[simp] theorem blob?_withAttempts (m : MemoryStore) (acquires breaks : Nat) (b : BlobPath) :
    (m.withAttempts acquires breaks).blob? b = m.blob? b := rfl

/-! ## One call -/

/-- A call that is refused leaves the store as it was, but for the attempt. -/
theorem perform_of_error (h : (m.perform fresh call).1 = .error e) :
    (m.perform fresh call).2 = m ∨
      (∃ k duration, call = .acquireLease k duration ∧ (m.perform fresh call).2 = m.countAcquire) ∨
      ∃ k seconds, call = .breakLease k seconds ∧ (m.perform fresh call).2 = m.countBreak := by
  cases call with
  | createContainer c => cases h
  | containerExists c | blobExists k | readRange k range lease | properties k lease => exact .inl rfl
  | createPageBlob k size | writeRange k range data lease | setMetadata k metadata lease
  | deleteBlob k lease => exact .inl (settle_snd_of_error h)
  | acquireLease k duration => exact .inr (.inl ⟨k, duration, rfl, settle_snd_of_error h⟩)
  | breakLease k seconds => exact .inr (.inr ⟨k, seconds, rfl, settle_snd_of_error h⟩)

/-- So only numbers of attempts can have changed. -/
theorem perform_eq_withAttempts (h : (m.perform fresh call).1 = .error e) :
    ∃ a k, (m.perform fresh call).2 = m.withAttempts a k := by
  rcases perform_of_error h with hm | ⟨-, -, -, hm⟩ | ⟨-, -, -, hm⟩
  · exact ⟨m.counters.acquires, m.counters.breaks, hm⟩
  · exact ⟨m.counters.acquires + 1, m.counters.breaks, hm⟩
  · exact ⟨m.counters.acquires, m.counters.breaks + 1, hm⟩

/-! ## The numbers of attempts do not matter -/

variable {α : Type} {acquires breaks : Nat}

/-- What a change does step by step, it does with other numbers of attempts. -/
theorem bind_withAttempts {x : Except Error α} {f g : α → Except Error MemoryStore}
    (h : ∀ v, f v = (g v).map (withAttempts · acquires breaks)) :
    x >>= f = (x >>= g).map (withAttempts · acquires breaks) := by
  cases x with
  | ok v => exact h v
  | error e => rfl

theorem guard_withAttempts {c : Prop} [Decidable c] {f g : α → Except Error MemoryStore}
    {r r' : Except Error MemoryStore} (h : r = r'.map (withAttempts · acquires breaks)) :
    (if c then (throw e : Except Error α) >>= f else r) =
      (if c then (throw e : Except Error α) >>= g else r').map (withAttempts · acquires breaks) := by
  by_cases hc : c
  · rw [if_pos hc, if_pos hc]
    rfl
  · rw [if_neg hc, if_neg hc, h]

theorem settle_withAttempts {value : α} {r r' : Except Error MemoryStore}
    (h : r = r'.map (withAttempts · acquires breaks)) :
    (m.withAttempts acquires breaks).settle value r =
      ((m.settle value r').1, (m.settle value r').2.withAttempts acquires breaks) := by
  rw [h]
  cases r' with
  | ok m' => rfl
  | error e => rfl

theorem createPageBlob_withAttempts (size : UInt64) :
    (m.withAttempts acquires breaks).createPageBlob b size =
      (m.createPageBlob b size).map (withAttempts · acquires breaks) := by
  refine guard_withAttempts (guard_withAttempts ?_)
  rw [blob?_withAttempts]
  cases m.blob? b with
  | none => rfl
  | some s => exact bind_withAttempts fun _ => rfl

theorem writeRange_withAttempts (range : ByteRange) (data : List UInt8) (lease : Option String) :
    (m.withAttempts acquires breaks).writeRange b range data lease =
      (m.writeRange b range data lease).map (withAttempts · acquires breaks) :=
  bind_withAttempts fun _ => bind_withAttempts fun _ => bind_withAttempts fun _ => guard_withAttempts rfl

theorem setMetadata_withAttempts (metadata : TextMap) (lease : Option String) :
    (m.withAttempts acquires breaks).setMetadata b metadata lease =
      (m.setMetadata b metadata lease).map (withAttempts · acquires breaks) :=
  bind_withAttempts fun _ => bind_withAttempts fun _ => rfl

theorem acquireLease_withAttempts :
    (m.withAttempts acquires breaks).acquireLease b fresh =
      (m.acquireLease b fresh).map (withAttempts · acquires breaks) :=
  bind_withAttempts fun _ => guard_withAttempts rfl

theorem breakLease_withAttempts :
    (m.withAttempts acquires breaks).breakLease b =
      (m.breakLease b).map (withAttempts · acquires breaks) :=
  bind_withAttempts fun _ => guard_withAttempts rfl

theorem deleteBlob_withAttempts (lease : Option String) :
    (m.withAttempts acquires breaks).deleteBlob b lease =
      (m.deleteBlob b lease).map (withAttempts · acquires breaks) :=
  bind_withAttempts fun _ => bind_withAttempts fun _ => rfl

/-- A call is answered the same, and does the same, however many attempts have been counted. -/
theorem perform_withAttempts (fresh : String) (m : MemoryStore) (acquires breaks : Nat) (call : StoreCall) :
    ∃ a k, (m.withAttempts acquires breaks).perform fresh call =
      ((m.perform fresh call).1, (m.perform fresh call).2.withAttempts a k) := by
  cases call with
  | createContainer c =>
    refine ⟨acquires, breaks, Prod.ext rfl ?_⟩
    show (m.withAttempts acquires breaks).addContainer c = (m.addContainer c).withAttempts acquires breaks
    by_cases hc : c ∈ m.containers
    · rw [addContainer, addContainer, if_pos hc]
      exact if_pos hc
    · rw [addContainer, addContainer, if_neg hc]
      exact if_neg hc
  | containerExists c | blobExists b | readRange b range lease | properties b lease =>
    exact ⟨acquires, breaks, rfl⟩
  | createPageBlob b size => exact ⟨_, _, settle_withAttempts (createPageBlob_withAttempts size)⟩
  | writeRange b range data lease =>
    exact ⟨_, _, settle_withAttempts (writeRange_withAttempts range data lease)⟩
  | setMetadata b metadata lease =>
    exact ⟨_, _, settle_withAttempts (setMetadata_withAttempts metadata lease)⟩
  | deleteBlob b lease => exact ⟨_, _, settle_withAttempts (deleteBlob_withAttempts lease)⟩
  | acquireLease b duration =>
    have hchange : (m.countAcquire.withAttempts (acquires + 1) breaks).acquireLease b fresh = _ :=
      acquireLease_withAttempts
    exact ⟨acquires + 1, breaks, settle_withAttempts (m := m.countAcquire) hchange⟩
  | breakLease b seconds =>
    have hchange : (m.countBreak.withAttempts acquires (breaks + 1)).breakLease b = _ :=
      breakLease_withAttempts
    exact ⟨acquires, breaks + 1, settle_withAttempts (m := m.countBreak) hchange⟩

theorem serve_withAttempts (m : MemoryStore) (acquires breaks : Nat) (calls : List (StoreCall × String)) :
    ∃ a k, (m.withAttempts acquires breaks).serve calls =
      ((m.serve calls).1, (m.serve calls).2.withAttempts a k) := by
  induction calls generalizing m acquires breaks with
  | nil => exact ⟨acquires, breaks, rfl⟩
  | cons p rest ih =>
    obtain ⟨call, fresh⟩ := p
    obtain ⟨a, k, hcall⟩ := perform_withAttempts fresh m acquires breaks call
    obtain ⟨a', k', hrest⟩ := ih (m.perform fresh call).2 a k
    refine ⟨a', k', ?_⟩
    simp only [serve, hcall, hrest]

/-! ## Histories -/

/-- The calls of a history that went through. -/
def accepted (m : MemoryStore) : List (StoreCall × String) → List (StoreCall × String)
  | [] => []
  | (call, fresh) :: rest =>
    let later := (m.perform fresh call).2.accepted rest
    if Served.accepted ⟨call, (m.perform fresh call).1⟩ then (call, fresh) :: later else later

theorem accepted_cons_ok {calls : List (StoreCall × String)} {v : call.Answer}
    (h : (m.perform fresh call).1 = .ok v) :
    m.accepted ((call, fresh) :: calls) = (call, fresh) :: (m.perform fresh call).2.accepted calls := by
  rw [accepted, h]
  rfl

theorem accepted_cons_error {calls : List (StoreCall × String)} (h : (m.perform fresh call).1 = .error e) :
    m.accepted ((call, fresh) :: calls) = (m.perform fresh call).2.accepted calls := by
  rw [accepted, h]
  rfl

/-- The calls that went through would have done so without the others, with the same answers, and the
store would have come out of them the same, but for the attempts. -/
theorem serve_accepted (m : MemoryStore) (calls : List (StoreCall × String)) :
    (m.serve (m.accepted calls)).1 = (m.serve calls).1.filter Served.accepted ∧
      ∃ a k, (m.serve calls).2 = (m.serve (m.accepted calls)).2.withAttempts a k := by
  induction calls generalizing m with
  | nil => exact ⟨rfl, m.counters.acquires, m.counters.breaks, rfl⟩
  | cons p rest ih =>
    obtain ⟨call, fresh⟩ := p
    obtain ⟨hanswers, a, k, hstore⟩ := ih (m.perform fresh call).2
    cases hcall : (m.perform fresh call).1 with
    | ok v =>
      have hin : Served.accepted ⟨call, (m.perform fresh call).1⟩ = true := by
        rw [hcall]
        rfl
      rw [accepted_cons_ok hcall]
      refine ⟨?_, a, k, hstore⟩
      rw [serve, serve, List.filter_cons_of_pos hin, hanswers]
    | error e =>
      have hout : ¬ Served.accepted ⟨call, (m.perform fresh call).1⟩ = true := by
        rw [hcall]
        exact nofun
      rw [accepted_cons_error hcall]
      -- What is left of the history starts without the attempt that was refused.
      obtain ⟨a₁, k₁, hm⟩ := perform_eq_withAttempts hcall
      obtain ⟨a₂, k₂, hsame⟩ := serve_withAttempts m a₁ k₁ ((m.perform fresh call).2.accepted rest)
      rw [← hm] at hsame
      refine ⟨?_, a, k, ?_⟩
      · rw [serve, List.filter_cons_of_neg hout, ← hanswers, hsame]
      · show ((m.perform fresh call).2.serve rest).2 = _
        rw [hstore, hsame]
        rfl

/-- A call that is refused leaves the containers as they were, and every blob with all that belongs to
it. At most it has been counted as an attempt to take or to break a lease. And in a history of calls the
refused ones do not matter: without them the others get the same answers, and all containers and blobs
end as they do. -/
theorem refused_calls_leave_no_trace (m : MemoryStore) :
    (∀ {fresh : String} {call : StoreCall} {e : Error} {m' : MemoryStore},
      m.perform fresh call = (.error e, m') →
        m'.containers = m.containers ∧ (∀ b, m'.blob? b = m.blob? b) ∧
          (m' = m ∨ (∃ k duration, call = .acquireLease k duration ∧ m' = m.countAcquire) ∨
            ∃ k seconds, call = .breakLease k seconds ∧ m' = m.countBreak)) ∧
      ∀ calls, (m.serve (m.accepted calls)).1 = (m.serve calls).1.filter Served.accepted ∧
        (m.serve calls).2.containers = (m.serve (m.accepted calls)).2.containers ∧
        ∀ b, (m.serve calls).2.blob? b = (m.serve (m.accepted calls)).2.blob? b := by
  refine ⟨fun {fresh call e m'} h => ?_, fun calls => ?_⟩
  · obtain ⟨hanswer, rfl⟩ := Prod.ext_iff.mp h
    obtain ⟨a, k, hm⟩ := perform_eq_withAttempts hanswer
    have hcontainers : (m.perform fresh call).2.containers = m.containers := by
      rw [hm, containers_withAttempts]
    exact ⟨hcontainers, fun b => blob?_of_error hanswer, perform_of_error hanswer⟩
  · obtain ⟨hanswers, a, k, hstore⟩ := serve_accepted m calls
    refine ⟨hanswers, ?_, fun b => ?_⟩
    · rw [hstore, containers_withAttempts]
    · rw [hstore, blob?_withAttempts]

/-- The change of a leased disk by somebody else, and its lease asked for once more. -/
theorem refused_calls_leave_no_trace_held : ∃ e m' e' m'',
    Sample.held.perform "" (.setMetadata Sample.blob [("k", "v")] none) = (.error e, m') ∧
      (∀ b, m'.blob? b = Sample.held.blob? b) ∧
    Sample.held.perform "ours" (.acquireLease Sample.blob .infinite) = (.error e', m'') ∧
      (∀ b, m''.blob? b = Sample.held.blob? b) ∧ m''.counters ≠ Sample.held.counters := by
  have hwrite := (refused_calls_leave_no_trace Sample.held).1
    (show Sample.held.perform "" (.setMetadata Sample.blob [("k", "v")] none) = _ from rfl)
  have hlease := (refused_calls_leave_no_trace Sample.held).1
    (show Sample.held.perform "ours" (.acquireLease Sample.blob .infinite) = _ from rfl)
  exact ⟨_, _, _, _, rfl, hwrite.2.1, rfl, hlease.2.1, by decide⟩

end MemoryStore

end BlobDisk
