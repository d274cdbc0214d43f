import BlobDisk.Proofs.Runs
import BlobDisk.Proofs.Schedule
import BlobDisk.Proofs.Store.History

/-!
# Stores that can come about, and operations on them

A store starts empty. It changes by calls, each with an id at hand for the lease that it may take, and
by blobs that are put into it as they are. Operations see it through a handler that draws these ids.

* `MemoryStore.Reachable`: the stores that can come about;
* `MemoryStore.Reachable.sound`: in them the state of a lease and its id agree;
* `Action.run_bind_ok`, `Action.run_bind_error`, `Action.run_guard`: an operation under a handler, step by
  step;
* `MemoryStore.handle`, `MemoryStore.Reachable.run`: a store behind an operation stays one that can come
  about;
* `Sample.held`: a store with a disk that someone has leased.
-/

namespace BlobDisk

/-! ## Stores -/

/-- The state of the lease tells whether there is one, and no lease has the empty id. -/
structure StoredBlob.Sound (s : StoredBlob) : Prop where
  leased_iff : s.leaseState = .leased ↔ s.leaseId ≠ none
  id_ne : s.leaseId ≠ some ""

theorem StoredBlob.sound_fresh (size : UInt64) (kind : BlobKind) : (fresh size kind).Sound where
  leased_iff := by simp [fresh]
  id_ne := nofun

namespace MemoryStore

variable {m : MemoryStore} {b : BlobPath} {s : StoredBlob} {call : StoreCall} {fresh : String}

/-- The stores that come about from an empty one. -/
inductive Reachable : MemoryStore → Prop
  | empty : Reachable {}
  | called {m : MemoryStore} {fresh : String} (call : StoreCall) : Reachable m → fresh ≠ "" →
    Reachable (m.perform fresh call).2
  | inserted {m : MemoryStore} (b : BlobPath) (size : UInt64) : Reachable m →
    Reachable (m.insertBlockBlob b size)

/-- A call leaves blobs sound. -/
theorem Change.sound {old new : Option StoredBlob} (h : Change fresh b call old new) (hfresh : fresh ≠ "")
    (hold : ∀ s, old = some s → s.Sound) : ∀ s, new = some s → s.Sound := by
  cases h with
  | keep => exact hold
  | create _ =>
    rintro _ ⟨⟩
    exact StoredBlob.sound_fresh _ _
  | write _ | setMetadata _ =>
    rintro _ ⟨⟩
    have hs := hold _ rfl
    exact ⟨hs.leased_iff, hs.id_ne⟩
  | acquire _ =>
    rintro _ ⟨⟩
    exact ⟨by simp, by simpa using hfresh⟩
  | breakLease _ =>
    rintro _ ⟨⟩
    exact ⟨by simp, nofun⟩
  | delete _ => exact nofun

theorem blob?_insertBlockBlob (m : MemoryStore) (k : BlobPath) (size : UInt64) :
    (m.insertBlockBlob k size).blob? b = if b = k then some (.fresh size .block) else m.blob? b := by
  have hcontainer : (m.addContainer k.container).blob? b = m.blob? b :=
    blob?_congr (by unfold addContainer; split <;> rfl)
  rw [insertBlockBlob, blob?_put, hcontainer]

/-- The blobs of a store that can come about are sound. -/
theorem Reachable.sound (h : m.Reachable) (hs : m.blob? b = some s) : s.Sound := by
  induction h generalizing b s with
  | empty => cases hs
  | @called m fresh call _ hfresh ih =>
    have hchange := change_perform fresh m b call
    exact hchange.sound hfresh (fun s => ih) s hs
  | inserted k size _ ih =>
    rw [blob?_insertBlockBlob] at hs
    by_cases hk : b = k
    · rw [if_pos hk] at hs
      obtain rfl := Option.some.inj hs
      exact StoredBlob.sound_fresh _ _
    · rw [if_neg hk] at hs
      exact ih hs

/-- A blob is leased just if it has the id of a lease. -/
theorem Reachable.leaseId_eq_none (h : m.Reachable) (hs : m.blob? b = some s) :
    s.leaseId = none ↔ s.leaseState ≠ .leased := by
  have hiff := (h.sound hs).leased_iff
  rw [ne_eq, hiff, ne_eq, Decidable.not_not]

/-- So it is after any number of calls. -/
theorem Reachable.serve {calls : List (StoreCall × String)} (h : m.Reachable)
    (hfresh : ∀ p ∈ calls, p.2 ≠ "") : (m.serve calls).2.Reachable := by
  induction calls generalizing m with
  | nil => exact h
  | cons p rest ih =>
    have hnext : (m.perform p.2 p.1).2.Reachable := .called p.1 h (hfresh p List.mem_cons_self)
    exact ih hnext fun q hq => hfresh q (List.mem_cons_of_mem p hq)

end MemoryStore

/-- A store whose only blob someone has leased. -/
def Sample.held : MemoryStore :=
  (MemoryStore.serve {} [(.createContainer "dysks", "a"), (.createPageBlob Sample.blob 1024, "b"),
    (.acquireLease Sample.blob .infinite, "theirs")]).2

theorem Sample.reachable_held : held.Reachable := .serve .empty (by decide)

/-! ## Operations under a handler -/

namespace Action

variable {α β σ : Type} {handle : (e : Effect) → σ → e.Answer × σ} {a : Action α} {f : α → Action β}
  {s s' : σ}

theorem run_bind_ok {x : α} (h : a.run.run handle s = (.ok x, s')) :
    (a >>= f).run.run handle s = (f x).run.run handle s' := by
  rw [ExceptT.run_bind]
  show (Program.bind a.run _).run handle s = _
  rw [Program.run_bind, h]

theorem run_bind_error {e : Error} (h : a.run.run handle s = (.error e, s')) :
    (a >>= f).run.run handle s = (.error e, s') := by
  rw [ExceptT.run_bind]
  show (Program.bind a.run _).run handle s = _
  rw [Program.run_bind, h]
  rfl

/-- A step that only refuses. -/
theorem run_guard {c : Prop} [Decidable c] {e : Error} {y : Action β} {g : α → Action β} :
    (if c then (throw e : Action α) >>= g else y).run.run handle s =
      if c then (.error e, s) else y.run.run handle s := by
  split <;> rfl

end Action

namespace MemoryStore

variable {α : Type} {answers : (e : Effect) → e.Answer} {draw : MemoryStore → String}

/-- The store behind the effects. Leases are taken under ids that are drawn, and what is no call is
answered by `answers`. -/
def handle (answers : (e : Effect) → e.Answer) (draw : MemoryStore → String) :
    (e : Effect) → MemoryStore → e.Answer × MemoryStore
  | .store _ call, m => m.perform (draw m) call
  | e, m => (answers e, m)

/-- Whatever operations do, the store behind them is one that can come about. -/
theorem Reachable.run {m : MemoryStore} (h : m.Reachable) (hdraw : ∀ m, draw m ≠ "") (p : Program α) :
    (p.run (handle answers draw) m).2.Reachable := by
  induction p generalizing m with
  | done a => exact h
  | ask e next ih =>
    refine ih _ ?_
    cases e with
    | store login call => exact .called call h (hdraw m)
    | _ => exact h

end MemoryStore

end BlobDisk
