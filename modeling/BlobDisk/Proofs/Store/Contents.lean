import BlobDisk.Proofs.Store.Profiles

/-!
# Stores down to the bytes

A profile leaves out what a blob holds. Here stores are seen through all that they keep: their
containers, and their blobs with bytes, metadata and leases. Only how often a store was called is left
out.

* `Contents`: what the stores of all accounts keep;
* `Contents.Step`: the contents as a world, with what each call that succeeds says and does;
* `Stores.Step.contents`: what is seen of the stores.
-/

namespace BlobDisk

/-- What the stores of all accounts keep: containers by account, and blobs by account and path. -/
@[ext] structure Contents where
  containers : String → List String
  blobs : String × BlobPath → Option StoredBlob

namespace Contents

/-- The contents with a blob at a place. -/
def put (x : Contents) (k : String × BlobPath) (s : StoredBlob) : Contents :=
  { x with blobs := Function.update x.blobs k (some s) }

/-- The contents without a blob at a place. -/
def drop (x : Contents) (k : String × BlobPath) : Contents :=
  { x with blobs := Function.update x.blobs k none }

/-- The contents with a container of an account. -/
def addContainer (x : Contents) (account container : String) : Contents :=
  if container ∈ x.containers account then x
  else { x with
    containers := Function.update x.containers account (x.containers account ++ [container]) }

variable {x x' : Contents} {k : String × BlobPath} {s s' : StoredBlob} {account container : String}

@[simp] theorem containers_put : (x.put k s).containers = x.containers := rfl

@[simp] theorem blobs_put_self : (x.put k s).blobs k = some s := Function.update_self ..

theorem blobs_put_of_ne {k' : String × BlobPath} (h : k' ≠ k) : (x.put k s).blobs k' = x.blobs k' :=
  Function.update_of_ne h ..

@[simp] theorem put_put : (x.put k s).put k s' = x.put k s' := by
  simp only [put, Function.update_idem]

@[simp] theorem blobs_addContainer : (x.addContainer account container).blobs = x.blobs := by
  unfold addContainer
  split <;> rfl

/-! ## Calls seen through contents -/

/-- What a call of an account that succeeds says of the contents, and what it leaves of them. -/
def Serves (x : Contents) (account : String) : (call : StoreCall) → call.Answer → Contents → Prop
  | .createContainer c, _, x' => x' = x.addContainer account c
  | .containerExists c, answer, x' => answer = decide (c ∈ x.containers account) ∧ x' = x
  | .blobExists b, answer, x' => answer = (x.blobs (account, b)).isSome ∧ x' = x
  | .createPageBlob b size, _, x' =>
    (∀ s, x.blobs (account, b) = some s → s.leaseId = none) ∧ x' = x.put (account, b) (.fresh size .page)
  | .writeRange b range data lease, _, x' => ∃ s, x.blobs (account, b) = some s ∧
    s.leaseId = StoredBlob.presented lease ∧
    x' = x.put (account, b) { s with writes := s.writes ++ [(range, data)] }
  | .readRange .., _, x' => x' = x
  | .properties b lease, q, x' => (∃ s, x.blobs (account, b) = some s ∧
    s.checkReadLease b lease = .ok () ∧ q = s.properties) ∧ x' = x
  | .setMetadata b metadata lease, _, x' => ∃ s, x.blobs (account, b) = some s ∧
    s.leaseId = StoredBlob.presented lease ∧ x' = x.put (account, b) { s with metadata }
  | .acquireLease b _, id, x' => ∃ s, x.blobs (account, b) = some s ∧ s.leaseId = none ∧
    x' = x.put (account, b) { s with leaseId := some id, leaseState := .leased }
  | .breakLease b _, _, x' => ∃ s id, x.blobs (account, b) = some s ∧ s.leaseId = some id ∧
    x' = x.put (account, b) { s with leaseId := none, leaseState := .broken }
  | .deleteBlob b lease, _, x' => ∃ s, x.blobs (account, b) = some s ∧
    s.leaseId = StoredBlob.presented lease ∧ x' = x.drop (account, b)

/-- A call that succeeds is served, and nothing else changes the contents. -/
def Step : Outside Contents
  | x, ⟨.store login call, .ok answer⟩, x' => x.Serves login.account call answer x'
  | x, _, x' => x' = x

theorem step_other {e : Effect} {answer : e.Answer} (he : ∀ login call, e ≠ .store login call) :
    Step x ⟨e, answer⟩ x' ↔ x' = x := by
  cases e with
  | store login call => exact (he _ _ rfl).elim
  | _ => exact Iff.rfl

end Contents

/-! ## What is seen of the stores -/

/-- What the stores keep. -/
def Stores.contents (S : Stores) : Contents where
  containers account := (S account).containers
  blobs k := (S k.1).blob? k.2

namespace MemoryStore

variable {m m' : MemoryStore} {b : BlobPath}

theorem containers_of_writeRange {range : ByteRange} {data : List UInt8} {lease : Option String}
    (h : m.writeRange b range data lease = .ok m') : m'.containers = m.containers := by
  simp only [writeRange, bind_eq_ok, guard_eq_ok, pure_eq_ok] at h
  obtain ⟨s, -, -, -, -, -, -, rfl⟩ := h
  rfl

theorem containers_of_setMetadata {metadata : TextMap} {lease : Option String}
    (h : m.setMetadata b metadata lease = .ok m') : m'.containers = m.containers := by
  simp only [setMetadata, bind_eq_ok, pure_eq_ok] at h
  obtain ⟨s, -, -, -, rfl⟩ := h
  rfl

theorem containers_of_deleteBlob {lease : Option String} (h : m.deleteBlob b lease = .ok m') :
    m'.containers = m.containers := by
  simp only [deleteBlob, bind_eq_ok, pure_eq_ok] at h
  obtain ⟨s, -, -, -, rfl⟩ := h
  rfl

end MemoryStore

namespace Stores

variable {S S' : Stores} {account : String} {m : MemoryStore} {b : BlobPath} {s : StoredBlob}

/-- The contents after the store of one account is replaced. -/
theorem contents_update : Stores.contents (Function.update S account m) =
    ⟨Function.update S.contents.containers account m.containers,
      fun k => if k.1 = account then m.blob? k.2 else S.contents.blobs k⟩ := by
  refine Contents.ext (funext fun a => ?_) (funext fun ⟨a, k⟩ => ?_)
  · change (Function.update S account m a).containers =
      Function.update S.contents.containers account m.containers a
    by_cases ha : a = account
    · subst ha
      simp only [Function.update_self]
    · simp only [Function.update_of_ne ha]
      rfl
  · change (Function.update S account m a).blob? k = if a = account then m.blob? k else (S a).blob? k
    by_cases ha : a = account
    · subst ha
      rw [Function.update_self, if_pos rfl]
    · rw [Function.update_of_ne ha, if_neg ha]

/-- The new store differs from the old one in one blob. -/
theorem contents_update_blob {v : Option StoredBlob} (hcontainers : m.containers = (S account).containers)
    (hblobs : ∀ k, m.blob? k = if k = b then v else (S account).blob? k) :
    Stores.contents (Function.update S account m) =
      { S.contents with blobs := Function.update S.contents.blobs (account, b) v } := by
  rw [contents_update, hcontainers]
  refine Contents.ext (Function.update_eq_self account S.contents.containers) (funext fun ⟨a, k⟩ => ?_)
  simp only [Function.update_apply, Prod.mk.injEq, hblobs]
  by_cases ha : a = account
  · subst ha
    simp only [true_and, if_true]
    rfl
  · simp only [ha, false_and, if_false]

theorem contents_put (hcontainers : m.containers = (S account).containers)
    (hblobs : m.blobs = ((S account).put b s).blobs) :
    Stores.contents (Function.update S account m) = S.contents.put (account, b) s :=
  contents_update_blob hcontainers fun _ => (MemoryStore.blob?_congr hblobs).trans MemoryStore.blob?_put

theorem contents_drop (hcontainers : m.containers = (S account).containers)
    (hblobs : m.blobs = ((S account).drop b).blobs) :
    Stores.contents (Function.update S account m) = S.contents.drop (account, b) :=
  contents_update_blob hcontainers fun _ => (MemoryStore.blob?_congr hblobs).trans MemoryStore.blob?_drop

theorem contents_same (hcontainers : m.containers = (S account).containers)
    (hblobs : m.blobs = (S account).blobs) :
    Stores.contents (Function.update S account m) = S.contents := by
  rw [contents_update, hcontainers]
  refine Contents.ext (Function.update_eq_self account S.contents.containers) (funext fun ⟨a, k⟩ => ?_)
  dsimp only
  split
  · subst a
    exact MemoryStore.blob?_congr hblobs
  · rfl

theorem contents_addContainer {c : String} :
    Stores.contents (Function.update S account ((S account).addContainer c)) =
      S.contents.addContainer account c := by
  unfold MemoryStore.addContainer Contents.addContainer
  by_cases hc : c ∈ (S account).containers
  · rw [if_pos hc, if_pos (show c ∈ S.contents.containers account from hc), Function.update_eq_self]
  · rw [if_neg hc, if_neg (show c ∉ S.contents.containers account from hc), contents_update]
    refine Contents.ext rfl (funext fun ⟨a, k⟩ => ?_)
    dsimp only
    split
    · subst a
      rfl
    · rfl

/-- A change that may be refused is served if it is not. -/
theorem serves_settle {login : Credentials} {call : StoreCall} {value : call.Answer}
    {r : Except Error MemoryStore} (hcontainers : m.containers = (S login.account).containers)
    (hblobs : m.blobs = (S login.account).blobs)
    (hok : ∀ m', r = .ok m' → S.contents.Serves login.account call value
      (Stores.contents (Function.update S login.account m'))) :
    Contents.Step S.contents ⟨.store login call, (m.settle value r).1⟩
      (Stores.contents (Function.update S login.account (m.settle value r).2)) := by
  cases r with
  | ok m' => exact hok m' rfl
  | error e => exact contents_same hcontainers hblobs

/-- Calls are seen as they are. -/
theorem serves_perform (S : Stores) (login : Credentials) (call : StoreCall) (fresh : String) :
    Contents.Step S.contents ⟨.store login call, ((S login.account).perform fresh call).1⟩
      (Stores.contents (Function.update S login.account ((S login.account).perform fresh call).2)) := by
  have hread : Stores.contents (Function.update S login.account (S login.account)) = S.contents :=
    contents_same rfl rfl
  cases call with
  | createContainer c => exact contents_addContainer
  | containerExists c => exact ⟨rfl, hread⟩
  | blobExists k => exact ⟨rfl, hread⟩
  | readRange k range lease =>
    simp only [MemoryStore.perform]
    cases (S login.account).readRange k range lease with
    | ok data => exact hread
    | error e => exact hread
  | properties k lease =>
    cases hq : ((S login.account).perform fresh (.properties k lease)).1 with
    | error e => exact hread
    | ok q => exact ⟨MemoryStore.perform_properties_ok hq, hread⟩
  | createPageBlob k size =>
    refine serves_settle rfl rfl fun m' h => ?_
    obtain ⟨hs, rfl⟩ := MemoryStore.createPageBlob_eq_ok h
    exact ⟨hs, contents_put rfl rfl⟩
  | writeRange k range data lease =>
    refine serves_settle rfl rfl fun m' h => ?_
    obtain ⟨s, hk, hs, hb⟩ := MemoryStore.writeRange_eq_ok h
    exact ⟨s, hk, MemoryStore.checkWriteLease_eq_ok.mp hs,
      contents_put (MemoryStore.containers_of_writeRange h) hb⟩
  | setMetadata k metadata lease =>
    refine serves_settle rfl rfl fun m' h => ?_
    obtain ⟨s, hk, hs, hb⟩ := MemoryStore.setMetadata_eq_ok h
    exact ⟨s, hk, MemoryStore.checkWriteLease_eq_ok.mp hs, contents_put (MemoryStore.containers_of_setMetadata h) hb⟩
  | acquireLease k duration =>
    refine serves_settle (m := (S login.account).countAcquire) rfl rfl fun m' h => ?_
    obtain ⟨s, hk, hs, rfl⟩ := MemoryStore.acquireLease_eq_ok h
    exact ⟨s, hk, hs, contents_put rfl rfl⟩
  | breakLease k seconds =>
    refine serves_settle (m := (S login.account).countBreak) rfl rfl fun m' h => ?_
    obtain ⟨s, id, hk, hs, rfl⟩ := MemoryStore.breakLease_eq_ok h
    exact ⟨s, id, hk, hs, contents_put rfl rfl⟩
  | deleteBlob k lease =>
    refine serves_settle rfl rfl fun m' h => ?_
    obtain ⟨s, hk, hs, hb⟩ := MemoryStore.deleteBlob_eq_ok h
    exact ⟨s, hk, MemoryStore.checkWriteLease_eq_ok.mp hs, contents_drop (MemoryStore.containers_of_deleteBlob h) hb⟩

/-- What happens in the stores happens to their contents. -/
theorem Step.contents {event : Event} (h : Step S event S') :
    Contents.Step S.contents event S'.contents := by
  cases h with
  | answered fresh => exact serves_perform S _ _ fresh
  | struck e => rfl
  | other answer he => exact (Contents.step_other he).mpr rfl

end Stores

/-- A run in the stores, seen through their contents. -/
theorem Program.RunsIn.contents {α : Type} {p : Program α} {S S' : Stores} {scenes : List (Scene Stores)}
    {a : α} (h : p.RunsIn Stores.Step S scenes a S') :
    p.RunsIn Contents.Step S.contents (scenes.map (Scene.map Stores.contents)) a S'.contents :=
  RunsIn.map (fun _ _ _ hstep => hstep.contents) h

end BlobDisk
