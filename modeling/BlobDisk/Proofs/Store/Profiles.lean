import BlobDisk.Proofs.Outside
import BlobDisk.Proofs.Store.Blobs
import Mathlib.Logic.Function.Basic

/-!
# Stores as the world of one client

One client at a time works on the stores in memory of all accounts. Any of its calls can fail for no
reason of the store, and then the store stays as it was. Of a blob only its `Profile` decides which
calls succeed, so the stores are seen through the profiles of their blobs.

* `Stores.Step`: the stores as a world;
* `Profiles.Step`: the profiles as a world, and `Stores.Step.profiles`: what is seen of the stores;
* `Profiles.Kept`: no leased blob changes;
* `Profiles.Shed`: no blob gains a lease;
* `Profiles.Renewed`: at most one blob is made, in place of none that is leased.
-/

namespace BlobDisk

/-- What calls can depend on and change of a blob, but for its bytes and metadata. -/
structure Profile where
  size : UInt64
  kind : BlobKind
  leaseId : Option String
deriving DecidableEq

/-- The profiles of all blobs, by account and path. -/
abbrev Profiles := String × BlobPath → Option Profile

/-- The stores of all accounts. -/
abbrev Stores := String → MemoryStore

def StoredBlob.profile (s : StoredBlob) : Profile := ⟨s.size, s.kind, s.leaseId⟩

/-- The profile of the blob at a path. -/
def MemoryStore.profile? (m : MemoryStore) (b : BlobPath) : Option Profile := (m.blob? b).map (·.profile)

/-- The profiles of all blobs in the stores. -/
def Stores.profiles (S : Stores) : Profiles := fun k => (S k.1).profile? k.2

/-- Whether the call leaves all profiles alone, and says nothing of them. -/
def StoreCall.isPlain : StoreCall → Bool
  | createContainer _ | containerExists _ | blobExists _ | writeRange .. | readRange ..
  | setMetadata .. => true
  | createPageBlob .. | properties .. | acquireLease .. | breakLease .. | deleteBlob .. => false

/-- A call reaches the store of its account, with some id at hand for a lease, or fails before. Everything
else is answered in any way. -/
inductive Stores.Step : Outside Stores
  | answered {S : Stores} {login call} (fresh : String) :
    Step S ⟨.store login call, ((S login.account).perform fresh call).1⟩
      (Function.update S login.account ((S login.account).perform fresh call).2)
  | struck {S : Stores} {login call} (e : Error) : Step S ⟨.store login call, .error e⟩ S
  | other {S : Stores} {e : Effect} (answer : e.Answer) : (∀ login call, e ≠ .store login call) →
    Step S ⟨e, answer⟩ S

namespace Profiles

variable {p p' p₁ : Profiles} {k : String × BlobPath} {f : Profile} {id? : Option String}

/-- The live lease of the blob at a place. -/
def lease (p : Profiles) (k : String × BlobPath) : Option String := (p k).bind (·.leaseId)

/-- The profiles with the lease of the blob at a place replaced. -/
def setLease (p : Profiles) (k : String × BlobPath) (lease : Option String) : Profiles :=
  Function.update p k ((p k).map fun f => { f with leaseId := lease })

theorem setLease_self (h : p k = some f) : p.setLease k id? k = some { f with leaseId := id? } := by
  rw [setLease, Function.update_self, h, Option.map_some]

theorem setLease_of_ne {k' : String × BlobPath} (h : k' ≠ k) : p.setLease k id? k' = p k' :=
  Function.update_of_ne h _ _

theorem setLease_setLease {id?' : Option String} :
    (p.setLease k id?).setLease k id?' = p.setLease k id?' := by
  simp only [setLease, Function.update_self, Function.update_idem, Option.map_map]
  rfl

theorem lease_eq (h : p k = some f) : p.lease k = f.leaseId := by
  rw [lease, h]
  rfl

theorem lease_setLease_none : (p.setLease k none).lease k = none := by
  rw [lease, setLease, Function.update_self]
  cases p k <;> rfl

theorem lease_setLease_of_ne {k' : String × BlobPath} (h : k' ≠ k) :
    (p.setLease k id?).lease k' = p.lease k' := by
  rw [lease, setLease_of_ne h, lease]

/-- There is nothing to end where no lease is live. -/
theorem setLease_eq_self (h : p.lease k = none) : p.setLease k none = p := by
  refine Function.update_eq_self_iff.mpr ?_
  cases hk : p k with
  | none => rfl
  | some f =>
    rw [lease_eq hk] at h
    simp [← h]

/-! ## Calls seen through profiles -/

/-- What a call says of profiles and does to them. -/
inductive Step : Outside Profiles
  | other {p : Profiles} {e : Effect} (answer : e.Answer) : (∀ login call, e ≠ .store login call) →
    Step p ⟨e, answer⟩ p
  | refused {p : Profiles} {login call} (e : Error) : Step p ⟨.store login call, .error e⟩ p
  | plain {p : Profiles} {login call} (answer : call.Answer) : call.isPlain = true →
    Step p ⟨.store login call, .ok answer⟩ p
  | properties {p : Profiles} {login b lease} {f : Profile} {q : Properties} :
    p (login.account, b) = some f → q.contentLength = f.size → q.kind = some f.kind →
    (∀ id, lease = some id → id ≠ "" → f.leaseId = some id) →
    Step p ⟨.store login (.properties b lease), .ok q⟩ p
  | create {p : Profiles} {login b size} (u : Unit) : p.lease (login.account, b) = none →
    Step p ⟨.store login (.createPageBlob b size), .ok u⟩
      (Function.update p (login.account, b) (some ⟨size, .page, none⟩))
  | acquire {p : Profiles} {login b duration} {f : Profile} (id : String) :
    p (login.account, b) = some f → f.leaseId = none →
    Step p ⟨.store login (.acquireLease b duration), .ok id⟩ (p.setLease (login.account, b) (some id))
  | breakLease {p : Profiles} {login b seconds} (u : Unit) :
    Step p ⟨.store login (.breakLease b seconds), .ok u⟩ (p.setLease (login.account, b) none)
  | delete {p : Profiles} {login b lease} {f : Profile} (u : Unit) : p (login.account, b) = some f →
    f.leaseId = StoredBlob.presented lease →
    Step p ⟨.store login (.deleteBlob b lease), .ok u⟩ (Function.update p (login.account, b) none)

theorem Step.eq_of_error {login : Credentials} {call : StoreCall} {e : Error}
    (h : Step p ⟨.store login call, .error e⟩ p') : p' = p := by
  cases h <;> rfl

theorem Step.eq_of_plain {login : Credentials} {call : StoreCall} {answer : call.Answer}
    (h : Step p ⟨.store login call, .ok answer⟩ p') (hcall : call.isPlain = true) : p' = p := by
  cases h with
  | other _ h => exact (h _ _ rfl).elim
  | plain | properties => rfl
  | _ => cases hcall

theorem Step.eq_of_other {e : Effect} {answer : e.Answer} (h : Step p ⟨e, answer⟩ p')
    (he : ∀ login call, e ≠ .store login call) : p' = p := by
  cases h with
  | other | refused | plain | properties => rfl
  | _ => exact (he _ _ rfl).elim

section

variable {login : Credentials} {b : BlobPath}

theorem Step.of_properties {lease : Option String} {q : Properties}
    (h : Step p ⟨.store login (.properties b lease), .ok q⟩ p') :
    p' = p ∧ ∃ f, p (login.account, b) = some f ∧ q.contentLength = f.size ∧ q.kind = some f.kind ∧
      ∀ id, lease = some id → id ≠ "" → f.leaseId = some id := by
  cases h with
  | other _ h => exact (h _ _ rfl).elim
  | plain _ h => cases h
  | properties hf hsize hkind hlease => exact ⟨rfl, _, hf, hsize, hkind, hlease⟩

theorem Step.of_create {size : UInt64} {u : Unit}
    (h : Step p ⟨.store login (.createPageBlob b size), .ok u⟩ p') :
    p.lease (login.account, b) = none ∧
      p' = Function.update p (login.account, b) (some ⟨size, .page, none⟩) := by
  cases h with
  | other _ h => exact (h _ _ rfl).elim
  | plain _ h => cases h
  | create _ hnone => exact ⟨hnone, rfl⟩

theorem Step.of_acquire {duration : LeaseDuration} {id : String}
    (h : Step p ⟨.store login (.acquireLease b duration), .ok id⟩ p') :
    ∃ f, p (login.account, b) = some f ∧ f.leaseId = none ∧
      p' = p.setLease (login.account, b) (some id) := by
  cases h with
  | other _ h => exact (h _ _ rfl).elim
  | plain _ h => cases h
  | acquire _ hf hnone => exact ⟨_, hf, hnone, rfl⟩

theorem Step.of_break {seconds : UInt32} {u : Unit}
    (h : Step p ⟨.store login (.breakLease b seconds), .ok u⟩ p') :
    p' = p.setLease (login.account, b) none := by
  cases h with
  | other _ h => exact (h _ _ rfl).elim
  | plain _ h => cases h
  | breakLease => rfl

theorem Step.of_delete {lease : Option String} {u : Unit}
    (h : Step p ⟨.store login (.deleteBlob b lease), .ok u⟩ p') :
    ∃ f, p (login.account, b) = some f ∧ f.leaseId = StoredBlob.presented lease ∧
      p' = Function.update p (login.account, b) none := by
  cases h with
  | other _ h => exact (h _ _ rfl).elim
  | plain _ h => cases h
  | delete _ hf hlease => exact ⟨_, hf, hlease, rfl⟩

end

/-! ## What does not change -/

/-- Every leased blob is as it was. -/
def Kept (p p' : Profiles) : Prop := ∀ k f id, p k = some f → f.leaseId = some id → p' k = some f

/-- Every blob has the lease that it had, or none. -/
def Shed (p p' : Profiles) : Prop := ∀ k, p'.lease k = none ∨ p'.lease k = p.lease k

/-- Nothing has changed, but that a page blob was made where no leased one was. -/
def Renewed (p p' : Profiles) : Prop :=
  p' = p ∨ ∃ k size, p.lease k = none ∧ p' = Function.update p k (some ⟨size, .page, none⟩)

theorem Kept.refl (p : Profiles) : Kept p p := fun _ _ _ hf _ => hf

theorem Kept.trans (h : Kept p p₁) (h' : Kept p₁ p') : Kept p p' :=
  fun k f id hf hid => h' k f id (h k f id hf hid) hid

theorem Shed.refl (p : Profiles) : Shed p p := fun _ => .inr rfl

theorem Shed.trans (h : Shed p p₁) (h' : Shed p₁ p') : Shed p p' := by
  intro k
  rcases h' k with hk' | hk'
  · exact .inl hk'
  · rw [hk']
    exact h k

/-- What happens to a blob that was not leased disturbs no leased one. -/
theorem Kept.update (h : Kept p p') (hnone : p.lease k = none) (v : Option Profile) :
    Kept p (Function.update p' k v) := by
  intro k' f id hf hid
  have hne : k' ≠ k := by
    rintro rfl
    rw [lease_eq hf, hid] at hnone
    cases hnone
  rw [Function.update_of_ne hne, h k' f id hf hid]

theorem Kept.setLease (h : Kept p p') (hnone : p.lease k = none) (id? : Option String) :
    Kept p (p'.setLease k id?) :=
  h.update hnone _

/-- The end of a lease makes up for what was done to its blob. -/
theorem Shed.setLease (h : ∀ k', k' ≠ k → p'.lease k' = none ∨ p'.lease k' = p.lease k') :
    Shed p (p'.setLease k none) := by
  intro k'
  by_cases hk : k' = k
  · subst hk
    exact .inl lease_setLease_none
  · rw [lease_setLease_of_ne hk]
    exact h k' hk

theorem lease_update_of_ne {k' : String × BlobPath} (h : k' ≠ k) (v : Option Profile) :
    lease (Function.update p k v) k' = p.lease k' := by
  rw [lease, Function.update_of_ne h, lease]

theorem Renewed.kept (h : Renewed p p') : Kept p p' := by
  rcases h with rfl | ⟨k, size, hnone, rfl⟩
  · exact Kept.refl _
  · exact (Kept.refl _).update hnone _

theorem Renewed.shed (h : Renewed p p') : Shed p p' := by
  rcases h with rfl | ⟨k, size, hnone, rfl⟩
  · exact Shed.refl _
  · intro k'
    by_cases hk : k' = k
    · subst hk
      exact .inl (lease_eq (Function.update_self ..))
    · exact .inr (lease_update_of_ne hk _)

end Profiles

/-! ## What is seen of the stores -/

namespace MemoryStore

variable {m m' : MemoryStore} {b k : BlobPath} {s : StoredBlob}

theorem profile?_put : (m.put k s).profile? b = if b = k then some s.profile else m.profile? b := by
  rw [profile?, blob?_put]
  split <;> rfl

theorem profile?_drop : (m.drop k).profile? b = if b = k then none else m.profile? b := by
  rw [profile?, blob?_drop]
  split <;> rfl

theorem profile?_congr (h : m'.blobs = m.blobs) : m'.profile? b = m.profile? b := by
  rw [profile?, blob?_congr h, profile?]

theorem profile?_eq (h : m.blob? b = some s) : m.profile? b = some s.profile := by
  rw [profile?, h, Option.map_some]

end MemoryStore

namespace Stores

variable {S S' : Stores} {account : String} {m : MemoryStore} {b : BlobPath} {v : Option Profile}

theorem profiles_update (h : ∀ k, m.profile? k = if k = b then v else (S account).profile? k) :
    Stores.profiles (Function.update S account m) = Function.update S.profiles (account, b) v := by
  funext ⟨account', k⟩
  by_cases ha : account' = account
  · subst ha
    simp only [profiles, Function.update_self, h, Function.update_apply, Prod.mk.injEq, true_and]
  · rw [Function.update_of_ne (by simp [ha])]
    simp only [profiles, Function.update_of_ne ha]

theorem profiles_update_of_eq (h : ∀ k, m.profile? k = (S account).profile? k) :
    Stores.profiles (Function.update S account m) = S.profiles := by
  rw [profiles_update (b := default) (v := S.profiles (account, default)), Function.update_eq_self]
  intro k
  rw [h k]
  split
  · subst k; rfl
  · rfl

/-- A change that may be refused is seen as no more than the change. -/
theorem step_settle {login : Credentials} {call : StoreCall} {value : call.Answer}
    {r : Except Error MemoryStore} (hm : m.blobs = (S login.account).blobs)
    (hok : ∀ m', r = .ok m' → Profiles.Step S.profiles ⟨.store login call, .ok value⟩
      (Stores.profiles (Function.update S login.account m'))) :
    Profiles.Step S.profiles ⟨.store login call, (m.settle value r).1⟩
      (Stores.profiles (Function.update S login.account (m.settle value r).2)) := by
  cases r with
  | ok m' => exact hok m' rfl
  | error e =>
    have hsame : Stores.profiles (Function.update S login.account m) = S.profiles :=
      profiles_update_of_eq fun k => MemoryStore.profile?_congr hm
    simp only [MemoryStore.settle, hsame]
    exact .refused e

/-- A call that only reads leaves the store as it is. -/
theorem step_read {event : Event} (h : Profiles.Step S.profiles event S.profiles) :
    Profiles.Step S.profiles event (Stores.profiles (Function.update S account (S account))) := by
  rwa [Function.update_eq_self]

/-- A change of one blob leaves the profile `v` at its path. -/
theorem step_put {event : Event} {k : BlobPath} {s : StoredBlob}
    (hm : m.blobs = ((S account).put k s).blobs)
    (h : Profiles.Step S.profiles event (Function.update S.profiles (account, k) (some s.profile))) :
    Profiles.Step S.profiles event (Stores.profiles (Function.update S account m)) := by
  rw [profiles_update (b := k) (v := some s.profile)]
  · exact h
  · exact fun b => (MemoryStore.profile?_congr hm).trans MemoryStore.profile?_put

/-- Calls are seen as they are. -/
theorem step_perform (S : Stores) (login : Credentials) (call : StoreCall) (fresh : String) :
    Profiles.Step S.profiles ⟨.store login call, ((S login.account).perform fresh call).1⟩
      (Stores.profiles (Function.update S login.account ((S login.account).perform fresh call).2)) := by
  have hsame : ∀ {s : StoredBlob} {k}, (S login.account).blob? k = some s →
      Function.update S.profiles (login.account, k) (some s.profile) = S.profiles := fun hk =>
    Function.update_eq_self_iff.mpr (MemoryStore.profile?_eq hk).symm
  cases call with
  | createContainer c =>
    rw [profiles_update_of_eq fun k => MemoryStore.profile?_congr
      (by simp only [MemoryStore.perform, MemoryStore.addContainer]; split <;> rfl)]
    exact .plain _ rfl
  | containerExists c | blobExists k => exact step_read (.plain _ rfl)
  | readRange k range lease =>
    refine step_read ?_
    simp only [MemoryStore.perform]
    cases (S login.account).readRange k range lease with
    | ok data => exact .plain _ rfl
    | error e => exact .refused e
  | properties k lease =>
    refine step_read ?_
    cases hr : (S login.account).properties k lease with
    | error e => simp only [MemoryStore.perform, hr]; exact .refused e
    | ok q =>
      have hq : ((S login.account).perform fresh (.properties k lease)).1 = .ok q := hr
      obtain ⟨s, hk, -, rfl⟩ := MemoryStore.perform_properties_ok hq
      rw [hq]
      refine .properties (MemoryStore.profile?_eq hk) rfl rfl ?_
      rintro id rfl hid
      have hlease := MemoryStore.lease?_of_properties hid hq
      rwa [MemoryStore.lease?, hk] at hlease
  | createPageBlob k size =>
    refine step_settle rfl fun m' h => ?_
    obtain ⟨hs, rfl⟩ := MemoryStore.createPageBlob_eq_ok h
    refine step_put rfl (.create () ?_)
    cases hk : (S login.account).blob? k with
    | none => simp [Profiles.lease, profiles, MemoryStore.profile?, hk]
    | some s => exact (Profiles.lease_eq (MemoryStore.profile?_eq hk)).trans (hs s hk)
  | writeRange k range data lease =>
    refine step_settle rfl fun m' h => ?_
    obtain ⟨s, hk, -, hb⟩ := MemoryStore.writeRange_eq_ok h
    refine step_put hb ?_
    rw [show StoredBlob.profile { s with writes := s.writes ++ [(range, data)] } = s.profile from rfl, hsame hk]
    exact .plain _ rfl
  | setMetadata k metadata lease =>
    refine step_settle rfl fun m' h => ?_
    obtain ⟨s, hk, -, hb⟩ := MemoryStore.setMetadata_eq_ok h
    refine step_put hb ?_
    rw [show StoredBlob.profile { s with metadata } = s.profile from rfl, hsame hk]
    exact .plain _ rfl
  | acquireLease k duration =>
    refine step_settle (m := (S login.account).countAcquire) rfl fun m' h => ?_
    obtain ⟨s, hk, hs, rfl⟩ := MemoryStore.acquireLease_eq_ok h
    have hk : S.profiles (login.account, k) = some s.profile := MemoryStore.profile?_eq hk
    refine step_put rfl ?_
    have hstep : Profiles.Step S.profiles ⟨.store login (.acquireLease k duration), .ok fresh⟩
        (S.profiles.setLease (login.account, k) (some fresh)) := .acquire fresh hk hs
    rwa [Profiles.setLease, hk] at hstep
  | breakLease k seconds =>
    refine step_settle (m := (S login.account).countBreak) rfl fun m' h => ?_
    obtain ⟨s, id, hk, hs, rfl⟩ := MemoryStore.breakLease_eq_ok h
    have hk : S.profiles (login.account, k) = some s.profile := MemoryStore.profile?_eq hk
    refine step_put rfl ?_
    have hstep : Profiles.Step S.profiles ⟨.store login (.breakLease k seconds), .ok ()⟩
        (S.profiles.setLease (login.account, k) none) := .breakLease ()
    rwa [Profiles.setLease, hk] at hstep
  | deleteBlob k lease =>
    refine step_settle rfl fun m' h => ?_
    obtain ⟨s, hk, hs, hb⟩ := MemoryStore.deleteBlob_eq_ok h
    rw [profiles_update (b := k) (v := none)
      fun b => (MemoryStore.profile?_congr hb).trans MemoryStore.profile?_drop]
    exact .delete () (MemoryStore.profile?_eq hk) (MemoryStore.checkWriteLease_eq_ok.mp hs)

/-- The stores behind the effects, where calls take leases under one id and all else is answered by
`answers`. -/
def handle (answers : (e : Effect) → e.Answer) (fresh : String) : (e : Effect) → Stores → e.Answer × Stores
  | .store login call, S =>
    (((S login.account).perform fresh call).1,
      Function.update S login.account ((S login.account).perform fresh call).2)
  | e, S => (answers e, S)

theorem step_handle (answers : (e : Effect) → e.Answer) (fresh : String) (e : Effect) (S : Stores) :
    Step S ⟨e, (handle answers fresh e S).1⟩ (handle answers fresh e S).2 := by
  cases e with
  | store login call => exact .answered fresh
  | _ => exact .other _ nofun

/-- What happens in the stores happens to their profiles. -/
theorem Step.profiles {event : Event} (h : Step S event S') :
    Profiles.Step S.profiles event S'.profiles := by
  cases h with
  | answered fresh => exact step_perform S _ _ fresh
  | struck e => exact .refused e
  | other answer he => exact .other answer he

end Stores

/-- A run in the stores, seen through profiles. -/
theorem Program.RunsIn.profiles {α : Type} {p : Program α} {S S' : Stores} {scenes : List (Scene Stores)}
    {a : α} (h : p.RunsIn Stores.Step S scenes a S') :
    p.RunsIn Profiles.Step S.profiles (scenes.map (Scene.map Stores.profiles)) a S'.profiles :=
  RunsIn.map (fun _ _ _ hstep => hstep.profiles) h

end BlobDisk
