import BlobDisk.Proofs.Scope
import BlobDisk.Proofs.Store.Profiles

/-!
# Leases and new blobs in the world of one client

Each part of an operation is judged once by what it does to the profiles of blobs, and every operation
is put together from these judgements. Where a break matters, the judgement says by which scene it
can have failed.

* `Lease.locate_ensures`, `Lease.acquire_ensures`, `Lease.verifyWritable_ensures`,
  `Lease.breakBestEffort_ensures`: leases;
* `Provision.create_ensures`, `Provision.delete_ensures`: blobs alone;
* `Profiles.ensures_of_only`, `Channel.ensures_withChannel_profiles`: what leaves blobs alone.
-/

namespace BlobDisk

open Profiles

namespace Scene

/-- A lease is taken. -/
def Takes (x : Scene Profiles) : Prop :=
  ∃ login b duration id, x.event = ⟨.store login (.acquireLease b duration), .ok id⟩

/-- A break fails though there is a lease to end. -/
def Thwarts (x : Scene Profiles) : Prop :=
  ∃ login b seconds e, x.event = ⟨.store login (.breakLease b seconds), .error e⟩ ∧
    x.state.lease (login.account, b) ≠ none

end Scene

variable {p : Profiles} {login : Credentials} {blob : BlobPath}

/-! ## Leases -/

namespace Lease

theorem locate_ensures : (locate login blob).Ensures Step p
    (fun _ q p' => p' = p ∧ ∃ f, p (login.account, blob) = some f ∧ q.contentLength = f.size)
    fun _ _ p' => p' = p := by
  unfold locate
  refine Action.ensures_bind.mpr (Action.ensures_store.mpr
    ⟨fun hasContainer p₁ h => ?_, fun _ _ h => h.eq_of_error⟩)
  obtain rfl : p₁ = p := h.eq_of_plain rfl
  refine Action.ensures_guard.mpr ⟨fun _ => rfl, fun _ => ?_⟩
  refine Action.ensures_bind.mpr (Action.ensures_store.mpr
    ⟨fun hasBlob p₂ h => ?_, fun _ _ h => h.eq_of_error⟩)
  obtain rfl : p₂ = p₁ := h.eq_of_plain rfl
  refine Action.ensures_guard.mpr ⟨fun _ => rfl, fun _ => ?_⟩
  refine Action.ensures_store.mpr ⟨fun q p₃ h => ?_, fun _ _ h => h.eq_of_error⟩
  obtain ⟨rfl, f, hf, hsize, -, -⟩ := h.of_properties
  exact ⟨rfl, f, hf, hsize⟩

/-- A lease is taken where there is none, or after the one that there was is broken. If that does not
work out, the blob can be left without a lease. -/
theorem acquire_ensures {force : Bool} : (acquire login blob force).Ensures Step p
    (fun scenes id p' => (∃ x ∈ scenes, x.Takes) ∧
      (∃ f, p (login.account, blob) = some f ∧ (f.leaseId = none ∨ force = true)) ∧
      p' = p.setLease (login.account, blob) (some id))
    fun _ _ p' => p' = p ∨ force = true ∧ p' = p.setLease (login.account, blob) none := by
  unfold acquire
  refine Action.ensures_bind.mpr (Action.ensures_always.mpr (Action.ensures_outcome.mpr
    (Action.ensures_store.mpr ⟨fun id p₁ h => ?_, fun e p₁ h => ?_⟩)))
  · obtain ⟨f, hf, hnone, rfl⟩ := h.of_acquire
    exact ⟨⟨_, List.mem_singleton_self _, _, _, _, _, rfl⟩, ⟨f, hf, .inl hnone⟩, rfl⟩
  · obtain rfl : p₁ = p := h.eq_of_error
    cases force with
    | false => cases e <;> exact .inl rfl
    | true =>
      cases e with
      | leaseAlreadyPresent detail =>
        refine Action.ensures_bind.mpr (Action.ensures_store.mpr
          ⟨fun _ p₂ h => ?_, fun _ _ h => .inl h.eq_of_error⟩)
        obtain rfl := h.of_break
        refine Action.ensures_store.mpr ⟨fun id p₃ h => ?_, fun _ _ h => .inr ⟨rfl, h.eq_of_error⟩⟩
        obtain ⟨f, hf, -, rfl⟩ := h.of_acquire
        obtain ⟨f₁, hf₁⟩ : ∃ f₁, p₁ (login.account, blob) = some f₁ := by
          cases hp : p₁ (login.account, blob) with
          | some f₁ => exact ⟨f₁, rfl⟩
          | none => simp [setLease, hp] at hf
        refine ⟨⟨_, List.mem_append_right _ (List.mem_append_right _ (List.mem_singleton_self _)),
          _, _, _, _, rfl⟩, ⟨f₁, hf₁, .inr rfl⟩, setLease_setLease⟩
      | _ => exact .inl rfl

theorem verifyWritable_ensures {id : String} {mode : AccessMode} :
    (verifyWritable login blob id mode).Ensures Step p
      (fun _ _ p' => p' = p ∧ ∃ f, p (login.account, blob) = some f ∧ f.kind = .page ∧
        (id ≠ "" → f.leaseId = some id))
      fun _ _ p' => p' = p := by
  unfold verifyWritable
  refine Action.ensures_bind.mpr (Action.ensures_store.mpr
    ⟨fun q p₁ h => ?_, fun _ _ h => h.eq_of_error⟩)
  obtain ⟨rfl, f, hf, -, hkind, hlease⟩ := h.of_properties
  refine Action.ensures_guard.mpr ⟨fun _ => rfl, fun hpage => ?_⟩
  have hpage : f.kind = .page := by
    rw [hkind] at hpage
    simpa using hpage
  have hproof : p₁ = p₁ ∧ ∃ f, p₁ (login.account, blob) = some f ∧ f.kind = .page ∧
      (id ≠ "" → f.leaseId = some id) := ⟨rfl, f, hf, hpage, hlease id rfl⟩
  cases mode with
  | readOnly => exact hproof
  | readWrite =>
    refine Action.ensures_bind.mpr (Action.ensures_store.mpr
      ⟨fun _ p₂ h => ?_, fun _ _ h => h.eq_of_error⟩)
    obtain rfl : p₂ = p₁ := h.eq_of_plain rfl
    exact hproof

/-- The lease is ended, unless the break is thwarted. -/
theorem breakBestEffort_ensures : (breakBestEffort login blob).Ensures Step p fun scenes _ p' =>
    p' = p.setLease (login.account, blob) none ∨ p' = p ∧ ∃ x ∈ scenes, x.Thwarts := by
  unfold breakBestEffort breakNow
  refine Program.ensures_bind.mpr (Action.ensures_outcome.mpr (Action.ensures_store.mpr
    ⟨fun _ p' h => .inl h.of_break, fun e p' h => ?_⟩))
  obtain rfl : p' = p := h.eq_of_error
  by_cases hlease : p'.lease (login.account, blob) = none
  · exact .inl (setLease_eq_self hlease).symm
  · exact .inr ⟨rfl, _, List.mem_singleton_self _, _, _, _, _, rfl, hlease⟩

end Lease

/-! ## Blobs alone -/

namespace Provision

theorem writeFooter_ensures {objectSize payloadSize : UInt64} :
    (writeFooter login blob objectSize payloadSize).Ensures Step p (fun _ _ p' => p' = p)
      fun _ _ p' => p' = p := by
  unfold writeFooter
  refine Action.ensures_bind.mpr (Action.ensures_always.mpr
    (Program.ensures_perform.mpr fun stamp p₁ h => ?_))
  obtain rfl : p₁ = p := h.eq_of_other nofun
  exact Action.ensures_store.mpr ⟨fun _ _ h => h.eq_of_plain rfl, fun _ _ h => h.eq_of_error⟩

/-- A new blob takes the place of nothing that was leased. It has the lease that is answered, and none
if the operation fails. -/
theorem create_ensures {gb : UInt64} {container name : String} {vhd lease : Bool} :
    (create login gb container name vhd lease).Ensures Step p
      (fun scenes created p' => (created.leaseId ≠ none → ∃ x ∈ scenes, x.Takes) ∧
        p.lease (login.account, created.blob) = none ∧
        ∃ size, p' = Function.update p (login.account, created.blob) (some ⟨size, .page, created.leaseId⟩))
      fun _ _ p' => Renewed p p' := by
  -- The lease comes last, on a blob that is new, after other scenes.
  have hlease : ∀ (after : List (Scene Profiles) → List (Scene Profiles)) (blob : BlobPath)
      (size : UInt64), (∀ back, ∀ x ∈ back, x ∈ after back) → p.lease (login.account, blob) = none →
      Action.Ensures Step (do
        let leaseId ← if lease then some <$> Lease.acquire login blob false else pure none
        return (⟨blob, gb, vhd, leaseId⟩ : CreatedBlob))
        (Function.update p (login.account, blob) (some ⟨size, .page, none⟩))
        (fun back created p' => (created.leaseId ≠ none → ∃ x ∈ after back, x.Takes) ∧
          p.lease (login.account, created.blob) = none ∧ ∃ size, p' =
            Function.update p (login.account, created.blob) (some ⟨size, .page, created.leaseId⟩))
        fun _ _ p' => Renewed p p' := by
    intro after blob size hafter hnone
    cases lease with
    | false => exact ⟨fun h => (h rfl).elim, hnone, size, rfl⟩
    | true =>
      refine Action.ensures_bind.mpr (Action.ensures_map.mpr (Lease.acquire_ensures.mono ?_ ?_))
      · rintro scenes id _ ⟨⟨x, hx, htakes⟩, -, rfl⟩
        refine ⟨fun _ => ⟨x, hafter _ x (List.mem_append_left _ hx), htakes⟩, hnone, size, ?_⟩
        simp only [setLease, Function.update_self, Function.update_idem, Option.map_some]
      · rintro scenes e _ (rfl | ⟨h, -⟩)
        · exact .inr ⟨_, size, hnone, rfl⟩
        · cases h
  unfold create
  refine Action.ensures_bind.mpr (Action.ensures_ofExcept.mpr ⟨fun _ _ => ?_, fun _ _ => .inl rfl⟩)
  refine Action.ensures_bind.mpr (Action.ensures_ofExcept.mpr
    ⟨fun objectSize _ => ?_, fun _ _ => .inl rfl⟩)
  refine Action.ensures_bind.mpr (Action.ensures_store.mpr
    ⟨fun _ p₁ h => ?_, fun _ _ h => .inl h.eq_of_error⟩)
  obtain rfl : p₁ = p := h.eq_of_plain rfl
  refine Action.ensures_bind.mpr (Action.ensures_store.mpr
    ⟨fun _ p₂ h => ?_, fun _ _ h => .inl h.eq_of_error⟩)
  obtain ⟨hnone, rfl⟩ := h.of_create
  cases vhd with
  | false => exact hlease _ _ _ (fun back x hx => by simp [hx]) hnone
  | true =>
    refine Action.ensures_bind.mpr (Action.ensures_ofExcept.mpr
      ⟨fun payloadSize _ => ?_, fun _ _ => .inr ⟨_, _, hnone, rfl⟩⟩)
    refine Action.ensures_bind.mpr (writeFooter_ensures.mono ?_ ?_)
    · rintro scenes _ _ rfl
      exact hlease _ _ _ (fun back x hx => by simp [hx]) hnone
    · rintro scenes e _ rfl
      exact .inr ⟨_, _, hnone, rfl⟩

/-- Without force a blob is removed only under its lease. -/
theorem delete_ensures {leaseId : Option String} :
    (delete login blob leaseId false).Ensures Step p
      (fun _ _ p' => ∃ f, p (login.account, blob) = some f ∧ f.leaseId = StoredBlob.presented leaseId ∧
        p' = Function.update p (login.account, blob) none)
      fun _ _ p' => p' = p :=
  Action.ensures_bind.mpr (Action.ensures_store.mpr
    ⟨fun _ _ h => h.of_delete, fun _ _ h => h.eq_of_error⟩)

end Provision

/-! ## What leaves blobs alone -/

/-- An action that calls no store leaves all blobs as they are. -/
theorem Profiles.ensures_of_only {α : Type} {a : Action α}
    (h : a.Only fun e => ∀ login call, e ≠ .store login call) :
    a.Ensures Step p (fun _ _ p' => p' = p) fun _ _ p' => p' = p :=
  h.frame fun _ _ _ hstep he => hstep.eq_of_other he

theorem Channel.ensures_withChannel_profiles {α : Type} {body : Action α}
    {good : List (Scene Profiles) → α → Profiles → Prop}
    {bad : List (Scene Profiles) → Error → Profiles → Prop}
    (hbody : ∀ u, body.Ensures Step p
      (fun scenes a p' => good (⟨p, .openChannel, .ok u⟩ :: (scenes ++ [⟨p', .closeChannel, ()⟩])) a p')
      fun scenes e p' => bad (⟨p, .openChannel, .ok u⟩ :: (scenes ++ [⟨p', .closeChannel, ()⟩])) e p')
    (hbad : ∀ e, bad [⟨p, .openChannel, .error e⟩] e p) :
    (withChannel body).Ensures Step p good bad := by
  refine ensures_withChannel.mpr ⟨fun u p₁ h => ?_, fun e p' h => ?_⟩
  · obtain rfl : p₁ = p := h.eq_of_other nofun
    refine (hbody u).mono (fun scenes a p₂ hgood p₃ hclose => ?_) fun scenes e p₂ hbad p₃ hclose => ?_
    all_goals
      obtain rfl : p₃ = p₂ := hclose.eq_of_other nofun
      assumption
  · obtain rfl : p' = p := h.eq_of_other nofun
    exact hbad e

end BlobDisk
