import BlobDisk.Proofs.Device.Ledger
import BlobDisk.Proofs.Mount.Failure

/-!
# The leases of mounted disks

Clients work one after the other on stores and a table of devices. As long as none of them breaks a
lease, or presents the lease of a device to remove a blob, every device keeps the lease on its blob.

* `Record.Holds`: a record whose lease is live on the page blob at its path;
* `Operation.Gentle`: an operation that breaks no lease and removes no blob under a device's lease;
* `Operation.keeps`: a gentle operation leaves the blobs under the leases of devices alone;
* `Operation.holds`: after a gentle operation the records of the ledger hold their leases;
* `Site.devices_hold`: after every session of gentle operations all devices hold their leases.
-/

namespace BlobDisk

open Profiles

variable {p p' : Profiles}

/-- The record has a lease, which is live on the page blob at its path. -/
structure Record.Holds (r : Record) (p : Profiles) : Prop where
  leaseId_ne : r.leaseId ≠ ""
  blob : ∃ b f, BlobPath.parse r.path = .ok b ∧ p (r.accountName, b) = some f ∧ f.kind = .page ∧
    f.leaseId = some r.leaseId

/-- Blobs under one of the leases are as they were. -/
def Profiles.KeptUnder (leases : List String) (p p' : Profiles) : Prop :=
  ∀ k f id, p k = some f → f.leaseId = some id → id ∈ leases → p' k = some f

theorem Profiles.Kept.under (h : Kept p p') (leases : List String) : KeptUnder leases p p' :=
  fun k f id hf hid _ => h k f id hf hid

section

variable {α : Type} {a : Action α}

theorem Profiles.ensures_kept (h : a.Ensures Step p (fun _ _ p' => p' = p) fun _ _ p' => p' = p) :
    a.Ensures Step p (fun _ _ p' => Kept p p') fun _ _ p' => Kept p p' :=
  h.mono (fun _ _ _ h => h ▸ Kept.refl p) fun _ _ _ h => h ▸ Kept.refl p

theorem Profiles.ensures_under (h : a.Ensures Step p (fun _ _ p' => Kept p p') fun _ _ p' => Kept p p')
    (leases : List String) :
    a.Ensures Step p (fun _ _ p' => KeptUnder leases p p') fun _ _ p' => KeptUnder leases p p' :=
  h.mono (fun _ _ _ h => h.under leases) fun _ _ _ h => h.under leases

end

theorem Record.Holds.kept {r : Record} {leases : List String} (h : r.Holds p) (hp : KeptUnder leases p p')
    (hr : r.leaseId ∈ leases) : r.Holds p' := by
  obtain ⟨b, f, hb, hf, hkind, hlease⟩ := h.blob
  exact ⟨h.leaseId_ne, b, f, hb, hp _ f _ hf hlease hr, hkind, hlease⟩

/-- The operation breaks no lease, and removes no blob under one of the leases. -/
def Operation.Gentle (leases : List String) : Operation → Prop
  | mount q => q.breakLease = false
  | mountRecord _ o => o.breakLease = false
  | unmount _ breakLease => breakLease = false
  | delete _ _ leaseId forceBreak => forceBreak = false ∧ ∀ id ∈ leases, leaseId ≠ some id
  | get _ | list | create _ => True

namespace Client

variable {c : Client}

/-! ## Mounts -/

/-- What the mount of a record answers holds its lease. -/
theorem mountRecord_holds {r : Record} {o : LeaseOptions} :
    (c.mountRecord r o).Ensures Step p (fun _ m p' => m.Holds p') fun _ _ _ => True := by
  refine mountRecord_vets.mono ?_ fun _ _ _ _ => trivial
  rintro scenes m p' (⟨-, e, he⟩ | ⟨p, buffer, q, blob, f, -, -, hvetted, hok⟩)
  · cases he
  · obtain ⟨rfl, major, minor, rfl⟩ := hok m rfl
    exact ⟨hvetted.leaseId_ne, blob, f, hvetted.path, hvetted.profile, hvetted.kind, hvetted.lease⟩

theorem mount_holds {q : MountRequest} :
    (c.mount q).Ensures Step p (fun _ m p' => m.Holds p') fun _ _ _ => True :=
  mount_ensures fun _ _ _ => mountRecord_holds

/-! ## Unmounting -/

/-- Without a break no store is called. -/
theorem unmount_idle {name : String} :
    (unmount name false).Ensures Step p (fun _ _ p' => p' = p) fun _ _ p' => p' = p := by
  have hexchange : (Channel.exchange .unmount (Envelope.nameRequest name)).Only
      fun e => ∀ login call, e ≠ .store login call := Channel.exchange_only fun _ => nofun
  have hremove : Action.Ensures Step (do
      let _ ← Channel.exchange .unmount (Envelope.nameRequest name)
      return (none : Option Record)) p (fun _ q p' => p' = p ∧ q = none) fun _ _ p' => p' = p :=
    Action.ensures_bind.mpr ((Profiles.ensures_of_only hexchange).mono (fun _ _ _ h => ⟨h, rfl⟩)
      fun _ _ _ h => h)
  unfold unmount
  refine Action.ensures_bind.mpr (Action.ensures_ofExcept.mpr ⟨fun _ _ => ?_, fun _ _ => rfl⟩)
  refine Action.ensures_bind.mpr (Channel.ensures_withChannel_profiles (fun _ => ?_) fun _ => rfl)
  refine Action.Ensures.mono hremove ?_ fun _ _ _ h => h
  rintro _ _ _ ⟨rfl, rfl⟩
  rfl

/-! ## Blobs alone -/

/-- A blob is made in place of none that is leased. -/
theorem create_kept {q : CreateRequest} :
    (c.create q).Ensures Step p (fun _ _ p' => Kept p p') fun _ _ p' => Kept p p' := by
  unfold create
  refine Action.ensures_bind.mpr (nameOr_ensures.mono ?_ fun _ _ _ h => h ▸ Kept.refl _)
  rintro _ name p rfl
  refine Action.ensures_bind.mpr (login_only.idle.mono ?_ fun _ _ _ h => h.2 ▸ Kept.refl _)
  rintro _ login p ⟨-, rfl⟩
  refine Action.ensures_bind.mpr (Action.ensures_connect.mpr
    ⟨fun _ p₁ h => ?_, fun _ _ h => h.eq_of_other nofun ▸ Kept.refl _⟩)
  obtain rfl := h.eq_of_other nofun
  refine Provision.create_ensures.mono ?_ fun _ _ _ h => h.kept
  rintro _ created _ ⟨-, hnone, size, rfl⟩
  exact (Kept.refl _).update hnone _

/-- A blob is removed under its lease only. -/
theorem delete_keeps {container name : String} {leaseId : Option String} {leases : List String}
    (hlease : ∀ id ∈ leases, leaseId ≠ some id) :
    (c.delete container name leaseId false).Ensures Step p (fun _ _ p' => KeptUnder leases p p')
      fun _ _ p' => KeptUnder leases p p' := by
  have hself : ∀ p, KeptUnder leases p p := fun p => (Kept.refl p).under leases
  unfold delete
  refine Action.ensures_bind.mpr (login_only.idle.mono ?_ fun _ _ _ h => h.2 ▸ hself _)
  rintro _ login p ⟨-, rfl⟩
  refine Action.ensures_bind.mpr (Action.ensures_connect.mpr
    ⟨fun _ p₁ h => ?_, fun _ _ h => h.eq_of_other nofun ▸ hself _⟩)
  obtain rfl := h.eq_of_other nofun
  refine Provision.delete_ensures.mono ?_ fun _ _ _ h => h ▸ hself _
  rintro _ outcome _ ⟨f, hf, hpresented, rfl⟩ k g id hg hid hmem
  have hne : k ≠ (login.account, ⟨container, name⟩) := by
    rintro rfl
    obtain rfl := Option.some.inj (hf.symm.trans hg)
    rw [hid, StoredBlob.presented] at hpresented
    exact hlease id hmem (Option.eq_some_of_filter_eq_some hpresented.symm)
  rw [Function.update_of_ne hne, hg]

end Client

/-! ## Operations -/

namespace Operation

variable {c : Client} {o : Operation} {leases : List String} {rs : List Record}

/-- A gentle operation leaves the blobs under the leases alone. -/
theorem keeps (h : o.Gentle leases) :
    (o.action c).Ensures Step p (fun _ _ p' => KeptUnder leases p p') fun _ _ p' => KeptUnder leases p p' := by
  cases o with
  | mount q =>
    exact ensures_under (Client.mount_spares.mono (fun _ _ _ hk => hk h) fun _ _ _ hk => hk.2 h) leases
  | mountRecord r o =>
    exact ensures_under (Client.mountRecord_spares.mono (fun _ _ _ hk => hk h) fun _ _ _ hk => hk.2 h)
      leases
  | unmount name breakLease =>
    obtain rfl : breakLease = false := h
    exact ensures_under (ensures_kept Client.unmount_idle) leases
  | get name =>
    have honly : (Client.get name).Only fun e => ∀ login call, e ≠ .store login call := Client.get_only
      nofun (fun _ _ => nofun) nofun
    exact ensures_under (ensures_kept (ensures_of_only honly)) leases
  | list =>
    have honly : Client.list.Only fun e => ∀ login call, e ≠ .store login call := Client.list_only
      nofun (fun _ _ => nofun) nofun
    exact ensures_under (ensures_kept (ensures_of_only honly)) leases
  | create q => exact ensures_under Client.create_kept leases
  | delete container name leaseId forceBreak =>
    obtain ⟨rfl, hlease⟩ := h
    exact Client.delete_keeps hlease

/-- After a gentle operation all records of the ledger hold their leases. -/
theorem holds (h : o.Gentle (rs.map (·.leaseId))) (hrs : ∀ m ∈ rs, m.Holds p) :
    (o.action c).Ensures Step p (fun _ x p' => ∀ m ∈ Entry.settle rs ⟨o, .ok x⟩, m.Holds p')
      fun _ _ p' => ∀ m ∈ rs, m.Holds p' := by
  have hrest : ∀ p', KeptUnder (rs.map (·.leaseId)) p p' → ∀ m ∈ rs, m.Holds p' :=
    fun p' hp m hm => (hrs m hm).kept hp (List.mem_map_of_mem hm)
  have hadd : ∀ p' m, KeptUnder (rs.map (·.leaseId)) p p' → m.Holds p' → ∀ m' ∈ rs ++ [m], m'.Holds p' := by
    intro p' m hp hm
    simp only [List.mem_append, List.mem_singleton]
    rintro m' (hmem | rfl)
    · exact hrest p' hp m' hmem
    · exact hm
  have hkeeps := keeps (c := c) (p := p) h
  cases o with
  | mount q =>
    refine (hkeeps.and Client.mount_holds).mono ?_ fun _ _ _ h => hrest _ h.1
    rintro _ m p' ⟨hp, hm⟩
    exact hadd p' m hp hm
  | mountRecord r o =>
    refine (hkeeps.and Client.mountRecord_holds).mono ?_ fun _ _ _ h => hrest _ h.1
    rintro _ m p' ⟨hp, hm⟩
    exact hadd p' m hp hm
  | unmount name breakLease =>
    exact hkeeps.mono (fun _ _ _ hp m hm => hrest _ hp m (List.mem_filter.mp hm).1) fun _ _ _ hp => hrest _ hp
  | _ => exact hkeeps.mono (fun _ _ _ hp => hrest _ hp) fun _ _ _ hp => hrest _ hp

end Operation

namespace Site

variable {s₀ s : Site} {entries : List Entry}

/-- The operation breaks no lease, and removes no blob under the lease of a device. -/
def Gentle (s : Site) (o : Operation) : Prop := o.Gentle (s.table.records.map (·.leaseId))

theorem represents_ledger (h₀ : s₀.table.records = []) (h : Session Step Gentle s₀ entries s) :
    s.table.Represents (ledger entries) := by
  have htable : Session DeviceTable.Step (fun _ _ => True) s₀.table entries s.table :=
    h.map (fun _ _ _ hstep => hstep.table) fun _ _ _ => trivial
  exact DeviceTable.represents_ledger h₀ htable

/-- After a session of gentle operations all records of the ledger hold their leases. -/
theorem ledger_holds (h₀ : s₀.table.records = []) (h : Session Step Gentle s₀ entries s) :
    ∀ m ∈ ledger entries, m.Holds s.stores.profiles := by
  induction h with
  | start => exact nofun
  | @step entries s s' c o scenes v hsession hgentle hr ih =>
    rw [Gentle, (represents_ledger h₀ hsession).records, List.map_map] at hgentle
    have hruns := (Site.runs_stores hr).profiles
    have hholds := Program.ensures_iff.mp (Operation.holds hgentle ih) _ _ _ hruns
    rw [ledger_append]
    cases v with
    | ok x => exact hholds
    | error e =>
      rw [Entry.settle_error]
      exact hholds

/-- As long as no operation breaks a lease, or presents the lease of a device to remove a blob, every
device has a lease, and that is the live lease of the page blob at its account and path. -/
theorem devices_hold (h₀ : s₀.table.records = []) (h : Session Step Gentle s₀ entries s) :
    ∀ r ∈ s.table.records, r.leaseId ≠ "" ∧ ∃ b x, BlobPath.parse r.path = .ok b ∧
      (s.stores r.accountName).blob? b = some x ∧ x.kind = .page ∧ x.leaseId = some r.leaseId := by
  rw [(represents_ledger h₀ h).records]
  intro r hr
  obtain ⟨m, hm, rfl⟩ := List.mem_map.mp hr
  obtain ⟨hne, b, f, hb, hf, hkind, hlease⟩ := ledger_holds h₀ h m hm
  obtain ⟨x, hx, rfl⟩ := Option.map_eq_some_iff.mp hf
  exact ⟨hne, b, x, hb, hx, hkind, hlease⟩

/-- A disk is mounted, and holds its lease. -/
theorem devices_hold_mounted : ∃ s,
    Session Step Gentle Sample.site [⟨Sample.leased, .ok Sample.mounted⟩] s ∧
    ∃ r ∈ s.table.records, r.leaseId ≠ "" ∧ ∃ b x, BlobPath.parse r.path = .ok b ∧
      (s.stores r.accountName).blob? b = some x ∧ x.kind = .page ∧ x.leaseId = some r.leaseId := by
  obtain ⟨scenes, s, hmount⟩ := Sample.runs_leased
  have hsession : Session Step Gentle Sample.site [⟨Sample.leased, .ok Sample.mounted⟩] s :=
    .step .start rfl hmount
  have hmem : Sample.mounted.unsized ∈ s.table.records := by
    rw [(represents_ledger rfl hsession).records]
    exact List.mem_map_of_mem (List.mem_singleton_self _)
  exact ⟨s, hsession, _, hmem, devices_hold rfl hsession _ hmem⟩

end Site

end BlobDisk
