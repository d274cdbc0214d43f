import BlobDisk.Client
import BlobDisk.Proofs.Channel.Exchange
import BlobDisk.Proofs.Record.Rules
import BlobDisk.Proofs.Sizes

/-!
# What mounting a record does

A mount of a prepared record reads the size of its blob, takes a lease if it has to, proves the lease
and asks the device manager. `Mount.monitor` notes how far it has come and says what it may do next:

* it calls the store about its own blob only, and never makes, writes or removes a blob;
* it takes a lease only if the record has none, and one at a time;
* it breaks a lease only if it has taken one, or if it was told to break that of another;
* it asks the device manager only under a lease that it has proved, and for no more bytes than it read
  that the blob has.

`Client.mountRecord_obeys` says that every mount keeps to this, and that it ends with the lease that it
took if it succeeds, and with none if it fails.
-/

namespace BlobDisk

namespace Mount

/-- How far a mount has come. -/
structure Progress where
  /-- The size that was read without a lease. -/
  size : Option UInt64 := none
  /-- The lease that was taken and not broken since. -/
  taken : Option String := none
  /-- The lease id under which properties were read last. -/
  proved : Option String := none

/-- The progress after an event. -/
def Progress.next (g : Progress) : (e : Effect) → e.Answer → Progress
  | .store _ (.properties _ none), .ok p => { g with size := some p.contentLength }
  | .store _ (.properties _ (some id)), .ok _ => { g with proved := some id }
  | .store _ (.acquireLease ..), .ok id => { g with taken := some id }
  | .store _ (.breakLease ..), _ => { g with taken := none, proved := none }
  | _, _ => g

/-- A record that a mount may send once its lease is proved: it names the blob of the given record, is
under the lease that was taken or that was given, and fits the size that was read. -/
structure Candidate (r : Record) (g : Progress) (q : Record) : Prop where
  path_eq : q.path = r.path
  owner : g.taken = some q.leaseId ∨ g.taken = none ∧ q.leaseId = r.leaseId
  fits : ∃ n, g.size = some n ∧ (q.sectorCount ≠ 0 → q.extent ≤ n.toNat)

/-- A record that a mount may send. -/
structure Ready (r : Record) (g : Progress) (q : Record) : Prop extends Candidate r g q where
  sectorCount_ne : q.sectorCount ≠ 0
  leaseId_ne : q.leaseId ≠ ""
  proved : g.proved = some q.leaseId

/-- What the mount of a record may do next. -/
def Allows (r : Record) (o : LeaseOptions) (g : Progress) : Effect → Prop
  | .store _ (.containerExists _) => True
  | .store _ (.blobExists b) | .store _ (.properties b _) | .store _ (.setMetadata b _ _) =>
    BlobPath.parse r.path = .ok b
  | .store _ (.acquireLease b _) =>
    BlobPath.parse r.path = .ok b ∧ g.taken = none ∧ r.leaseId = "" ∧ o.autoLease = true
  | .store _ (.breakLease b _) =>
    BlobPath.parse r.path = .ok b ∧ (g.taken.isSome ∨ o.breakLease = true)
  | .store _ (.createContainer _) | .store _ (.createPageBlob ..) | .store _ (.writeRange ..)
  | .store _ (.readRange ..) | .store _ (.deleteBlob ..) => False
  | .submit command buffer =>
    command = .mount ∧ ∃ q, Channel.mountRequest q = .ok buffer ∧ Ready r g q
  | .openChannel | .closeChannel | .connect _ | .resolve _ => True
  | .freshName | .footerStamp => False

def monitor (r : Record) (o : LeaseOptions) : Monitor Progress := ⟨Allows r o, Progress.next⟩

end Mount

open Mount

variable {r q : Record} {o : LeaseOptions} {g : Progress} {login : Credentials} {blob : BlobPath}

/-! ## Leases -/

theorem Lease.locate_obeys (hb : BlobPath.parse r.path = .ok blob) :
    (Lease.locate login blob).Obeys (monitor r o) g
      (fun p g' => g' = { g with size := some p.contentLength }) fun _ g' => g' = g := by
  unfold locate
  refine Action.obeys_bind.mpr (Action.obeys_store.mpr ⟨trivial, fun hasContainer => ?_, fun _ => rfl⟩)
  refine Action.obeys_guard.mpr ⟨fun _ => rfl, fun _ => ?_⟩
  refine Action.obeys_bind.mpr (Action.obeys_store.mpr ⟨hb, fun hasBlob => ?_, fun _ => rfl⟩)
  refine Action.obeys_guard.mpr ⟨fun _ => rfl, fun _ => ?_⟩
  exact Action.obeys_store.mpr ⟨hb, fun _ => rfl, fun _ => rfl⟩

theorem Lease.acquire_obeys (hb : BlobPath.parse r.path = .ok blob) (hr : r.leaseId = "")
    (ho : o.autoLease = true) (htaken : g.taken = none) (hproved : g.proved = none) :
    (Lease.acquire login blob o.breakLease).Obeys (monitor r o) g
      (fun id g' => g' = { g with taken := some id }) fun _ g' => g' = g := by
  have hbroken : { g with taken := none, proved := none } = g := by
    cases g
    cases htaken
    cases hproved
    rfl
  unfold acquire
  refine Action.obeys_bind.mpr (Action.obeys_always.mpr (Action.obeys_outcome.mpr
    (Action.obeys_store.mpr ⟨⟨hb, htaken, hr, ho⟩, fun id => rfl, fun e => ?_⟩)))
  cases hbreak : o.breakLease with
  | false => cases e <;> rfl
  | true =>
    cases e with
    | leaseAlreadyPresent detail =>
      -- The lease of another is broken, which leaves the progress as it is, and asked for once more.
      refine Action.obeys_bind.mpr
        (Action.obeys_store.mpr ⟨⟨hb, .inr hbreak⟩, fun _ => ?_, fun _ => hbroken⟩)
      refine Action.obeys_store.mpr ⟨⟨hb, rfl, hr, ho⟩, fun id => ?_, fun _ => hbroken⟩
      exact congrArg (fun g : Progress => { g with taken := some id }) hbroken
    | _ => rfl

theorem Lease.verifyWritable_obeys (hb : BlobPath.parse r.path = .ok blob) {id : String}
    {mode : AccessMode} : (Lease.verifyWritable login blob id mode).Obeys (monitor r o) g
      (fun _ g' => g' = { g with proved := some id }) fun _ g' => g'.taken = g.taken := by
  unfold verifyWritable
  refine Action.obeys_bind.mpr (Action.obeys_store.mpr ⟨hb, fun p => ?_, fun _ => rfl⟩)
  refine Action.obeys_guard.mpr ⟨fun _ => rfl, fun _ => ?_⟩
  cases mode with
  | readOnly => rfl
  | readWrite =>
    exact Action.obeys_bind.mpr (Action.obeys_store.mpr ⟨hb, fun _ => rfl, fun _ => rfl⟩)

theorem Lease.breakBestEffort_obeys (hb : BlobPath.parse r.path = .ok blob)
    (htaken : g.taken.isSome) :
    (Lease.breakBestEffort login blob).Obeys (monitor r o) g fun _ g' => g'.taken = none := by
  unfold breakBestEffort
  refine Program.obeys_bind.mpr (Action.obeys_outcome.mpr (Action.obeys_store.mpr
    ⟨⟨hb, .inl htaken⟩, fun _ => ?_, fun _ => ?_⟩))
  · rfl
  · rfl

/-! ## Records -/

theorem Record.resolveHost_obeys : q.resolveHost.Obeys (monitor r o) g
    (fun q' g' => g' = g ∧ ∃ ip, q' = { q with ip }) fun _ g' => g' = g := by
  unfold resolveHost
  refine Action.obeys_bind.mpr (Action.obeys_resolve.mpr ⟨trivial, fun ip => ?_, fun _ => rfl⟩)
  exact Action.obeys_guard.mpr ⟨fun _ => rfl, fun _ => ⟨rfl, ip.text, rfl⟩⟩

theorem Record.validate_obeys {domain : String} (hq : Candidate r g q) :
    (q.validate login domain).Obeys (monitor r o) g fun v g' => g'.taken = g.taken ∧
      (v.2 = .ok () → v.1.leaseId = q.leaseId ∧ Ready r g' v.1) := by
  unfold validate
  cases hcheck : q.checkFields domain with
  | mk q₁ verdict =>
    cases verdict with
    | error e => exact ⟨rfl, nofun⟩
    | ok blob =>
      obtain ⟨hpath, hsectors, hlease, host, rfl⟩ := checkFields_eq_ok hcheck
      refine Program.obeys_bind.mpr (Action.obeys_outcome.mpr
        (resolveHost_obeys.mono ?_ fun e g' hg' => hg' ▸ ⟨rfl, nofun⟩))
      rintro _ _ ⟨rfl, ip, rfl⟩
      refine Program.obeys_bind.mpr (Action.obeys_outcome.mpr
        ((Lease.verifyWritable_obeys (hq.path_eq ▸ hpath)).mono ?_ fun e g' hg' => ⟨hg', nofun⟩))
      rintro p _ rfl
      exact ⟨rfl, fun _ => ⟨rfl, ⟨hq.path_eq, hq.owner, hq.fits⟩, hsectors, hlease, rfl⟩⟩

/-! ## Mounts -/

namespace Client

variable {c : Client}

theorem submitMount_obeys (hq : Candidate r g q) : (c.submitMount login q).Obeys (monitor r o) g
    (fun mounted g' => mounted.leaseId = q.leaseId ∧ g'.taken = g.taken)
    fun _ g' => g'.taken = g.taken := by
  unfold submitMount
  refine Action.obeys_bind.mpr (Action.obeys_always.mpr ((Record.validate_obeys hq).mono ?_))
  rintro ⟨q', verdict⟩ g' ⟨htaken, hready⟩
  refine Action.obeys_bind.mpr (Action.obeys_ofExcept.mpr ⟨fun _ hv => ?_, fun _ _ => htaken⟩)
  obtain ⟨hlease, hready⟩ := hready hv
  refine Action.obeys_bind.mpr (Action.obeys_ofExcept.mpr ⟨fun buffer hbuffer => ?_, fun _ _ => htaken⟩)
  refine Action.obeys_bind.mpr (Channel.obeys_exchangeBuffer.mpr
    ⟨⟨rfl, q', hbuffer, hready⟩, fun _ => htaken, fun reply => ⟨fun payload _ => ?_, fun _ _ => htaken⟩⟩)
  exact Action.obeys_bind.mpr (Action.obeys_ofExcept.mpr ⟨fun _ _ => ⟨hlease, htaken⟩, fun _ _ => htaken⟩)

theorem fillSize_eq_ok {p : Properties} {q' : Record} (h : fillSize blob p q = .ok q') :
    q'.path = q.path ∧ q'.leaseId = q.leaseId ∧
      (q'.sectorCount ≠ 0 → q'.extent ≤ p.contentLength.toNat) := by
  simp only [fillSize, guard_eq_ok] at h
  obtain ⟨-, h⟩ := h
  refine ⟨?_, ?_, Record.extent_le h⟩
  all_goals
    simp only [Record.setSizeGb, bind_eq_ok, pure_eq_ok] at h
    obtain ⟨sectors, -, rfl⟩ := h
    rfl

theorem leaseAndSubmit_obeys (hb : BlobPath.parse r.path = .ok blob) (hq : Candidate r g q)
    (htaken : g.taken = none) (hproved : g.proved = none) :
    (c.leaseAndSubmit login blob q o).Obeys (monitor r o) g
      (fun mounted g' => r.leaseId = "" → o.autoLease = true → g'.taken = some mounted.leaseId)
      fun _ g' => g'.taken = none := by
  have hlease : q.leaseId = r.leaseId := by
    rcases hq.owner with h | ⟨-, h⟩
    · rw [htaken] at h
      cases h
    · exact h
  unfold leaseAndSubmit
  by_cases hauto : q.leaseId = "" ∧ o.autoLease = true
  · rw [if_pos hauto]
    refine Action.obeys_bind.mpr
      ((Lease.acquire_obeys hb (hlease ▸ hauto.1) hauto.2 htaken hproved).mono ?_ ?_)
    · rintro id _ rfl
      have hq' : Candidate r { g with taken := some id } { q with leaseId := id } :=
        ⟨hq.path_eq, .inl rfl, hq.fits⟩
      refine Action.obeys_bind.mpr (Action.obeys_always.mpr (Action.obeys_outcome.mpr
        ((submitMount_obeys hq').mono ?_ ?_)))
      · rintro mounted g' ⟨hmounted, hg'⟩ - -
        rw [hg', hmounted]
      · intro e g' hg'
        refine Action.obeys_bind.mpr (Action.obeys_always.mpr
          ((Lease.breakBestEffort_obeys hb ?_).mono fun _ _ hbroken => hbroken))
        rw [hg']
        rfl
    · rintro e _ rfl
      exact htaken
  · rw [if_neg hauto]
    refine (submitMount_obeys hq).mono (fun mounted g' _ hr ho => ?_) fun e g' hg' => hg'.trans htaken
    exact (hauto ⟨hlease.trans hr, ho⟩).elim

theorem login_obeys {σ : Type} {M : Monitor σ} {s : σ} :
    c.login.Obeys M s (fun _ s' => s' = s) fun _ s' => s' = s := by
  unfold login
  cases c.credentials <;> exact rfl

theorem fillCredentials_obeys {σ : Type} {M : Monitor σ} {s : σ} : (c.fillCredentials r).Obeys M s
    (fun q s' => s' = s ∧ q.path = r.path ∧ q.leaseId = r.leaseId) fun _ s' => s' = s := by
  unfold fillCredentials
  split
  · refine Action.obeys_bind.mpr (login_obeys.mono ?_ fun e s hs => hs)
    rintro login _ rfl
    exact ⟨rfl, rfl, rfl⟩
  · exact ⟨rfl, rfl, rfl⟩

/-- A mount keeps to the monitor. If it takes leases, it holds one in the end just if it succeeds, and
then the one that its record names. -/
theorem mountRecord_obeys (c : Client) (r : Record) (o : LeaseOptions) :
    (c.mountRecord r o).Obeys (monitor r o) {}
      (fun mounted g => r.leaseId = "" → o.autoLease = true → g.taken = some mounted.leaseId)
      fun _ g => g.taken = none := by
  unfold mountRecord
  refine Action.obeys_bind.mpr (fillCredentials_obeys.mono ?_ fun e g hg => hg ▸ rfl)
  rintro q _ ⟨rfl, hpath, hlease⟩
  refine Channel.obeys_withChannel.mpr ⟨trivial, fun _ => ?_, fun _ => rfl⟩
  refine Action.obeys_bind.mpr (Action.obeys_connect.mpr ⟨trivial, fun _ => ?_, fun _ => ⟨trivial, rfl⟩⟩)
  refine Action.obeys_bind.mpr (Action.obeys_ofExcept.mpr ⟨fun blob hb => ?_, fun _ _ => ⟨trivial, rfl⟩⟩)
  have hb : BlobPath.parse r.path = .ok blob := hpath ▸ hb
  refine Action.obeys_bind.mpr ((Lease.locate_obeys hb).mono ?_ fun e g hg => hg ▸ ⟨trivial, rfl⟩)
  rintro p _ rfl
  refine Action.obeys_bind.mpr (Action.obeys_ofExcept.mpr ⟨fun q' hq' => ?_, fun _ _ => ⟨trivial, rfl⟩⟩)
  obtain ⟨hpath', hlease', hfits⟩ := fillSize_eq_ok hq'
  refine (leaseAndSubmit_obeys hb ⟨hpath'.trans hpath, .inr ⟨rfl, hlease'.trans hlease⟩, _, rfl, hfits⟩
    rfl rfl).mono (fun mounted g hg => ⟨trivial, hg⟩) fun e g hg => ⟨trivial, hg⟩

end Client

end BlobDisk
