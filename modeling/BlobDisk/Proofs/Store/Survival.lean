import BlobDisk.Proofs.Device.Session
import BlobDisk.Proofs.Record.Path
import BlobDisk.Proofs.Record.Rules
import BlobDisk.Proofs.Store.Contents
import BlobDisk.Proofs.Text.Pieces

/-!
# What survives an operation

Only making and removing blobs does anything to data. All other operations leave every blob its bytes,
and touch one blob at most: the one that they are about, whose lease they take or break, and in whose
metadata they leave a mark.

* `Contents.Survives`: all is as it was, but for the lease and the mark on some blobs;
* `Action.Preserves`: what an action does to contents, judged part by part;
* `Operation.Targets`: the blob that an operation is about;
* `Operation.data_survives`: all that was kept survives every operation that makes and removes nothing.
-/

namespace BlobDisk

/-- The blob has its bytes, and but for the mark of the probe for writing its metadata; its lease can be
any. -/
structure StoredBlob.Touched (s s' : StoredBlob) : Prop where
  size : s'.size = s.size
  kind : s'.kind = s.kind
  writes : s'.writes = s.writes
  metadata : s'.metadata = s.metadata ∨
    s'.metadata = s.metadata.insert Lease.probeKey Lease.probeValue

namespace StoredBlob.Touched

variable {s s₁ s' : StoredBlob}

theorem refl (s : StoredBlob) : s.Touched s := ⟨rfl, rfl, rfl, .inl rfl⟩

theorem trans (h : s.Touched s₁) (h' : s₁.Touched s') : s.Touched s' where
  size := h'.size.trans h.size
  kind := h'.kind.trans h.kind
  writes := h'.writes.trans h.writes
  metadata := by
    rcases h'.metadata with h₁ | h₁ <;> rcases h.metadata with h₀ | h₀ <;> rw [h₁, h₀]
    · exact .inl rfl
    · exact .inr rfl
    · exact .inr rfl
    · exact .inr (TextMap.insert_insert ..)

end StoredBlob.Touched

namespace Contents

/-- The containers are as they were, no blob was made or removed, each has been touched at most, and only
the targets have been touched at all. -/
structure Survives (target : String × BlobPath → Prop) (x x' : Contents) : Prop where
  containers : x'.containers = x.containers
  touched : ∀ k, Option.Rel StoredBlob.Touched (x.blobs k) (x'.blobs k)
  others : ∀ k, ¬ target k → x'.blobs k = x.blobs k

variable {target target' : String × BlobPath → Prop} {x x₁ x' : Contents} {k : String × BlobPath}
  {s s' : StoredBlob}

theorem Survives.refl (target : String × BlobPath → Prop) (x : Contents) : Survives target x x where
  containers := rfl
  touched k := by
    cases x.blobs k with
    | none => exact .none
    | some s => exact .some (.refl s)
  others _ _ := rfl

theorem Survives.trans (h : Survives target x x₁) (h' : Survives target x₁ x') : Survives target x x' where
  containers := h'.containers.trans h.containers
  touched k := by
    have hk := h.touched k
    have hk' := h'.touched k
    generalize x.blobs k = old, x₁.blobs k = mid, x'.blobs k = new at hk hk'
    cases hk with
    | none => exact hk'
    | some hk =>
      cases hk' with
      | some hk' => exact .some (hk.trans hk')
  others k hk := (h'.others k hk).trans (h.others k hk)

theorem Survives.mono (h : Survives target x x') (ht : ∀ k, target k → target' k) :
    Survives target' x x' :=
  { h with others := fun k hk => h.others k fun hk' => hk (ht k hk') }

/-- A target is touched. -/
theorem survives_put (hs : x.blobs k = some s) (h : s.Touched s') (hk : target k) :
    Survives target x (x.put k s') where
  containers := rfl
  touched k' := by
    by_cases hk' : k' = k
    · subst hk'
      rw [hs, blobs_put_self]
      exact .some h
    · rw [blobs_put_of_ne hk']
      exact (Survives.refl target x).touched k'
  others k' hk' := blobs_put_of_ne fun heq => hk' (heq ▸ hk)

end Contents

open Contents (Survives)

/-! ## Parts of operations -/

/-- Whether the call changes nothing but counts. -/
def StoreCall.onlyReads : StoreCall → Bool
  | containerExists _ | blobExists _ | readRange .. | properties .. => true
  | _ => false

/-- Whether the effect changes nothing in stores but counts. -/
def Effect.onlyReads : Effect → Bool
  | store _ call => call.onlyReads
  | _ => true

theorem Contents.Step.eq_of_onlyReads {x x' : Contents} {event : Event} (h : Step x event x')
    (he : event.effect.onlyReads = true) : x' = x := by
  obtain ⟨e, answer⟩ := event
  cases e with
  | store login call =>
    cases answer with
    | error e => exact h
    | ok answer =>
      cases call with
      | containerExists c | blobExists b | properties b lease => exact h.2
      | readRange b range lease => exact h
      | _ => cases he
  | _ => exact h

/-- All that the program leaves survives, but for the targets. -/
def Program.Preserves {α : Type} (target : String × BlobPath → Prop) (p : Program α) : Prop :=
  ∀ x, p.Ensures Contents.Step x fun _ _ x' => Survives target x x'

/-- All that the action leaves survives, but for the targets. -/
def Action.Preserves {α : Type} (target : String × BlobPath → Prop) (a : Action α) : Prop :=
  ∀ x, a.Ensures Contents.Step x (fun _ _ x' => Survives target x x') fun _ _ x' => Survives target x x'

section

variable {α β : Type} {target : String × BlobPath → Prop}

namespace Program

theorem preserves_pure {a : α} : (pure a : Program α).Preserves target := fun x => .refl target x

theorem preserves_bind {p : Program α} {f : α → Program β} (hp : p.Preserves target)
    (hf : ∀ a, (f a).Preserves target) : (p >>= f).Preserves target := by
  intro x
  refine ensures_bind.mpr ((hp x).mono fun _ a x₁ h => ?_)
  exact (hf a x₁).mono fun _ _ _ h' => h.trans h'

end Program

namespace Action

theorem preserves_iff {a : Action α} : a.Preserves target ↔ Program.Preserves target a.run := by
  refine forall_congr' fun x => ⟨fun h => Program.Ensures.mono h ?_, fun h => Program.Ensures.mono h ?_⟩
  all_goals
    intro _ r _ hr
    cases r <;> exact hr

theorem preserves_of_only {a : Action α} (h : a.Only fun e => e.onlyReads = true) : a.Preserves target := by
  intro x
  refine (h.frame fun x event x' hstep he => hstep.eq_of_onlyReads he).mono ?_ ?_
  all_goals
    rintro _ _ _ rfl
    exact .refl target _

theorem preserves_bind {a : Action α} {f : α → Action β} (ha : a.Preserves target)
    (hf : ∀ y, (f y).Preserves target) : (a >>= f).Preserves target := by
  intro x
  refine ensures_bind.mpr ((ha x).mono (fun _ y x₁ h => ?_) fun _ _ _ h => h)
  exact (hf y x₁).mono (fun _ _ _ h' => h.trans h') fun _ _ _ h' => h.trans h'

theorem preserves_pure {y : α} : (pure y : Action α).Preserves target := fun x => .refl target x

theorem preserves_throw {e : Error} : (throw e : Action α).Preserves target := fun x => .refl target x

/-- A result that is known already, and what is done with it. -/
theorem preserves_ofExcept_bind {r : Except Error α} {f : α → Action β}
    (hf : ∀ y, r = .ok y → (f y).Preserves target) : (ofExcept r >>= f).Preserves target :=
  fun x => ensures_bind.mpr (ensures_ofExcept.mpr ⟨fun y hy => hf y hy x, fun _ _ => .refl target x⟩)

theorem preserves_always {p : Program α} (h : p.Preserves target) : (always p).Preserves target :=
  fun x => ensures_always.mpr (h x)

theorem preserves_outcome {a : Action α} (h : a.Preserves target) : a.outcome.Preserves target :=
  preserves_iff.mp h

theorem preserves_store {login : Credentials} {call : StoreCall}
    (h : ∀ x answer x', Contents.Serves x login.account call answer x' → Survives target x x') :
    (store login call).Preserves target :=
  fun x => ensures_store.mpr ⟨fun answer x' hstep => h x answer x' hstep, fun _ _ hstep => by
    obtain rfl := hstep
    exact .refl target _⟩

end Action

theorem Channel.preserves_withChannel {body : Action α} (h : body.Preserves target) :
    (withChannel body).Preserves target := by
  refine Action.preserves_bind (Action.preserves_of_only (Program.only_perform rfl)) fun _ => ?_
  refine Action.preserves_bind (Action.preserves_always (Action.preserves_outcome h)) fun _ => ?_
  refine Action.preserves_bind (Action.preserves_of_only
    (Action.only_always (Program.only_perform rfl))) fun _ => ?_
  exact Action.preserves_of_only Action.only_ofExcept

end

variable {target : String × BlobPath → Prop} {login : Credentials} {blob : BlobPath}

namespace Lease

theorem locate_onlyReads : (locate login blob).Only fun e => e.onlyReads = true := by
  refine Action.only_bind (Program.only_perform rfl) fun _ => Action.only_guard ?_
  refine Action.only_bind (Program.only_perform rfl) fun _ => Action.only_guard ?_
  exact Program.only_perform rfl

theorem preserves_acquireLease {duration : LeaseDuration} (h : target (login.account, blob)) :
    (Action.store login (.acquireLease blob duration)).Preserves target := by
  refine Action.preserves_store ?_
  rintro x id _ ⟨s, hs, -, rfl⟩
  exact Contents.survives_put hs ⟨rfl, rfl, rfl, .inl rfl⟩ h

theorem preserves_breakLease {seconds : UInt32} (h : target (login.account, blob)) :
    (Action.store login (.breakLease blob seconds)).Preserves target := by
  refine Action.preserves_store ?_
  rintro x _ _ ⟨s, id, hs, -, rfl⟩
  exact Contents.survives_put hs ⟨rfl, rfl, rfl, .inl rfl⟩ h

theorem acquire_preserves {force : Bool} (h : target (login.account, blob)) :
    (acquire login blob force).Preserves target := by
  refine Action.preserves_bind (Action.preserves_always (Action.preserves_outcome
    (preserves_acquireLease h))) fun answer => ?_
  cases answer with
  | ok id => exact Action.preserves_pure
  | error e =>
    cases force with
    | false => cases e <;> exact Action.preserves_throw
    | true =>
      cases e with
      | leaseAlreadyPresent detail =>
        exact Action.preserves_bind (preserves_breakLease h) fun _ => preserves_acquireLease h
      | _ => exact Action.preserves_throw

theorem breakBestEffort_preserves (h : target (login.account, blob)) :
    (breakBestEffort login blob).Preserves target := by
  refine Program.preserves_bind (Action.preserves_outcome (preserves_breakLease h)) fun answer => ?_
  cases answer <;> exact Program.preserves_pure

/-- The probe writes back the metadata that it has read, with its mark. -/
theorem verifyWritable_preserves {id : String} {mode : AccessMode} (h : target (login.account, blob)) :
    (verifyWritable login blob id mode).Preserves target := by
  intro x
  refine Action.ensures_bind.mpr (Action.ensures_store.mpr ⟨?_, fun _ _ hstep => ?_⟩)
  · rintro q x₁ ⟨⟨s, hs, -, rfl⟩, rfl⟩
    refine Action.ensures_guard.mpr ⟨fun _ => .refl target _, fun _ => ?_⟩
    cases mode with
    | readOnly => exact .refl target _
    | readWrite =>
      refine Action.ensures_bind.mpr (Action.ensures_store.mpr ⟨?_, fun _ _ hstep => ?_⟩)
      · rintro _ _ ⟨s', hs', -, rfl⟩
        obtain rfl : s' = s := Option.some.inj (hs'.symm.trans hs)
        exact Contents.survives_put hs ⟨rfl, rfl, rfl, .inr rfl⟩ h
      · obtain rfl := hstep
        exact .refl target _
  · obtain rfl := hstep
    exact .refl target _

end Lease

/-! ## Operations -/

/-- The place of the blob that a request is to mount under a name. -/
def MountRequest.place (q : MountRequest) (login : Credentials) (name : String) : String × BlobPath :=
  (login.account, ⟨q.container, Provision.blobName (q.objectName.getD name) q.vhd⟩)

namespace Client

variable {c : Client} {r : Record} {o : LeaseOptions}

/-- The account that a record is mounted under: its own, or that of the client if it comes without
credentials. -/
def accountOf (c : Client) (r : Record) : Option String :=
  if r.accountName = "" ∨ r.accountKey = "" then c.credentials.map (·.account) else some r.accountName

/-- A record with the account of the client is mounted under it. -/
theorem accountOf_own (hc : c.credentials = some login) (hr : r.accountName = login.account) :
    c.accountOf r = some login.account := by
  unfold accountOf
  split
  · rw [hc, Option.map_some]
  · rw [hr]

theorem fillCredentials_ensures {σ : Type} {W : Outside σ} {s : σ} :
    (c.fillCredentials r).Ensures W s (fun scenes q s' => scenes = [] ∧ s' = s ∧
      c.accountOf r = some q.accountName ∧ q.path = r.path) fun scenes _ s' => scenes = [] ∧ s' = s := by
  unfold fillCredentials accountOf login
  split
  · cases hc : c.credentials with
    | none => exact ⟨rfl, rfl⟩
    | some login => exact ⟨rfl, rfl, rfl, rfl⟩
  · exact ⟨rfl, rfl, rfl, rfl⟩

end Client

namespace Record

/-- Validation touches the blob at the path of the record. -/
theorem validate_preserves {q : Record} {domain : String} (hb : BlobPath.parse q.path = .ok blob)
    (h : target (login.account, blob)) : (q.validate login domain).Preserves target := by
  unfold validate
  cases hcheck : q.checkFields domain with
  | mk q' verdict =>
    cases verdict with
    | error e => exact Program.preserves_pure
    | ok b =>
      obtain ⟨hpath, -⟩ := checkFields_eq_ok hcheck
      obtain rfl : b = blob := Except.ok.inj (hpath.symm.trans hb)
      have hhost : q'.resolveHost.Only fun e => e.onlyReads = true :=
        Action.only_bind (Program.only_perform rfl) fun _ => Action.only_guard Action.only_pure
      refine Program.preserves_bind (Action.preserves_outcome (Action.preserves_of_only hhost)) fun answer => ?_
      cases answer with
      | error e => exact Program.preserves_pure
      | ok q'' =>
        exact Program.preserves_bind (Action.preserves_outcome (Lease.verifyWritable_preserves h))
          fun _ => Program.preserves_pure

end Record

namespace Client

variable {c : Client} {r : Record} {o : LeaseOptions}

theorem submitMount_preserves (hb : BlobPath.parse r.path = .ok blob) (h : target (login.account, blob)) :
    (c.submitMount login r).Preserves target := by
  refine Action.preserves_bind (Action.preserves_always (Record.validate_preserves hb h)) ?_
  rintro ⟨q, verdict⟩
  refine Action.preserves_of_only (Action.only_bind Action.only_ofExcept fun _ => ?_)
  refine Action.only_bind Action.only_ofExcept fun buffer => ?_
  refine Action.only_bind (Channel.exchangeBuffer_only rfl) fun payload => ?_
  exact Action.only_bind Action.only_ofExcept fun _ => Action.only_pure

theorem leaseAndSubmit_preserves (hb : BlobPath.parse r.path = .ok blob) (h : target (login.account, blob)) :
    (c.leaseAndSubmit login blob r o).Preserves target := by
  unfold leaseAndSubmit
  split
  · refine Action.preserves_bind (Lease.acquire_preserves h) fun leaseId => ?_
    refine Action.preserves_bind (Action.preserves_always (Action.preserves_outcome
      (submitMount_preserves (r := { r with leaseId }) hb h))) fun answer => ?_
    cases answer with
    | ok mounted => exact Action.preserves_pure
    | error e =>
      exact Action.preserves_bind (Action.preserves_always (Lease.breakBestEffort_preserves h))
        fun _ => Action.preserves_throw
  · exact submitMount_preserves hb h

/-- The mount of a record touches the blob at its path. -/
theorem mountRecord_preserves
    (h : ∀ account b, c.accountOf r = some account → BlobPath.parse r.path = .ok b → target (account, b)) :
    (c.mountRecord r o).Preserves target := by
  intro x
  unfold mountRecord
  refine Action.ensures_bind.mpr (fillCredentials_ensures.mono ?_ ?_)
  · rintro _ q x ⟨-, rfl, haccount, hpath⟩
    refine Channel.preserves_withChannel ?_ x
    refine Action.preserves_bind (Action.preserves_of_only (Program.only_perform rfl)) fun _ => ?_
    refine Action.preserves_ofExcept_bind fun b hb => ?_
    refine Action.preserves_bind (Action.preserves_of_only Lease.locate_onlyReads) fun properties => ?_
    refine Action.preserves_ofExcept_bind fun q' hq' => ?_
    obtain ⟨hpath', -, -⟩ := fillSize_eq_ok hq'
    exact leaseAndSubmit_preserves (hpath' ▸ hb) (h _ _ haccount (hpath ▸ hb))
  · rintro _ _ _ ⟨-, rfl⟩
    exact .refl target _

theorem nameOr_named {σ : Type} {W : Outside σ} {s : σ} {name : Option String} :
    (nameOr name).Ensures W s (fun scenes n _ =>
      name = some n ∨ name = none ∧ ⟨.freshName, n⟩ ∈ Scene.events scenes) fun _ _ _ => True := by
  cases name with
  | some n => exact .inl rfl
  | none =>
    exact Action.ensures_always.mpr (Program.ensures_perform.mpr fun n s' _ =>
      .inr ⟨rfl, List.mem_singleton_self _⟩)

end Client

/-- The device manager reports the record. -/
def Reported (events : List Event) (r : Record) : Prop :=
  ∃ buffer reply payload, ⟨.submit .get buffer, .ok reply⟩ ∈ events ∧
    (Envelope.ofBuffer reply.buffer reply.length).result = .ok payload ∧ Record.ofText payload = .ok r

/-- The blob that an operation is about, which can depend on what it is told: that of the record or of the
request to mount, or where a lease is to be broken that of the device. -/
def Operation.Targets (c : Client) (events : List Event) : Operation → String × BlobPath → Prop
  | mount q, k => ∃ login name, c.credentials = some login ∧
    (q.deviceName = some name ∨ q.deviceName = none ∧ ⟨.freshName, name⟩ ∈ events) ∧ k = q.place login name
  | mountRecord r _, k => c.accountOf r = some k.1 ∧ BlobPath.parse r.path = .ok k.2
  | unmount _ true, k => ∃ r, Reported events r ∧ k.1 = r.accountName ∧ BlobPath.parse r.path = .ok k.2
  | _, _ => False

namespace Client

variable {c : Client} {x : Contents}

/-- A mount of a blob that is there touches that blob. -/
theorem mount_preserves {q : MountRequest} (hq : q.autoCreate = false) :
    (c.mount q).Ensures Contents.Step x
      (fun scenes _ x' => Survives ((Operation.mount q).Targets c (Scene.events scenes)) x x')
      fun scenes _ x' => Survives ((Operation.mount q).Targets c (Scene.events scenes)) x x' := by
  cases hc : c.credentials with
  | none =>
    have hlogin : c.login = throw (.config "storage account name and key are required") := by
      rw [login, hc]
    rw [mount, hlogin]
    exact .refl _ x
  | some login =>
    have hlogin : c.login = pure login := by rw [Client.login, hc]
    rw [mount, hlogin, pure_bind]
    have hquiet : (nameOr q.deviceName).Preserves fun _ => False :=
      Action.preserves_of_only (nameOr_only rfl)
    refine Action.ensures_bind.mpr ((nameOr_named.and (hquiet x)).mono ?_
      fun _ _ _ h => h.2.mono fun _ => False.elim)
    rintro front name x₁ ⟨hname, hfront⟩
    -- The name is in the events before.
    have htarget : ∀ back k, k = q.place login name →
        (Operation.mount q).Targets c (Scene.events (front ++ back)) k := by
      rintro back k rfl
      refine ⟨login, name, hc, hname.imp_right fun h => ⟨h.1, ?_⟩, rfl⟩
      rw [Scene.events, List.map_append]
      exact List.mem_append_left _ h.2
    have hrest : ∀ {a : Action Record}, a.Preserves (· = q.place login name) →
        a.Ensures Contents.Step x₁
          (fun back _ x' => Survives ((Operation.mount q).Targets c (Scene.events (front ++ back))) x x')
          fun back _ x' => Survives ((Operation.mount q).Targets c (Scene.events (front ++ back))) x x' :=
      fun h => (h x₁).mono
        (fun back _ _ hback => (hfront.mono fun _ => False.elim).trans (hback.mono (htarget back)))
        fun back _ _ hback => (hfront.mono fun _ => False.elim).trans (hback.mono (htarget back))
    refine hrest (Action.preserves_ofExcept_bind fun _ _ => ?_)
    simp only [prepareBlob, hq, Bool.false_eq_true, if_false, pure_bind]
    refine Action.preserves_bind (Action.preserves_always (Action.preserves_outcome
      (mountRecord_preserves ?_))) fun answer => ?_
    · intro account b haccount hb
      obtain rfl := BlobPath.eq_of_parse_text hb
      rw [accountOf_own hc rfl] at haccount
      cases haccount
      rfl
    · cases answer with
      | ok mounted => exact Action.preserves_pure
      | error e => exact Action.preserves_throw

/-- What is answered of a device was reported. -/
theorem getRecord_reports {name : String} :
    (Channel.getRecord name).Ensures Contents.Step x
      (fun scenes r x' => x' = x ∧ Reported (Scene.events scenes) r) fun _ _ x' => x' = x := by
  unfold Channel.getRecord Channel.exchange
  refine Action.ensures_bind.mpr (Action.ensures_bind.mpr (Action.ensures_ofExcept.mpr
    ⟨fun buffer _ => ?_, fun _ _ => rfl⟩))
  refine Channel.ensures_exchangeBuffer.mpr ⟨fun _ _ h => h, fun reply x₁ h => ⟨fun payload hp => ?_, fun _ _ => h⟩⟩
  exact Action.ensures_ofExcept.mpr
    ⟨fun r hr => ⟨h, buffer, reply, payload, List.mem_singleton_self _, hp, hr⟩, fun _ _ => h⟩

theorem removeDevice_reports {name : String} {fetch : Bool} :
    (removeDevice name fetch).Ensures Contents.Step x
      (fun scenes m x' => x' = x ∧ ∀ r, m = some r → fetch = true ∧ Reported (Scene.events scenes) r)
      fun _ _ x' => x' = x := by
  have hquiet : (Channel.exchange .unmount (Envelope.nameRequest name)).Only fun e => e.onlyReads = true :=
    Channel.exchange_only fun _ => rfl
  have hunmount : ∀ x, (Channel.exchange .unmount (Envelope.nameRequest name)).Ensures Contents.Step x
      (fun _ _ x' => x' = x) fun _ _ x' => x' = x :=
    fun _ => hquiet.frame fun _ _ _ hstep he => hstep.eq_of_onlyReads he
  unfold removeDevice
  cases fetch with
  | false =>
    simp only [Bool.false_eq_true, if_false, pure_bind]
    refine Action.ensures_bind.mpr ((hunmount _).mono ?_ fun _ _ _ h => h)
    rintro _ _ _ rfl
    exact ⟨rfl, nofun⟩
  | true =>
    refine Action.ensures_bind.mpr (Action.ensures_map.mpr (getRecord_reports.mono ?_ fun _ _ _ h => h))
    rintro front r _ ⟨rfl, buffer, reply, payload, hmem, hreported⟩
    refine Action.ensures_bind.mpr ((hunmount _).mono ?_ fun _ _ _ h => h)
    rintro back _ _ rfl
    refine ⟨rfl, fun r' hr' => ⟨rfl, ?_⟩⟩
    cases hr'
    refine ⟨buffer, reply, payload, ?_, hreported⟩
    rw [Scene.events, List.map_append]
    exact List.mem_append_left _ hmem

/-- Unmounting touches the blob of the device if its lease is to be broken. -/
theorem unmount_preserves {name : String} {breakLease : Bool} :
    (unmount name breakLease).Ensures Contents.Step x
      (fun scenes _ x' => Survives ((Operation.unmount name breakLease).Targets c (Scene.events scenes)) x x')
      fun scenes _ x' => Survives ((Operation.unmount name breakLease).Targets c (Scene.events scenes)) x x' := by
  unfold unmount
  refine Action.ensures_bind.mpr (Action.ensures_ofExcept.mpr ⟨fun _ _ => ?_, fun _ _ => .refl _ x⟩)
  refine Action.ensures_bind.mpr (Channel.ensures_withChannel.mpr ⟨fun _ x₁ hopen => ?_, fun _ _ hopen => ?_⟩)
  · obtain rfl := hopen
    refine removeDevice_reports.mono ?_ ?_
    · rintro scenes m _ ⟨rfl, hreported⟩ _ rfl
      cases m with
      | none => exact .refl _ _
      | some r =>
        obtain ⟨rfl, buffer, reply, payload, hmem, hr⟩ := hreported r rfl
        have hbreak : (breakRecordLease r).Preserves fun k =>
            k.1 = r.accountName ∧ BlobPath.parse r.path = .ok k.2 := by
          refine Program.preserves_bind (Action.preserves_outcome (Action.preserves_of_only
            (Program.only_perform rfl))) fun answer => ?_
          cases answer with
          | error e => exact Program.preserves_pure
          | ok _ =>
            cases hb : BlobPath.parse r.path with
            | error e => exact Program.preserves_pure
            | ok b => exact Lease.breakBestEffort_preserves ⟨rfl, rfl⟩
        refine Action.ensures_bind.mpr (Action.ensures_always.mpr ((hbreak _).mono fun back _ _ hback => ?_))
        refine hback.mono fun k hk => ⟨r, ⟨buffer, reply, payload, ?_, hr⟩, hk⟩
        obtain ⟨scene, hscene, hevent⟩ := List.mem_map.mp hmem
        exact List.mem_map.mpr ⟨scene, by simp [hscene], hevent⟩
    · rintro scenes e _ rfl _ rfl
      exact .refl _ _
  · obtain rfl := hopen
    exact .refl _ _

end Client

namespace Operation

variable {c : Client} {o : Operation} {S S' : Stores} {scenes : List (Scene Stores)}
  {v : Except Error o.Value}

/-- Whether the operation can make or remove blobs. -/
def isCreating : Operation → Bool
  | mount q => q.autoCreate
  | create _ | delete .. => true
  | mountRecord .. | unmount .. | get _ | list => false

theorem preserves (ho : o.isCreating = false) {x : Contents} :
    (o.action c).Ensures Contents.Step x
      (fun scenes _ x' => Survives (o.Targets c (Scene.events scenes)) x x')
      fun scenes _ x' => Survives (o.Targets c (Scene.events scenes)) x x' := by
  cases o with
  | mount q => exact Client.mount_preserves ho
  | mountRecord r options =>
    have hrecord : (c.mountRecord r options).Preserves fun k =>
        c.accountOf r = some k.1 ∧ BlobPath.parse r.path = .ok k.2 :=
      Client.mountRecord_preserves fun account b haccount hb => ⟨haccount, hb⟩
    exact hrecord x
  | unmount name breakLease => exact Client.unmount_preserves
  | get name =>
    have hget : (Client.get name).Preserves fun _ => False :=
      Action.preserves_of_only (Client.get_only rfl (fun _ _ => rfl) rfl)
    exact hget x
  | list =>
    have hlist : Client.list.Preserves fun _ => False :=
      Action.preserves_of_only (Client.list_only rfl (fun _ _ => rfl) rfl)
    exact hlist x
  | create q => cases ho
  | delete container name leaseId forceBreak => cases ho

/-- Whatever calls fail and whatever the resolver and the device manager answer, an operation that makes
and removes no blobs leaves containers, blobs and their bytes as they were, whether it succeeds or fails.
At most its target has changed, and that in its lease and the mark in its metadata. -/
theorem data_survives (ho : o.isCreating = false)
    (h : (o.action c).run.RunsIn Stores.Step S scenes v S') :
    Survives (o.Targets c (Scene.events scenes)) S.contents S'.contents := by
  have hsurvives := Program.ensures_iff.mp (preserves (c := c) ho) _ _ _ h.contents
  rw [← Scene.events_map Stores.contents scenes]
  cases v <;> exact hsurvives

/-- A mount takes a lease on its blob and leaves its mark there. -/
theorem data_survives_mount : ∃ scenes v S',
    ((mountRecord Sample.record { autoLease := true }).action Sample.client).run.RunsIn Stores.Step
      (fun _ => Sample.store 1) scenes v S' ∧
    (mountRecord Sample.record { autoLease := true }).isCreating = false ∧
    S'.contents.blobs ("account", Sample.blob) = some
      { size := 1073741824, kind := .page, writes := [], metadata := [("dysk", "dysk")],
        leaseId := some "lease", leaseState := .leased } ∧
    Survives ((mountRecord Sample.record { autoLease := true }).Targets Sample.client (Scene.events scenes))
      (Stores.contents fun _ => Sample.store 1) S'.contents := by
  have hruns := Sample.staged_runs Sample.accepted
    ((mountRecord Sample.record { autoLease := true }).action Sample.client)
  exact ⟨_, _, _, hruns, rfl, by decide +kernel, data_survives rfl hruns⟩

end Operation

end BlobDisk
