import BlobDisk.Proofs.Device.Session
import BlobDisk.Proofs.Mount.Addressing
import BlobDisk.Proofs.Runs

/-!
# A mount that makes its blob, in two steps

A mount that makes its blob and leases it does what making the blob and mounting it under the new lease do
one after the other. The two steps find the name of the blob and its lease on their own, and come to the
same.

* `Action.runsIn_bind_ok`, `Action.runsIn_rescue_ok`: the runs of a sequence that succeed;
* `Provision.create_blobName`: what is made under a name;
* `Client.mountNamed_runsIn`: the runs of a mount that succeed, from where its name is known;
* `MountRequest.creation`, `MountRequest.under`: the two steps of a mount;
* `Client.mount_uncreated`: a mount of a blob that exists;
* `Client.mount_composes`: a mount succeeds just where the two steps do, with the same scenes.
-/

namespace BlobDisk

/-! ## Runs that succeed -/

namespace Action

variable {α β σ : Type} {W : Outside σ} {s s' : σ} {scenes : List (Scene σ)}

theorem runsIn_bind_ok {a : Action α} {f : α → Action β} {y : β} :
    (a >>= f).run.RunsIn W s scenes (.ok y) s' ↔
      ∃ front x s₁ back, scenes = front ++ back ∧ a.run.RunsIn W s front (.ok x) s₁ ∧
        (f x).run.RunsIn W s₁ back (.ok y) s' := by
  rw [runsIn_bind]
  exact or_iff_right fun ⟨e, he, _⟩ => nomatch he

theorem runsIn_ofExcept_bind_ok {r : Except Error α} {f : α → Action β} {y : β} :
    (ofExcept r >>= f).run.RunsIn W s scenes (.ok y) s' ↔
      ∃ x, r = .ok x ∧ (f x).run.RunsIn W s scenes (.ok y) s' := by
  cases r with
  | ok x =>
    refine ⟨fun h => ⟨x, rfl, h⟩, fun ⟨x', hx, h⟩ => ?_⟩
    obtain rfl := Except.ok.inj hx
    exact h
  | error e =>
    refine iff_of_false (fun h => ?_) fun ⟨x, hx, _⟩ => nomatch hx
    obtain ⟨-, he, -⟩ := Program.runsIn_done.mp h
    cases he

/-- Where an action is rescued by one that always fails, it succeeds if it does without. -/
theorem runsIn_rescue_ok {a : Action α} {g : Except Error α → Action α} (hok : ∀ x, g (.ok x) = pure x)
    (herror : ∀ e events x, ¬ (g (.error e)).run.Runs events (.ok x)) {y : α} :
    (always a.outcome >>= g).run.RunsIn W s scenes (.ok y) s' ↔ a.run.RunsIn W s scenes (.ok y) s' := by
  have halways : (always a.outcome >>= g).run = a.run >>= fun r => (g r).run := by
    rw [ExceptT.run_bind]
    exact Program.bind_assoc _ _ _
  rw [halways, Program.runsIn_bind]
  constructor
  · intro h
    obtain ⟨front, r, s₁, back, rfl, ha, hg⟩ := h
    cases r with
    | error e => exact (herror e _ _ hg.1).elim
    | ok x =>
      rw [hok] at hg
      obtain ⟨rfl, hx, rfl⟩ := Program.runsIn_done.mp hg
      rw [List.append_nil, hx]
      exact ha
  · intro ha
    refine ⟨scenes, .ok y, s', [], (List.append_nil scenes).symm, ha, ?_⟩
    rw [hok]
    exact Program.runsIn_done.mpr ⟨rfl, rfl, rfl⟩

/-- An error that is caught to be thrown again. -/
theorem outcome_rethrow (a : Action α) (g : Except Error α → Action α) (hok : ∀ x, g (.ok x) = pure x)
    (herror : ∀ e, g (.error e) = throw e) : (always a.outcome >>= g) = a := by
  have hg : (fun r => (g r).run) = Program.done := by
    funext r
    cases r with
    | ok x => rw [hok]; rfl
    | error e => rw [herror]; rfl
  have halways : (always a.outcome >>= g).run = a.run.bind fun r => (g r).run := Program.bind_assoc _ _ _
  exact ExceptT.ext (by rw [halways, hg, Program.done_bind])

end Action

/-! ## What is made -/

namespace Provision

variable {login : Credentials} {gb : UInt64} {container name : String} {vhd lease : Bool}

/-- A blob is named the same if the end of its name is there already. -/
theorem create_blobName :
    create login gb container (blobName name vhd) vhd lease = create login gb container name vhd lease := by
  unfold create
  rw [blobName_blobName]

end Provision

namespace MountRequest

/-- The blob of a mount, to be made on its own and leased. -/
def creation (q : MountRequest) (name : String) : CreateRequest where
  name := some (q.objectName.getD name)
  container := q.container
  sizeGb := q.sizeGb
  vhd := q.vhd
  lease := true

/-- The same mount without making the blob, under a lease. -/
def under (q : MountRequest) (id : String) : MountRequest := { q with autoCreate := false, leaseId := some id }

/-- The record that a mount asks for. -/
def recordOf (q : MountRequest) (login : Credentials) (name : String) (blob : BlobPath) (leaseId : String) :
    Record :=
  { mode := q.mode, name, path := blob.text, vhd := q.vhd, accountName := login.account,
    accountKey := login.key, leaseId }

end MountRequest

namespace Client

variable {σ : Type} {W : Outside σ} {s s' : σ} {scenes : List (Scene σ)} {c : Client} {q : MountRequest}
  {login : Credentials} {name object id : String} {r : Record}

/-- A mount succeeds if its blob can be prepared and its record mounted. -/
theorem mountNamed_runsIn : (c.mountNamed q login name).run.RunsIn W s scenes (.ok r) s' ↔
    Rules.deviceName name = .ok () ∧ ∃ front prepared s₁ back, scenes = front ++ back ∧
      (prepareBlob login q (Provision.blobName (q.objectName.getD name) q.vhd)).run.RunsIn W s front
        (.ok prepared) s₁ ∧
      (c.mountRecord (q.recordOf login name prepared.1 prepared.2.1) ⟨q.autoLease, q.breakLease⟩).run.RunsIn
        W s₁ back (.ok r) s' := by
  have hfails : ∀ (login : Credentials) (blob : BlobPath) (createdLease : Bool) e events x,
      ¬ Program.Runs (ExceptT.run (m := Program) do
        if createdLease then
          Action.always (releaseCreated login blob)
        throw e) events (.ok x : Except Error Record) := by
    intro login blob createdLease e events x h
    cases createdLease with
    | false => cases h
    | true =>
      obtain ⟨front, a, back, rfl, -, hthrow⟩ := Action.runs_always_bind.mp h
      cases hthrow
  unfold mountNamed
  rw [Action.runsIn_ofExcept_bind_ok]
  refine Iff.trans ⟨fun ⟨_, h⟩ => h, fun h => ⟨(), h⟩⟩ (and_congr_right fun _ => ?_)
  rw [Action.runsIn_bind_ok]
  refine exists_congr fun front => exists_congr fun prepared => exists_congr fun s₁ => exists_congr fun back => ?_
  refine and_congr_right fun _ => and_congr_right fun _ => ?_
  obtain ⟨blob, leaseId, createdLease⟩ := prepared
  refine Action.runsIn_rescue_ok (a := c.mountRecord _ _) ?_ ?_
  · exact fun _ => rfl
  · exact hfails login blob createdLease

theorem create_creation (hc : c.credentials = some login) : c.create (q.creation name) = (do
    Action.connect login
    Provision.create login q.sizeGb q.container (q.objectName.getD name) q.vhd true) := by
  have hlogin : c.login = pure login := by rw [Client.login, hc]
  rw [create, hlogin]
  rfl

/-- What is made for a mount is its blob, with a lease. -/
theorem create_creation_answers (hc : c.credentials = some login) {made : CreatedBlob}
    (h : (c.create (q.creation name)).run.RunsIn W s scenes (.ok made) s') :
    made.blob = ⟨q.container, Provision.blobName (q.objectName.getD name) q.vhd⟩ ∧ ∃ id, made.leaseId = some id := by
  rw [create_creation hc, Action.runsIn_bind_ok] at h
  obtain ⟨front, _, s₁, back, rfl, -, hmade⟩ := h
  have hanswers : made.blob = ⟨q.container, Provision.blobName (q.objectName.getD name) q.vhd⟩ ∧
      made.leaseId.isSome = true :=
    Program.Obeys.runs (Provision.create_answers (E := fun _ => True) trivial fun _ => trivial) hmade.1
  exact ⟨hanswers.1, Option.isSome_iff_exists.mp hanswers.2⟩

/-- What is prepared by making the blob is the blob with its new lease. -/
theorem prepareBlob_creation (hc : c.credentials = some login) (hcreate : q.autoCreate = true)
    (hlease : q.autoLease = true) {prepared : BlobPath × String × Bool} :
    (prepareBlob login q (Provision.blobName (q.objectName.getD name) q.vhd)).run.RunsIn W s scenes
      (.ok prepared) s' ↔ ∃ made id, (c.create (q.creation name)).run.RunsIn W s scenes (.ok made) s' ∧
        made.leaseId = some id ∧ prepared = (made.blob, id, true) := by
  have hprepare : prepareBlob login q (Provision.blobName (q.objectName.getD name) q.vhd) =
      (c.create (q.creation name) >>= fun created =>
        pure (created.blob, created.leaseId.getD (q.leaseId.getD ""), created.leaseId.isSome)) := by
    rw [create_creation hc, bind_assoc, prepareBlob, if_pos hcreate, hlease, Provision.create_blobName]
    refine congrArg (Action.connect login >>= ·) (funext fun _ => congrArg (_ >>= ·) (funext fun made => ?_))
    cases made.leaseId with
    | none => rfl
    | some id => rfl
  rw [hprepare, Action.runsIn_bind_ok]
  constructor
  · intro h
    obtain ⟨front, made, s₁, back, rfl, hmade, hlast⟩ := h
    obtain ⟨-, id, hid⟩ := create_creation_answers hc hmade
    rw [hid] at hlast
    obtain ⟨rfl, hprepared, rfl⟩ := Program.runsIn_done.mp hlast
    rw [List.append_nil]
    exact ⟨made, id, hmade, hid, Except.ok.inj hprepared⟩
  · intro h
    obtain ⟨made, id, hmade, hid, rfl⟩ := h
    refine ⟨scenes, made, s', [], (List.append_nil scenes).symm, hmade, ?_⟩
    rw [hid]
    exact Program.runsIn_done.mpr ⟨rfl, rfl, rfl⟩

/-! ## Mounts of blobs that exist -/

/-- A mount that makes no blob mounts the record that it asks for. -/
theorem mount_uncreated (hcreate : q.autoCreate = false) : c.mount q = (do
    let login ← c.login
    let name ← nameOr q.deviceName
    Action.ofExcept (Rules.deviceName name)
    c.mountRecord (q.recordOf login name ⟨q.container, Provision.blobName (q.objectName.getD name) q.vhd⟩
      (q.leaseId.getD "")) ⟨q.autoLease, q.breakLease⟩) := by
  unfold mount prepareBlob
  simp only [hcreate, Bool.false_eq_true, if_false, pure_bind]
  congr
  funext login
  congr
  funext name
  congr
  funext _
  exact Action.outcome_rethrow _ _ (fun _ => rfl) fun _ => rfl

/-- A record that has a lease is mounted under it, whatever is allowed to get another. -/
theorem mountRecord_leased (h : r.leaseId ≠ "") (o o' : LeaseOptions) : c.mountRecord r o = c.mountRecord r o' := by
  have hsubmit : ∀ {login blob} {q : Record} (o : LeaseOptions), q.leaseId = r.leaseId →
      c.leaseAndSubmit login blob q o = c.submitMount login q := by
    intro login blob q o hq
    rw [leaseAndSubmit, if_neg fun hempty => h (hq.symm.trans hempty.1)]
  have hsized : ∀ {login blob} {q : Record} {p : Properties}, q.leaseId = r.leaseId →
      (Action.ofExcept (fillSize blob p q) >>= fun q => c.leaseAndSubmit login blob q o) =
        (Action.ofExcept (fillSize blob p q) >>= fun q => c.leaseAndSubmit login blob q o') := by
    intro login blob q p hq
    cases hsize : fillSize blob p q with
    | error e => rfl
    | ok q' =>
      have hq' : q'.leaseId = r.leaseId := (fillSize_eq_ok hsize).2.1.trans hq
      exact (hsubmit o hq').trans (hsubmit o' hq').symm
  unfold mountRecord fillCredentials
  split
  · simp only [bind_assoc, pure_bind]
    congr
    funext login
    congr
    funext _
    congr
    funext blob
    congr
    funext p
    exact hsized rfl
  · simp only [pure_bind]
    congr
    funext _
    congr
    funext blob
    congr
    funext p
    exact hsized rfl

/-- A mount under a lease does the same whether it may take one or break one. -/
theorem mount_under (hid : id ≠ "") (autoLease breakLease : Bool) :
    c.mount { q.under id with autoLease, breakLease } = c.mount (q.under id) := by
  rw [mount_uncreated rfl, mount_uncreated rfl]
  congr
  funext login
  congr
  funext name
  congr
  funext _
  exact mountRecord_leased hid _ _

/-- A mount that makes its blob and leases it succeeds just if making the blob with a lease does and the
mount under that lease does after it. Nothing is asked in the one that is not asked in the other, so the
record, the world that is left and all that was asked on the way are the same. The mount under the lease
is one program, whether it may take or break a lease or not. -/
theorem mount_composes (c : Client) (hname : q.deviceName = some name) (hcreate : q.autoCreate = true)
    (hlease : q.autoLease = true) :
    (∀ {σ : Type} (W : Outside σ) (s s' : σ) (scenes : List (Scene σ)) (r : Record),
      (c.mount q).run.RunsIn W s scenes (.ok r) s' ↔
        ∃ made id s₁ front back, scenes = front ++ back ∧
          (c.create (q.creation name)).run.RunsIn W s front (.ok made) s₁ ∧ made.leaseId = some id ∧
          (c.mount (q.under id)).run.RunsIn W s₁ back (.ok r) s') ∧
    ∀ id, id ≠ "" → ∀ autoLease breakLease,
      c.mount { q.under id with autoLease, breakLease } = c.mount (q.under id) := by
  refine ⟨?_, fun id hid autoLease breakLease => mount_under hid autoLease breakLease⟩
  intro σ W s s' scenes r
  cases hc : c.credentials with
  | none =>
    have hlogin : c.login = throw (.config "storage account name and key are required") := by
      rw [Client.login, hc]
    refine iff_of_false (fun h => ?_) fun h => ?_
    · rw [mount, hlogin] at h
      obtain ⟨-, hr, -⟩ := Program.runsIn_done.mp h
      cases hr
    · obtain ⟨made, id, s₁, front, back, -, hmade, -⟩ := h
      rw [create, hlogin] at hmade
      obtain ⟨-, hr, -⟩ := Program.runsIn_done.mp hmade
      cases hr
  | some login =>
    have hmount : c.mount q = c.mountNamed q login name := by
      rw [mount_eq hc, hname]
      rfl
    have hunder : ∀ id, c.mount (q.under id) = (do
        Action.ofExcept (Rules.deviceName name)
        c.mountRecord (q.recordOf login name
          ⟨q.container, Provision.blobName (q.objectName.getD name) q.vhd⟩ id) ⟨q.autoLease, q.breakLease⟩) := by
      intro id
      rw [mount_uncreated rfl, Client.login, hc, MountRequest.under, hname]
      rfl
    rw [hmount, mountNamed_runsIn]
    simp only [hunder, Action.runsIn_ofExcept_bind_ok, prepareBlob_creation hc hcreate hlease]
    constructor
    · intro h
      obtain ⟨hvalid, front, prepared, s₁, back, rfl, ⟨made, id, hmade, hid, rfl⟩, hrecord⟩ := h
      obtain ⟨hblob, -⟩ := create_creation_answers hc hmade
      rw [hblob] at hrecord
      exact ⟨made, id, s₁, front, back, rfl, hmade, hid, (), hvalid, hrecord⟩
    · intro h
      obtain ⟨made, id, s₁, front, back, rfl, hmade, hid, _, hvalid, hrecord⟩ := h
      obtain ⟨hblob, -⟩ := create_creation_answers hc hmade
      refine ⟨hvalid, front, _, s₁, back, rfl, ⟨made, id, hmade, hid, rfl⟩, ?_⟩
      rw [hblob]
      exact hrecord

theorem mount_composes_new : ∃ scenes r s', (Sample.owner.mount Sample.request).run.RunsIn Site.Step
      Sample.site scenes (.ok r) s' ∧
    ∃ made id s₁ front back, scenes = front ++ back ∧
      (Sample.owner.create (Sample.request.creation "disk")).run.RunsIn Site.Step Sample.site front (.ok made) s₁ ∧
      made.leaseId = some id ∧
      (Sample.owner.mount (Sample.request.under id)).run.RunsIn Site.Step s₁ back (.ok r) s' := by
  have hrun : (∀ event ∈ Scene.events (Sample.visit Sample.site Sample.owner (.mount Sample.request)).1,
      event.unanswered = false) ∧
      (Sample.visit Sample.site Sample.owner (.mount Sample.request)).2.1.isOk = true := by decide +kernel
  have hruns := Sample.visit_runs hrun.1
  obtain ⟨r, hr⟩ := Sample.exists_of_isOk hrun.2
  rw [hr] at hruns
  exact ⟨_, r, _, hruns, ((mount_composes Sample.owner rfl rfl rfl).1 _ _ _ _ _).mp hruns⟩

end Client

end BlobDisk
