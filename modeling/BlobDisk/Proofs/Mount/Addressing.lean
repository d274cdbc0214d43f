import BlobDisk.Proofs.Mount.Failure
import BlobDisk.Proofs.Store.Survival

/-!
# Whether a blob that is made can be mounted

A blob is made from the texts of its container and its name, whatever they are. It is mounted by a path
that is read again, and not every pair of texts can be read from a path.

* `Provision.addressable_iff`: which containers and names give such a blob;
* `Client.mountNamed`: a mount from where its name is known;
* `Provision.created_addressable`: a blob that was made has a path just if its container and name are so,
  and a mount that makes one without a path comes to nothing;
* `MountRequest.addressable_of_deviceName`: a blob that is named for its device has a path, if its container
  is fit for one.
-/

namespace BlobDisk

/-! ## Names -/

namespace Provision

variable {container name : String} {vhd : Bool}

/-- A name that ends as a name with a footer does is kept. -/
theorem blobName_blobName : blobName (blobName name vhd) vhd = blobName name vhd := by
  by_cases hadd : vhd = true ∧ ¬ vhdSuffix.toList.isSuffixOf name.toList
  · have hsuffix : vhdSuffix.toList.isSuffixOf (name ++ vhdSuffix).toList = true := by
      rw [String.toList_append, List.isSuffixOf_iff_suffix]
      exact List.suffix_append ..
    rw [blobName, blobName, if_pos hadd, if_neg (fun h => h.2 hsuffix)]
  · rw [blobName, blobName, if_neg hadd, if_neg hadd]

theorem blobName_eq_or (name : String) (vhd : Bool) : blobName name vhd = name ∨ vhd = true ∧ blobName name vhd = name ++ vhdSuffix := by
  unfold blobName
  split
  · rename_i hadd
    exact .inr ⟨hadd.1, rfl⟩
  · exact .inl rfl

theorem blobName_ne_empty : blobName name vhd ≠ "" ↔ vhd = true ∨ name ≠ "" := by
  by_cases hname : name = ""
  · subst hname
    cases vhd <;> decide
  · refine iff_of_true ?_ (.inr hname)
    rcases blobName_eq_or name vhd with h | ⟨-, h⟩
    · rw [h]
      exact hname
    · rw [h]
      exact fun hempty => hname (String.append_eq_empty_iff.mp hempty).1

theorem slash_mem_blobName (name : String) (vhd : Bool) : '/' ∈ (blobName name vhd).toList ↔ '/' ∈ name.toList := by
  rcases blobName_eq_or name vhd with h | ⟨-, h⟩
  · rw [h]
  · rw [h, String.toList_append, List.mem_append]
    exact or_iff_left (by decide)

/-- Which containers and names give a blob that has a path. -/
theorem addressable_iff : BlobPath.Addressable ⟨container, blobName name vhd⟩ ↔
    (container ≠ "" ∧ '/' ∉ container.toList) ∧ ((vhd = true ∨ name ≠ "") ∧ '/' ∉ name.toList) ∧
      (BlobPath.text ⟨container, blobName name vhd⟩).utf8ByteSize ≤ Record.pathLimit := by
  rw [← blobName_ne_empty, ← not_congr (slash_mem_blobName name vhd)]
  exact ⟨fun h => ⟨⟨h.1, h.2⟩, ⟨h.3, h.4⟩, h.5⟩, fun ⟨⟨hc, hcs⟩, ⟨hn, hns⟩, hl⟩ => ⟨hc, hcs, hn, hns, hl⟩⟩

variable {login : Credentials} {gb : UInt64} {lease : Bool} {E : Effect → Prop}

/-- What is made is the blob of the container and the name, with a lease if there should be one. -/
theorem create_answers (hstamp : E .footerStamp) (hstore : ∀ call, E (.store login call)) :
    (create login gb container name vhd lease).Obeys (.only E) ()
      (fun created _ => created.blob = ⟨container, blobName name vhd⟩ ∧ created.leaseId.isSome = lease)
      fun _ _ => True := by
  have hlease : ∀ blob : BlobPath, Action.Obeys (.only E) (do
      let leaseId ← if lease then some <$> Lease.acquire login blob false else pure none
      return (⟨blob, gb, vhd, leaseId⟩ : CreatedBlob)) ()
      (fun created _ => created.blob = blob ∧ created.leaseId.isSome = lease) fun _ _ => True := by
    intro blob
    cases lease with
    | false => exact ⟨rfl, rfl⟩
    | true =>
      refine Action.obeys_bind.mpr (Action.obeys_map.mpr ((Action.only_iff.mp
        (Lease.acquire_only hstore)).mono ?_ fun _ _ _ => trivial))
      exact fun _ _ _ => ⟨rfl, rfl⟩
  unfold create
  refine Action.obeys_bind.mpr (Action.obeys_ofExcept.mpr ⟨fun _ _ => ?_, fun _ _ => trivial⟩)
  refine Action.obeys_bind.mpr (Action.obeys_ofExcept.mpr ⟨fun size _ => ?_, fun _ _ => trivial⟩)
  refine Action.obeys_bind.mpr (Action.obeys_store.mpr ⟨hstore _, fun _ => ?_, fun _ => trivial⟩)
  refine Action.obeys_bind.mpr (Action.obeys_store.mpr ⟨hstore _, fun _ => ?_, fun _ => trivial⟩)
  cases vhd with
  | false => exact hlease _
  | true =>
    refine Action.obeys_bind.mpr (Action.obeys_ofExcept.mpr ⟨fun payload _ => ?_, fun _ _ => trivial⟩)
    exact Action.obeys_bind.mpr ((Action.only_iff.mp (writeFooter_only hstamp hstore)).mono
      (fun _ _ _ => hlease _) fun _ _ _ => trivial)

theorem create_obeys (hstamp : E .footerStamp) (hstore : ∀ call, E (.store login call)) :
    (create login gb container name vhd lease).Obeys (.only E) ()
      (fun created _ => created.blob = ⟨container, blobName name vhd⟩) fun _ _ => True :=
  (create_answers hstamp hstore).mono (fun _ _ h => h.1) fun _ _ _ => trivial

end Provision

/-! ## Mounts -/

namespace Client

variable {c : Client} {q : MountRequest} {login : Credentials} {name : String}

/-- The mount of a request under a name for its device. -/
def mountNamed (c : Client) (q : MountRequest) (login : Credentials) (name : String) : Action Record := do
  Action.ofExcept (Rules.deviceName name)
  let object := Provision.blobName (q.objectName.getD name) q.vhd
  let (blob, leaseId, createdLease) ← prepareBlob login q object
  let r : Record :=
    { mode := q.mode, name, path := blob.text, vhd := q.vhd, accountName := login.account,
      accountKey := login.key, leaseId }
  match ← Action.always (c.mountRecord r ⟨q.autoLease, q.breakLease⟩).outcome with
  | .ok mounted => return mounted
  | .error e =>
    if createdLease then
      Action.always (releaseCreated login blob)
    throw e

theorem mount_eq (hc : c.credentials = some login) :
    c.mount q = (nameOr q.deviceName >>= fun name => c.mountNamed q login name) := by
  have hlogin : c.login = pure login := by rw [Client.login, hc]
  rw [mount, hlogin, pure_bind]
  rfl

/-- A record is not mounted by a path that is none. -/
theorem mountRecord_pathless {r : Record} {o : LeaseOptions} (h : ∀ b, BlobPath.parse r.path ≠ .ok b) :
    (c.mountRecord r o).Obeys (.only (·.isRequest = false)) () (fun _ _ => False) fun _ _ => True := by
  unfold mountRecord
  refine Action.obeys_bind.mpr (fillCredentials_obeys.mono ?_ fun _ _ _ => trivial)
  rintro q _ ⟨-, hpath, -⟩
  refine Channel.obeys_withChannel.mpr ⟨rfl, fun _ => ?_, fun _ => trivial⟩
  refine Action.obeys_bind.mpr (Action.obeys_connect.mpr ⟨rfl, fun _ => ?_, fun _ => ⟨rfl, trivial⟩⟩)
  refine Action.obeys_bind.mpr (Action.obeys_ofExcept.mpr ⟨fun b hb => ?_, fun _ _ => ⟨rfl, trivial⟩⟩)
  exact (h b (hpath ▸ hb)).elim

theorem prepareBlob_obeys {object : String} (hcreate : q.autoCreate = true) :
    (prepareBlob login q object).Obeys (.only (·.isRequest = false)) ()
      (fun prepared _ => prepared.1 = ⟨q.container, Provision.blobName object q.vhd⟩) fun _ _ => True := by
  unfold prepareBlob
  rw [if_pos hcreate]
  refine Action.obeys_bind.mpr (Action.obeys_connect.mpr ⟨rfl, fun _ => ?_, fun _ => trivial⟩)
  refine Action.obeys_bind.mpr ((Provision.create_obeys (E := (·.isRequest = false)) rfl
    fun _ => rfl).mono ?_ fun _ _ _ => trivial)
  rintro created _ hblob
  cases created.leaseId <;> exact hblob

/-- A mount that makes a blob without a path fails, and asks nothing of the device manager. -/
theorem mountNamed_pathless (hcreate : q.autoCreate = true) (h : ¬ (q.place login name).2.Addressable) :
    (c.mountNamed q login name).Obeys (.only (·.isRequest = false)) () (fun _ _ => False)
      fun _ _ => True := by
  unfold mountNamed
  refine Action.obeys_bind.mpr (Action.obeys_ofExcept.mpr ⟨fun _ _ => ?_, fun _ _ => trivial⟩)
  refine Action.obeys_bind.mpr ((prepareBlob_obeys hcreate).mono ?_ fun _ _ _ => trivial)
  rintro ⟨blob, leaseId, createdLease⟩ _ hblob
  obtain rfl : blob = (q.place login name).2 := by
    rw [Provision.blobName_blobName] at hblob
    exact hblob
  refine Action.obeys_bind.mpr (Action.obeys_always.mpr (Action.obeys_outcome.mpr
    ((mountRecord_pathless fun b hb => ?_).mono (fun _ _ => False.elim) fun e _ _ => ?_)))
  · obtain rfl := BlobPath.eq_of_parse_text hb
    exact h (BlobPath.parse_eq_ok_iff.mp hb).2
  · cases createdLease with
    | false => exact trivial
    | true =>
      exact Action.obeys_bind.mpr (Action.obeys_always.mpr
        (Program.Obeys.mono (releaseCreated_only rfl fun _ => rfl) fun _ _ _ => trivial))

end Client

/-- A blob that was made has a path, which is read as that blob, just if its container and its name are not
empty, but for a name that gets an end, and have no slash, and the path is not too long. A mount that makes
a blob without a path fails, and asks nothing of the device manager. -/
theorem Provision.created_addressable (login : Credentials) :
    (∀ (gb : UInt64) (container name : String) (vhd lease : Bool) (events : List Event) (created : CreatedBlob),
      (create login gb container name vhd lease).run.Runs events (.ok created) →
      ((∃ b, BlobPath.parse created.blob.text = .ok b) ↔
        (container ≠ "" ∧ '/' ∉ container.toList) ∧ ((vhd = true ∨ name ≠ "") ∧ '/' ∉ name.toList) ∧
          created.blob.text.utf8ByteSize ≤ Record.pathLimit) ∧
      ∀ b, BlobPath.parse created.blob.text = .ok b → b = created.blob) ∧
    ∀ (c : Client) (q : MountRequest) (events : List Event) (v : Except Error Record),
      c.credentials = some login → q.autoCreate = true → (c.mount q).run.Runs events v →
      ∃ name, (q.deviceName = some name ∨ q.deviceName = none ∧ events.head? = some ⟨.freshName, name⟩) ∧
        (¬ (q.place login name).2.Addressable →
          (∃ e, v = .error e) ∧ ∀ event ∈ events, event.effect.isRequest = false) := by
  refine ⟨fun gb container name vhd lease events created h => ?_, fun c q events v hc hcreate h => ?_⟩
  · have hblob : created.blob = ⟨container, blobName name vhd⟩ :=
      Program.Obeys.runs (create_obeys (E := fun _ => True) trivial fun _ => trivial) h
    refine ⟨?_, fun b => BlobPath.eq_of_parse_text⟩
    rw [hblob, ← addressable_iff]
    constructor
    · rintro ⟨b, hb⟩
      obtain rfl := BlobPath.eq_of_parse_text hb
      exact (BlobPath.parse_eq_ok_iff.mp hb).2
    · exact fun haddress => ⟨_, BlobPath.parse_eq_ok_iff.mpr ⟨rfl, haddress⟩⟩
  · -- From where the name is known, a mount of a blob without a path fails.
    have hfails : ∀ {name events v}, (c.mountNamed q login name).run.Runs events v →
        ¬ (q.place login name).2.Addressable →
        (∃ e, v = .error e) ∧ ∀ event ∈ events, event.effect.isRequest = false := by
      intro name events v hruns hpath
      have hobeys := Client.mountNamed_pathless (c := c) hcreate hpath
      refine ⟨?_, Program.Only.runs (Program.Obeys.mono hobeys fun _ _ _ => trivial) hruns⟩
      have hpost := Program.Obeys.runs hobeys hruns
      cases v with
      | ok m => exact hpost.elim
      | error e => exact ⟨e, rfl⟩
    rw [Client.mount_eq hc] at h
    cases hname : q.deviceName with
    | some name =>
      rw [hname] at h
      exact ⟨name, .inl rfl, hfails h⟩
    | none =>
      rw [hname] at h
      cases h with
      | ask name hruns =>
        refine ⟨name, .inr ⟨rfl, rfl⟩, fun hpath => ?_⟩
        obtain ⟨herror, hquiet⟩ := hfails hruns hpath
        exact ⟨herror, List.forall_mem_cons.mpr ⟨rfl, hquiet⟩⟩

/-- A blob that is named for its device has a path in a container without a slash, unless the name of the
container is close to the limit. -/
theorem MountRequest.addressable_of_deviceName {q : MountRequest} {login : Credentials} {name : String}
    (hname : Rules.deviceName name = .ok ()) (hobject : q.objectName = none) (hne : q.container ≠ "")
    (hslash : '/' ∉ q.container.toList) (hlength : q.container.utf8ByteSize + 38 ≤ Record.pathLimit) :
    (q.place login name).2.Addressable := by
  obtain ⟨hshort, first, rest, hchars, hfirst, hrest⟩ := Rules.deviceName_eq_ok hname
  have hplace : (q.place login name).2 = ⟨q.container, Provision.blobName name q.vhd⟩ := by
    rw [place, hobject]
    rfl
  rw [hplace, Provision.addressable_iff]
  refine ⟨⟨hne, hslash⟩, ⟨.inr fun hempty => ?_, fun hmem => ?_⟩, ?_⟩
  · rw [hempty] at hchars
    cases hchars
  · rw [hchars] at hmem
    rcases List.mem_cons.mp hmem with rfl | hmem
    · exact absurd hfirst (by decide)
    · exact absurd (hrest _ hmem) (by decide)
  · have hend : (Provision.blobName name q.vhd).utf8ByteSize ≤ 36 := by
      rcases Provision.blobName_eq_or name q.vhd with h | ⟨-, h⟩
      · rw [h]
        omega
      · rw [h, String.utf8ByteSize_append, show Provision.vhdSuffix.utf8ByteSize = 4 from rfl]
        omega
    simp only [BlobPath.text, String.utf8ByteSize_append, show "/".utf8ByteSize = 1 from rfl]
    omega

/-- The request for a blob whose name has a slash. -/
def Sample.nested : MountRequest := { Sample.request with objectName := some "sub/disk" }

theorem Sample.nested_pathless {name : String} : ¬ (nested.place ⟨"account", "a2V5"⟩ name).2.Addressable :=
  fun h => h.name_slash (by simp only [MountRequest.place, nested, Option.getD_some]; decide)

/-- A blob that has a path, and the mount of one that has none. -/
theorem Provision.created_addressable_samples :
    (∃ events created,
      (create ⟨"account", "a2V5"⟩ 1 "dysks" "new" true true).run.Runs events (.ok created) ∧
      ∃ b, BlobPath.parse created.blob.text = .ok b) ∧
    ∃ events v, (Sample.owner.mount Sample.nested).run.Runs events v ∧ (∃ e, v = .error e) ∧
      ∀ event ∈ events, event.effect.isRequest = false := by
  constructor
  · have hruns := (Sample.staged_runs Sample.accepted (create ⟨"account", "a2V5"⟩ 1 "dysks" "new" true true)).1
    have hcreated : (Sample.staged Sample.accepted
        (create ⟨"account", "a2V5"⟩ 1 "dysks" "new" true true)).2.1.toOption =
        some ⟨⟨"dysks", "new.vhd"⟩, 1, true, some "lease"⟩ := by decide +kernel
    rw [Sample.eq_ok_of_toOption hcreated] at hruns
    have hpath := ((created_addressable _).1 _ _ _ _ _ _ _ hruns).1
    exact ⟨_, _, hruns, hpath.mpr (by decide +kernel)⟩
  · have hruns := (Sample.staged_runs Sample.accepted (Sample.owner.mount Sample.nested)).1
    obtain ⟨name, -, hfails⟩ := (created_addressable _).2 Sample.owner Sample.nested _ _ rfl rfl hruns
    exact ⟨_, _, hruns, hfails Sample.nested_pathless⟩

/-- A blob whose name has a slash is made for a device with a proper name. Its path is then rejected, and
the blob stays. -/
theorem Provision.created_pathless : ∃ scenes stores,
    Sample.nested.deviceName = some "disk" ∧ Rules.deviceName "disk" = .ok () ∧
    (Sample.owner.mount Sample.nested).run.RunsIn Stores.Step (fun _ => Sample.store 1) scenes
      (.error (.validation "too many forward slashes in dysk path")) stores ∧
    ((stores "account").blob? ⟨"dysks", "sub/disk"⟩).isSome = true := by
  have hruns := Sample.staged_runs Sample.accepted (Sample.owner.mount Sample.nested)
  have herror : (Sample.staged Sample.accepted (Sample.owner.mount Sample.nested)).2.1 =
    .error (.validation "too many forward slashes in dysk path") := Sample.eq_error (by decide +kernel)
  rw [herror] at hruns
  exact ⟨_, _, rfl, rfl, hruns, by decide +kernel⟩

end BlobDisk
