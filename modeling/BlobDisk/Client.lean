import BlobDisk.Channel.Exchange
import BlobDisk.Provision
import BlobDisk.Record.Validate

/-!
# Operations on disks

The client ties storage and the device manager together. Each operation opens at most one control
channel and closes it before it ends.

* `Client.mount`, `Client.mountRecord`: back a device by a blob;
* `Client.unmount`: removes the device, and the lease on its blob where asked;
* `Client.get`, `Client.list`: what is mounted;
* `Client.create`, `Client.delete`: blobs alone.
-/

namespace BlobDisk

/-- What the operations of one client share. -/
structure Client where
  /-- The account of new disks and of blobs. -/
  credentials : Option Credentials
  /-- The domain of hosts that a record does not name. -/
  domain : String := Record.defaultDomain
deriving DecidableEq, Repr

/-- What to mount. -/
structure MountRequest where
  /-- The name of the device; one is made up if none is given. -/
  deviceName : Option String := none
  /-- The name of the blob; that of the device if none is given. -/
  objectName : Option String := none
  container : String := "dysks"
  /-- The size of a blob that is made for the disk. -/
  sizeGb : UInt64 := 2
  vhd : Bool := true
  readOnly : Bool := false
  /-- Whether the blob is made first. -/
  autoCreate : Bool := false
  /-- Whether a lease is taken. -/
  autoLease : Bool := true
  /-- Whether a lease that another holds is broken for it. -/
  breakLease : Bool := false
  leaseId : Option String := none
deriving DecidableEq, Repr

/-- The access that a request asks for. -/
def MountRequest.mode (q : MountRequest) : AccessMode :=
  if q.readOnly then .readOnly else .readWrite

/-- What blob to make. -/
structure CreateRequest where
  /-- The name of the blob; one is made up if none is given. -/
  name : Option String := none
  container : String := "dysks"
  sizeGb : UInt64 := 2
  vhd : Bool := true
  lease : Bool := false
deriving DecidableEq, Repr

/-- How the lease of a record to be mounted is handled. -/
structure LeaseOptions where
  /-- Whether a lease is taken if the record has none. -/
  autoLease : Bool := false
  /-- Whether a lease that another holds is broken for it. -/
  breakLease : Bool := false
deriving DecidableEq, Repr

namespace Client

/-- The credentials of the client, which some operations cannot do without. -/
def login (c : Client) : Action Credentials :=
  match c.credentials with
  | some login => pure login
  | none => throw (.config "storage account name and key are required")

/-- The given name, or one made up. -/
def nameOr (name : Option String) : Action String :=
  match name with
  | some name => pure name
  | none => Action.always (Program.perform .freshName)

/-! ## Mounting -/

/-- The record with the credentials of the client, unless it has an account and a key. -/
def fillCredentials (c : Client) (r : Record) : Action Record :=
  if r.accountName = "" ∨ r.accountKey = "" then do
    let login ← c.login
    return { r with accountName := login.account, accountKey := login.key }
  else pure r

/-- Validates a leased record and hands it to the device manager; answers it with the numbers of its
device. -/
def submitMount (c : Client) (login : Credentials) (r : Record) : Action Record := do
  let (r, verdict) ← Action.always (r.validate login c.domain)
  Action.ofExcept verdict
  let buffer ← Action.ofExcept (Channel.mountRequest r)
  let payload ← Channel.exchangeBuffer .mount buffer
  let mounted ← Action.ofExcept (Record.ofText payload)
  return { r with major := mounted.major, minor := mounted.minor }

/-- The record with the size of its blob, which must be the size that it has, if it has one. -/
def fillSize (blob : BlobPath) (properties : Properties) (r : Record) : Except Error Record := do
  let gb := Size.gbOfObject properties.contentLength
  if r.sizeGb ≠ 0 ∧ r.sizeGb ≠ gb then
    throw (.validation ("Invalid size. Record has " ++ toString r.sizeGb.toNat ++ "GB but blob "
      ++ blob.text ++ " holds " ++ toString gb.toNat ++ "GB"))
  r.setSizeGb gb

/-- Mounts a leased record, or one without a lease for which one is taken. If the mount fails, a lease
that was taken for it is broken. -/
def leaseAndSubmit (c : Client) (login : Credentials) (blob : BlobPath) (r : Record)
    (options : LeaseOptions) : Action Record := do
  if r.leaseId = "" ∧ options.autoLease = true then
    let leaseId ← Lease.acquire login blob options.breakLease
    match ← Action.always (c.submitMount login { r with leaseId }).outcome with
    | .ok mounted => return mounted
    | .error e =>
      let _ ← Action.always (Lease.breakBestEffort login blob)
      throw e
  else c.submitMount login r

/-- Mounts a prepared record: its blob is found and measured, leased if need be, then the record is
validated, and only then is it sent to the device manager. -/
def mountRecord (c : Client) (r : Record) (options : LeaseOptions) : Action Record := do
  let r ← c.fillCredentials r
  let login : Credentials := ⟨r.accountName, r.accountKey⟩
  Channel.withChannel do
    Action.connect login
    let blob ← Action.ofExcept (BlobPath.parse r.path)
    let properties ← Lease.locate login blob
    let r ← Action.ofExcept (fillSize blob properties r)
    c.leaseAndSubmit login blob r options

/-- The blob of a request and the lease to mount it under: made first where asked. The flag says
whether that lease was taken on a blob that was made. -/
def prepareBlob (login : Credentials) (q : MountRequest) (object : String) :
    Action (BlobPath × String × Bool) := do
  let leaseId := q.leaseId.getD ""
  if q.autoCreate then
    Action.connect login
    let created ← Provision.create login q.sizeGb q.container object q.vhd q.autoLease
    match created.leaseId with
    | some id => return (created.blob, id, true)
    | none => return (created.blob, leaseId, false)
  else return (⟨q.container, object⟩, leaseId, false)

/-- Releases the lease on a new blob that could not be mounted; the blob stays. -/
def releaseCreated (login : Credentials) (blob : BlobPath) : Program Unit := do
  match ← (Action.connect login).outcome with
  | .ok () => discard (Lease.breakBestEffort login blob)
  | .error _ => return ()

/-- Mounts a blob as a device, with the blob made first where asked. -/
def mount (c : Client) (q : MountRequest) : Action Record := do
  let login ← c.login
  let name ← nameOr q.deviceName
  Action.ofExcept (Rules.deviceName name)
  let object := Provision.blobName (q.objectName.getD name) q.vhd
  let (blob, leaseId, createdLease) ← prepareBlob login q object
  let r : Record :=
    { mode := q.mode, name, path := blob.text, vhd := q.vhd, accountName := login.account,
      accountKey := login.key, leaseId }
  match ← Action.always (c.mountRecord r ⟨q.autoLease, q.breakLease⟩).outcome with
  | .ok mounted => return mounted
  | .error e =>
    if createdLease then
      Action.always (releaseCreated login blob)
    throw e

/-! ## Unmounting -/

/-- Breaks the lease on the blob of a record, under the credentials of the record. -/
def breakRecordLease (r : Record) : Program (Option CleanupWarning) := do
  let login : Credentials := ⟨r.accountName, r.accountKey⟩
  match ← (Action.connect login).outcome with
  | .error e => return some (.ofBreak r.path e)
  | .ok () =>
    match BlobPath.parse r.path with
    | .error e => return some (.ofBreak r.path e)
    | .ok blob => Lease.breakBestEffort login blob

/-- Removes a device and answers its record, if that is to be fetched first. -/
def removeDevice (name : String) (fetch : Bool) : Action (Option Record) := do
  let mounted ← if fetch then some <$> Channel.getRecord name else pure none
  let _ ← Channel.exchange .unmount (Envelope.nameRequest name)
  return mounted

/-- Unmounts a device, and breaks the lease on its blob afterwards where asked. A lease that cannot be
broken does not fail the operation. -/
def unmount (name : String) (breakLease : Bool) : Action Outcome := do
  Action.ofExcept (Rules.lookupName name)
  match ← Channel.withChannel (removeDevice name breakLease) with
  | some r => return .ofWarning? (← Action.always (breakRecordLease r))
  | none => return .ofWarning? none

/-! ## Looking -/

/-- The record of a mounted disk, its size worked out. -/
def getSized (name : String) : Action Record := do
  let r ← Channel.getRecord name
  Action.ofExcept r.sizeFromSectors

/-- The mounted disk of a name. -/
def get (name : String) : Action Record := do
  Action.ofExcept (Rules.lookupName name)
  Channel.withChannel (getSized name)

/-- All mounted disks in the order in which the device manager names them. -/
def list : Action (List Record) :=
  Channel.withChannel do
    let payload ← Channel.exchange .list Envelope.listRequest
    (Envelope.names payload).mapM getSized

/-! ## Blobs alone -/

/-- Makes a blob without mounting it. -/
def create (c : Client) (q : CreateRequest) : Action CreatedBlob := do
  let name ← nameOr q.name
  let login ← c.login
  Action.connect login
  Provision.create login q.sizeGb q.container name q.vhd q.lease

/-- Removes a blob under a lease id, or after breaking its lease. -/
def delete (c : Client) (container name : String) (leaseId : Option String) (forceBreak : Bool) :
    Action Outcome := do
  let login ← c.login
  Action.connect login
  Provision.delete login ⟨container, name⟩ leaseId forceBreak

end Client

end BlobDisk
