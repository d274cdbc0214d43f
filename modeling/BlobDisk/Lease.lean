import BlobDisk.Program

/-!
# Leases on blobs

A mounted disk holds a lease on its blob that lasts until it is broken. The lease is all that keeps
two hosts from mounting one blob.

* `Lease.acquire`: takes the lease, after breaking another one where that is allowed;
* `Lease.verifyWritable`: proves that a lease is live, and for writing that it permits writes;
* `Lease.breakBestEffort`: ends a lease, with a failure reported as a warning;
* `Lease.locate`: finds a blob.
-/

namespace BlobDisk

/-- A step of cleaning up that failed without failing its operation. -/
structure CleanupWarning where
  action : String
  target : String
  error : String
deriving DecidableEq, Repr

/-- The warning as it is shown. -/
def CleanupWarning.text (w : CleanupWarning) : String :=
  w.action ++ " " ++ w.target ++ " failed: " ++ w.error

/-- The warning that the lease of `target` could not be broken. -/
def CleanupWarning.ofBreak (target : String) (e : Error) : CleanupWarning :=
  ⟨"break lease on", target, e.message⟩

namespace Lease

/-- The metadata that the probe for writing sets. -/
def probeKey : String := "dysk"
def probeValue : String := "dysk"

/-- Takes a lease that lasts until it is broken. If the blob is leased already and `breakExisting`
is set, that lease is broken at once and the lease asked for once more. -/
def acquire (login : Credentials) (blob : BlobPath) (breakExisting : Bool) : Action String := do
  match ← Action.always (Action.store login (.acquireLease blob .infinite)).outcome with
  | .ok id => return id
  | .error e =>
    match e, breakExisting with
    | .leaseAlreadyPresent _, true => do
      Action.store login (.breakLease blob 0)
      Action.store login (.acquireLease blob .infinite)
    | _, _ => throw e

/-- Reads the properties under the lease, which has to be live, and to write the disk also sets
the metadata under it, which fails unless the lease permits writes. -/
def verifyWritable (login : Credentials) (blob : BlobPath) (leaseId : String) (mode : AccessMode) :
    Action Properties := do
  let properties ← Action.store login (.properties blob (some leaseId))
  if properties.kind ≠ some .page then
    throw (.validation "This blob is not a page blob")
  match mode with
  | .readWrite =>
    Action.store login
      (.setMetadata blob (properties.metadata.insert probeKey probeValue) (some leaseId))
  | .readOnly => pure ()
  return properties

/-- Ends the lease at once. -/
def breakNow (login : Credentials) (blob : BlobPath) : Action Unit :=
  Action.store login (.breakLease blob 0)

/-- Ends the lease at once; a failure becomes a warning. -/
def breakBestEffort (login : Credentials) (blob : BlobPath) : Program (Option CleanupWarning) := do
  match ← (breakNow login blob).outcome with
  | .ok () => return none
  | .error e => return some (.ofBreak blob.text e)

/-- The properties of a blob, which has to exist in a container that exists. -/
def locate (login : Credentials) (blob : BlobPath) : Action Properties := do
  let hasContainer : Bool ← Action.store login (.containerExists blob.container)
  if ¬ hasContainer then
    throw (.notFound ("Container at /" ++ blob.container ++ " does not exist"))
  let hasBlob : Bool ← Action.store login (.blobExists blob)
  if ¬ hasBlob then
    throw (.notFound ("Blob at " ++ blob.text ++ " does not exist"))
  Action.store login (.properties blob none)

end Lease

end BlobDisk
