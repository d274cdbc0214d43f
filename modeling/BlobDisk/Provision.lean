import BlobDisk.Lease
import BlobDisk.Size

/-!
# Making and removing the blobs of disks

* `Provision.create`: a page blob of a number of gigabytes, with a footer and a lease where asked;
* `Provision.delete`: removes a blob under its lease, or after breaking the lease.
-/

namespace BlobDisk

/-- A new blob. -/
structure CreatedBlob where
  blob : BlobPath
  sizeGb : UInt64
  vhd : Bool
  leaseId : Option String
deriving DecidableEq, Repr

/-- What an operation that succeeded could not clean up. -/
structure Outcome where
  warnings : List CleanupWarning
deriving DecidableEq, Repr

namespace Outcome

def isClean (o : Outcome) : Bool := o.warnings.isEmpty

/-- The outcome with the warning, if there is one. -/
def ofWarning? (w : Option CleanupWarning) : Outcome := ⟨w.toList⟩

end Outcome

namespace Provision

/-- The end of the names of blobs with a footer. -/
def vhdSuffix : String := ".vhd"

/-- The name of the blob for a disk: with a footer it ends in the suffix. -/
def blobName (name : String) (vhd : Bool) : String :=
  if vhd ∧ ¬ vhdSuffix.toList.isSuffixOf name.toList then name ++ vhdSuffix else name

/-- Writes the footer of a payload over the end of a blob of `objectSize` bytes. -/
def writeFooter (login : Credentials) (blob : BlobPath) (objectSize payloadSize : UInt64) :
    Action Unit := do
  let stamp ← Action.always (Program.perform .footerStamp)
  let range := ByteRange.tail objectSize.toNat Size.trailerBytes
  Action.store login (.writeRange blob range (Vhd.Footer.build payloadSize stamp) none)

/-- Makes a page blob, and its container where it is missing. With `vhd` its last 512 bytes are a
footer that describes the rest; with `lease` a lease is taken on it. -/
def create (login : Credentials) (sizeGb : UInt64) (container name : String) (vhd lease : Bool) :
    Action CreatedBlob := do
  Action.ofExcept (Size.check sizeGb)
  let blob : BlobPath := ⟨container, blobName name vhd⟩
  let objectSize ← Action.ofExcept (Size.objectBytes sizeGb)
  let _ ← Action.store login (.createContainer container)
  Action.store login (.createPageBlob blob objectSize)
  if vhd then
    let payloadSize ← Action.ofExcept (Size.payloadBytes sizeGb true)
    writeFooter login blob objectSize payloadSize
  let leaseId ← if lease then some <$> Lease.acquire login blob false else pure none
  return ⟨blob, sizeGb, vhd, leaseId⟩

/-- Removes a blob under a lease id. With `forceBreak` its lease is broken first, the failure of
which is a warning, and no lease id is presented. -/
def delete (login : Credentials) (blob : BlobPath) (leaseId : Option String) (forceBreak : Bool) :
    Action Outcome := do
  if forceBreak then
    let warning ← Action.always (Lease.breakBestEffort login blob)
    Action.store login (.deleteBlob blob none)
    return .ofWarning? warning
  else
    Action.store login (.deleteBlob blob leaseId)
    return .ofWarning? none

end Provision

end BlobDisk
