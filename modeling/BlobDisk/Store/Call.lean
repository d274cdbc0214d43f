import BlobDisk.Store.Blob

/-!
# Calls of a blob store

A store is known only by the calls that it answers: `StoreCall` lists them, `StoreCall.Answer` says
what a successful one returns. Operations on disks are written against these calls, so that any
store can stand behind them.
-/

namespace BlobDisk

/-- One call of a blob store. A lease id given with a call is optional; an empty one counts as none. -/
inductive StoreCall
  /-- Makes a container; answers whether it is new. -/
  | createContainer (container : String)
  | containerExists (container : String)
  | blobExists (blob : BlobPath)
  /-- Makes a blob of zeros in place of any other of the same path. -/
  | createPageBlob (blob : BlobPath) (size : UInt64)
  | writeRange (blob : BlobPath) (range : ByteRange) (data : List UInt8) (lease : Option String)
  | readRange (blob : BlobPath) (range : ByteRange) (lease : Option String)
  | properties (blob : BlobPath) (lease : Option String)
  /-- Replaces all metadata of the blob. -/
  | setMetadata (blob : BlobPath) (metadata : TextMap) (lease : Option String)
  /-- Takes the lease; answers its id. -/
  | acquireLease (blob : BlobPath) (duration : LeaseDuration)
  /-- Ends the lease, whoever holds it, after a number of seconds. -/
  | breakLease (blob : BlobPath) (seconds : UInt32)
  | deleteBlob (blob : BlobPath) (lease : Option String)
deriving DecidableEq, Repr

namespace StoreCall

/-- What a call returns when it succeeds. -/
def Answer : StoreCall → Type
  | createContainer _ | containerExists _ | blobExists _ => Bool
  | createPageBlob .. | writeRange .. | setMetadata .. | breakLease .. | deleteBlob .. => Unit
  | readRange .. => List UInt8
  | properties .. => Properties
  | acquireLease .. => String

/-- The blob that a call is about. -/
def blob? : StoreCall → Option BlobPath
  | createContainer _ | containerExists _ => none
  | blobExists b | createPageBlob b _ | writeRange b _ _ _ | readRange b _ _ | properties b _
  | setMetadata b _ _ | acquireLease b _ | breakLease b _ | deleteBlob b _ => some b

end StoreCall

end BlobDisk
