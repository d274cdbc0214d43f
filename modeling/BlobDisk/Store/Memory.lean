import BlobDisk.Store.Call

/-!
# A blob store in memory

The store keeps the lease rules of the service: what changes a leased blob must present the live lease
id, what reads it need not, and a lease id that is presented must be the live one. Blobs are sparse:
only the writes are kept, and what was never written reads as zeros.

* `MemoryStore.perform`: the answer to a call and the store after it;
* `StoredBlob.read`: the bytes of a range as the writes left them.
-/

namespace BlobDisk

/-- A blob in the store. -/
structure StoredBlob where
  size : UInt64
  kind : BlobKind
  /-- The writes, the oldest first; later ones win. -/
  writes : List (ByteRange × List UInt8)
  metadata : TextMap
  leaseId : Option String
  leaseState : LeaseState
deriving DecidableEq, Repr

namespace StoredBlob

/-- A new blob of zeros. -/
def fresh (size : UInt64) (kind : BlobKind) : StoredBlob :=
  ⟨size, kind, [], [], none, .available⟩

/-- The lease id that a caller presents; an empty one is none. -/
def presented (lease : Option String) : Option String := lease.filter (· ≠ "")

/-- A change must present the live lease id if the blob is leased, and no id if it is not. -/
def checkWriteLease (s : StoredBlob) (b : BlobPath) (lease : Option String) : Except Error Unit :=
  match s.leaseId, presented lease with
  | some _, none => .error (.leaseMismatch
      ("There is currently a lease on " ++ b.text ++ " and no lease ID was specified"))
  | some held, some given =>
    if held = given then .ok ()
    else .error (.leaseMismatch
      ("The lease ID specified did not match the lease ID for " ++ b.text))
  | none, some _ => .error (.leaseMismatch ("There is currently no lease on " ++ b.text))
  | none, none => .ok ()

/-- A read need not present a lease id; one that it presents must be live. -/
def checkReadLease (s : StoredBlob) (b : BlobPath) (lease : Option String) : Except Error Unit :=
  match presented lease with
  | none => .ok ()
  | some _ => s.checkWriteLease b lease

/-- The bytes `out` of the range `window` with the part of a write in it laid over them. -/
def overlay (window : ByteRange) (out : List UInt8) (write : ByteRange × List UInt8) : List UInt8 :=
  let first := max write.1.first window.first
  let last := min write.1.last window.last
  if last < first then out
  else
    out.take (first - window.first)
      ++ (write.2.drop (first - write.1.first)).take (last + 1 - first)
      ++ out.drop (last + 1 - window.first)

/-- The bytes of a range: zeros under the writes, in order. -/
def read (s : StoredBlob) (window : ByteRange) : List UInt8 :=
  s.writes.foldl (overlay window) (List.replicate window.length 0)

/-- What the store reports of the blob. -/
def properties (s : StoredBlob) : Properties :=
  ⟨s.size, some s.kind, s.leaseState, s.metadata⟩

end StoredBlob

/-- How often the store was asked to take or break a lease, and how often it carried out a change. -/
structure Counters where
  acquires : Nat := 0
  breaks : Nat := 0
  metadataWrites : Nat := 0
  pageWrites : Nat := 0
  deletes : Nat := 0
deriving DecidableEq, Repr

/-- The blob store of one account. -/
structure MemoryStore where
  containers : List String := []
  blobs : List (BlobPath × StoredBlob) := []
  counters : Counters := {}
deriving DecidableEq, Repr

namespace MemoryStore

instance : Inhabited MemoryStore := ⟨{}⟩

/-! ## Blobs by path -/

/-- The blob at a path. -/
def blob? (m : MemoryStore) (b : BlobPath) : Option StoredBlob := m.blobs.lookup b

/-- The pairs with the blob at `b` replaced by `s`, or with `s` added at the end. -/
def putIn (b : BlobPath) (s : StoredBlob) : List (BlobPath × StoredBlob) → List (BlobPath × StoredBlob)
  | [] => [(b, s)]
  | (k, v) :: rest => if b = k then (b, s) :: rest else (k, v) :: putIn b s rest

/-- The store with `s` at the path `b`. -/
def put (m : MemoryStore) (b : BlobPath) (s : StoredBlob) : MemoryStore :=
  { m with blobs := putIn b s m.blobs }

/-- The store without a blob at `b`. -/
def drop (m : MemoryStore) (b : BlobPath) : MemoryStore :=
  { m with blobs := m.blobs.filter fun p => p.1 ≠ b }

/-- The blob at a path, which has to exist. -/
def find (m : MemoryStore) (b : BlobPath) : Except Error StoredBlob :=
  match m.blob? b with
  | some s => .ok s
  | none => .error (.notFound ("The specified blob " ++ b.text ++ " does not exist"))

/-- The store with a container of the given name. -/
def addContainer (m : MemoryStore) (container : String) : MemoryStore :=
  if container ∈ m.containers then m else { m with containers := m.containers ++ [container] }

/-- The store with a blob that cannot back a disk. -/
def insertBlockBlob (m : MemoryStore) (b : BlobPath) (size : UInt64) : MemoryStore :=
  (m.addContainer b.container).put b (.fresh size .block)

/-! ## Calls -/

/-- Pages are written whole, within the blob. -/
def checkPages (range : ByteRange) (size : UInt64) : Except Error Unit :=
  if range.isEmpty ∨ range.first % Size.sectorBytes ≠ 0 ∨ range.length % Size.sectorBytes ≠ 0
      ∨ size.toNat ≤ range.last then
    .error (.backend ("Invalid page range bytes=" ++ range.text ++ " for blob of "
      ++ toString size.toNat ++ " bytes"))
  else .ok ()

/-- Bytes can be read within the blob. -/
def checkRange (range : ByteRange) (size : UInt64) : Except Error Unit :=
  if range.isEmpty ∨ size.toNat ≤ range.last then
    .error (.backend ("Invalid range bytes=" ++ range.text ++ " for blob of "
      ++ toString size.toNat ++ " bytes"))
  else .ok ()

/-- A new page blob takes the place of one that is not leased. -/
def createPageBlob (m : MemoryStore) (b : BlobPath) (size : UInt64) : Except Error MemoryStore := do
  if b.container ∉ m.containers then
    throw (.notFound ("The specified container " ++ b.container ++ " does not exist"))
  if size.toNat % Size.sectorBytes ≠ 0 then
    throw (.backend ("Page blob size " ++ toString size.toNat ++ " is not a multiple of "
      ++ toString Size.sectorBytes))
  match m.blob? b with
  | some existing => existing.checkWriteLease b none
  | none => pure ()
  return m.put b (.fresh size .page)

/-- A write fills its range. -/
def writeRange (m : MemoryStore) (b : BlobPath) (range : ByteRange) (data : List UInt8)
    (lease : Option String) : Except Error MemoryStore := do
  let s ← m.find b
  s.checkWriteLease b lease
  checkPages range s.size
  if data.length ≠ range.length then
    throw (.backend ("write of " ++ toString data.length ++ " bytes does not fill range of "
      ++ toString range.length))
  let counters := { m.counters with pageWrites := m.counters.pageWrites + 1 }
  return { m.put b { s with writes := s.writes ++ [(range, data)] } with counters }

/-- The bytes of a range within the blob. -/
def readRange (m : MemoryStore) (b : BlobPath) (range : ByteRange) (lease : Option String) :
    Except Error (List UInt8) := do
  let s ← m.find b
  s.checkReadLease b lease
  checkRange range s.size
  return s.read range

/-- The properties of a blob. -/
def properties (m : MemoryStore) (b : BlobPath) (lease : Option String) :
    Except Error Properties := do
  let s ← m.find b
  s.checkReadLease b lease
  return s.properties

/-- All metadata of the blob replaced. -/
def setMetadata (m : MemoryStore) (b : BlobPath) (metadata : TextMap) (lease : Option String) :
    Except Error MemoryStore := do
  let s ← m.find b
  s.checkWriteLease b lease
  let counters := { m.counters with metadataWrites := m.counters.metadataWrites + 1 }
  return { m.put b { s with metadata } with counters }

/-- The lease taken under the id `fresh`, which no other lease has. -/
def acquireLease (m : MemoryStore) (b : BlobPath) (fresh : String) : Except Error MemoryStore := do
  let s ← m.find b
  if s.leaseId.isSome then
    throw (.leaseAlreadyPresent ("There is already a lease present on " ++ b.text))
  return m.put b { s with leaseId := some fresh, leaseState := .leased }

/-- The lease ended at once. -/
def breakLease (m : MemoryStore) (b : BlobPath) : Except Error MemoryStore := do
  let s ← m.find b
  if s.leaseId.isNone then
    throw (.backend ("There is currently no lease on " ++ b.text))
  return m.put b { s with leaseId := none, leaseState := .broken }

/-- The blob removed. -/
def deleteBlob (m : MemoryStore) (b : BlobPath) (lease : Option String) : Except Error MemoryStore := do
  let s ← m.find b
  s.checkWriteLease b lease
  let counters := { m.counters with deletes := m.counters.deletes + 1 }
  return { m.drop b with counters }

/-- The store that a change leaves: on an error, the store as it was. -/
def settle {α : Type} (m : MemoryStore) (value : α) :
    Except Error MemoryStore → Except Error α × MemoryStore
  | .ok m' => (.ok value, m')
  | .error e => (.error e, m)

/-- The store after one more attempt to take a lease. -/
def countAcquire (m : MemoryStore) : MemoryStore :=
  { m with counters := { m.counters with acquires := m.counters.acquires + 1 } }

/-- The store after one more attempt to break a lease. -/
def countBreak (m : MemoryStore) : MemoryStore :=
  { m with counters := { m.counters with breaks := m.counters.breaks + 1 } }

/-- The answer to a call and the store after it. A lease that is taken gets the id `fresh`. -/
def perform (fresh : String) (m : MemoryStore) : (call : StoreCall) → Except Error call.Answer × MemoryStore
  | .createContainer c => (.ok (decide (c ∉ m.containers)), m.addContainer c)
  | .containerExists c => (.ok (decide (c ∈ m.containers)), m)
  | .blobExists b => (.ok (m.blob? b).isSome, m)
  | .createPageBlob b size => m.settle () (m.createPageBlob b size)
  | .writeRange b range data lease => m.settle () (m.writeRange b range data lease)
  | .readRange b range lease => (m.readRange b range lease, m)
  | .properties b lease => (m.properties b lease, m)
  | .setMetadata b metadata lease => m.settle () (m.setMetadata b metadata lease)
  | .acquireLease b _ => m.countAcquire.settle fresh (m.countAcquire.acquireLease b fresh)
  | .breakLease b _ => m.countBreak.settle () (m.countBreak.breakLease b)
  | .deleteBlob b lease => m.settle () (m.deleteBlob b lease)

end MemoryStore

end BlobDisk
