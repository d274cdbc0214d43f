import BlobDisk.Record
import BlobDisk.TextMap
import BlobDisk.Text.Pieces

/-!
# Blobs and their properties

* `BlobPath`: the container and the name of a blob, with `BlobPath.text` and `BlobPath.parse` between
  the pair and the path of a record;
* `ByteRange`: a range of bytes with both ends in it;
* `Properties`: what the service reports of a blob.
-/

namespace BlobDisk

/-- The place of a blob: a name in a container. -/
structure BlobPath where
  container : String
  name : String
deriving DecidableEq, Repr, Inhabited

namespace BlobPath

/-- The path, a slash before each part. -/
def text (b : BlobPath) : String := "/" ++ b.container ++ "/" ++ b.name

/-- The blob at a path, which is a slash, a container, a slash and a name, the parts not empty. -/
def parse (path : String) : Except Error BlobPath :=
  if path.isEmpty ∨ Record.pathLimit < path.utf8ByteSize then
    .error (.validation ("Invalid path. Must be <= " ++ toString Record.pathLimit))
  else
    match Pieces.split '/' path.toList with
    | [start, container, name] =>
      if start = [] ∧ container ≠ [] ∧ name ≠ [] then
        .ok ⟨String.ofList container, String.ofList name⟩
      else .error (.validation ("Invalid path " ++ path ++ ". Must be /container/blob"))
    | _ => .error (.validation "too many forward slashes in dysk path")

end BlobPath

/-- The bytes from `first` to `last`, both included. The range is empty if `last` comes first. -/
structure ByteRange where
  first : Nat
  last : Nat
deriving DecidableEq, Repr, Inhabited

namespace ByteRange

/-- The last `length` bytes of `size`. -/
def tail (size length : Nat) : ByteRange := ⟨size - length, size - 1⟩

/-- How many bytes the range holds. -/
def length (r : ByteRange) : Nat := r.last + 1 - r.first

def isEmpty (r : ByteRange) : Bool := r.last < r.first

/-- The two ends as they stand in messages and requests. -/
def text (r : ByteRange) : String := toString r.first ++ "-" ++ toString r.last

end ByteRange

/-- What a blob consists of. Only blobs made of pages can back a disk. -/
inductive BlobKind
  | page
  | block
  | append
deriving DecidableEq, Repr, Inhabited

/-- The kind that the service calls by a word. -/
def BlobKind.ofWord? (word : String) : Option BlobKind :=
  if word = "PageBlob" then some page
  else if word = "BlockBlob" then some block
  else if word = "AppendBlob" then some append
  else none

/-- Where a blob stands with its lease. -/
inductive LeaseState
  | available
  | leased
  | breaking
  | broken
  | expired
deriving DecidableEq, Repr, Inhabited

/-- The state that the service calls by a word; any other word means that no lease was ever taken. -/
def LeaseState.ofWord (word : String) : LeaseState :=
  if word = "leased" then leased
  else if word = "breaking" then breaking
  else if word = "broken" then broken
  else if word = "expired" then expired
  else available

/-- How long a lease is asked for. -/
inductive LeaseDuration
  /-- Until it is broken. -/
  | infinite
  | seconds (count : UInt32)
deriving DecidableEq, Repr, Inhabited

/-- The duration in the words of the service. -/
def LeaseDuration.text : LeaseDuration → String
  | infinite => "-1"
  | seconds n => toString n.toNat

/-- What the service reports of a blob. -/
structure Properties where
  contentLength : UInt64
  kind : Option BlobKind
  leaseState : LeaseState
  metadata : TextMap
deriving DecidableEq, Repr

end BlobDisk
