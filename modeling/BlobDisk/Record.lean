import BlobDisk.Size

/-!
# Records of disks

A record describes one block device backed by a page blob: where the blob is, under which lease it is
held, how large it is, and, once the device manager has mounted it, the device's numbers.

* `Record.setSizeGb`, `Record.sizeFromSectors`: keep the two sizes of a record in step;
* `Record.sizesAgree`: whether they are.
-/

namespace BlobDisk

/-- How a mounted disk may be used. -/
inductive AccessMode
  | readOnly
  | readWrite
deriving DecidableEq, Repr, Inhabited

namespace AccessMode

/-- The word for the mode in records. -/
def word : AccessMode → String
  | readOnly => "R"
  | readWrite => "RW"

/-- The mode that a word stands for. -/
def ofWord? (text : String) : Option AccessMode :=
  if text = "R" then some readOnly
  else if text = "RW" then some readWrite
  else none

/-- The mode that a word stands for, or the complaint about any other word. -/
def parse (text : String) : Except Error AccessMode :=
  match ofWord? text with
  | some mode => .ok mode
  | none => .error (.validation "Invalid type. Must be R or RW")

def isReadOnly : AccessMode → Bool
  | readOnly => true
  | readWrite => false

theorem ofWord?_word (mode : AccessMode) : ofWord? mode.word = some mode := by
  cases mode <;> rfl

end AccessMode

/-- A block device backed by a page blob. The numbers `major` and `minor` are both zero until the
device manager has mounted it. -/
structure Record where
  mode : AccessMode := .readWrite
  name : String := ""
  sectorCount : UInt64 := 0
  accountName : String := ""
  accountKey : String := ""
  /-- The path of the blob, a slash before its container and one before its name. -/
  path : String := ""
  host : String := ""
  ip : String := ""
  leaseId : String := ""
  major : Int64 := 0
  minor : Int64 := 0
  /-- Whether the blob ends in a footer. -/
  vhd : Bool := false
  sizeGb : UInt64 := 0
deriving DecidableEq, Repr, Inhabited

namespace Record

/-- Limits in bytes on the texts of a record, set by the device manager. -/
def nameLimit : Nat := 32
def accountNameLimit : Nat := 256
def accountKeyLimit : Nat := 128
def pathLimit : Nat := 1024
def hostLimit : Nat := 512
def ipLimit : Nat := 32
def leaseIdLimit : Nat := 64

/-- The record with its size in gigabytes set and its sectors counted from it. -/
def setSizeGb (r : Record) (gb : UInt64) : Except Error Record := do
  let sectors ← Size.sectorsFor gb r.vhd
  return { r with sectorCount := sectors, sizeGb := gb }

/-- The record with its size in gigabytes worked out from its sectors. -/
def sizeFromSectors (r : Record) : Except Error Record := do
  let gb ← Size.gbOfSectors r.sectorCount r.vhd
  return { r with sizeGb := gb }

/-- Whether the sectors and the gigabytes of the record describe the same payload. -/
def sizesAgree (r : Record) : Bool :=
  (Size.payloadBytes r.sizeGb r.vhd).toOption.any fun payload =>
    r.sectorCount.toNat * Size.sectorBytes = payload.toNat

/-- Whether the device manager has given the disk a device. -/
def isMounted (r : Record) : Bool := r.major ≠ 0 || r.minor ≠ 0

end Record

end BlobDisk
