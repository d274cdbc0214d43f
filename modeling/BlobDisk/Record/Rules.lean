import BlobDisk.Store.Blob
import BlobDisk.Text.Base64
import BlobDisk.Text.Utf8

/-!
# Rules for records

A record is checked field by field in a fixed order, and the first rule that it breaks is reported.

* `Violation`: the rules that can be broken, with their messages;
* `Rules.deviceName`, `Rules.lookupName`, `Rules.accountKey`: the rules for single texts;
* `Record.checkFields`: all rules, which also fills in the host of a record that has none.
-/

namespace BlobDisk

/-- A rule that a record breaks. -/
inductive Violation
  | nameLength
  | deviceName
  | lookupName (name : String)
  | noSectors
  | sizesDiffer (sectors gb : UInt64)
  | accountName
  | keyLength
  | keyEncoding (fault : Base64.Fault)
  | host
  | leaseId
  | ip (hostName : String)
deriving DecidableEq, Repr

/-- The complaint about a broken rule. -/
def Violation.message : Violation → String
  | nameLength => "Invalid name. Only max of(" ++ toString Record.nameLimit ++ ") chars"
  | deviceName => "Invalid device name. alpha+numbers allowed. must start with alpha"
  | lookupName name => "Invalid device name " ++ name ++ ". alpha+numbers+dots allowed"
  | noSectors => "Invalid Sector count."
  | sizesDiffer sectors gb => "Invalid Sector count. " ++ toString sectors.toNat
      ++ " sectors do not match " ++ toString gb.toNat ++ "GB"
  | accountName => "Invalid Account name. Must be <= than " ++ toString Record.accountNameLimit
  | keyLength => "Invalid Account Key. Must be <= " ++ toString Record.accountKeyLimit
  | keyEncoding fault => "Invalid account key. Must be a base64 encoded string. Error:" ++ fault.message
  | host => "Invalid host. Must be <= " ++ toString Record.hostLimit
  | leaseId => "Invalid Lease Id. Must be <= " ++ toString Record.leaseIdLimit
  | ip hostName => "Invalid IP for host:" ++ hostName ++ ". Must be <= " ++ toString Record.ipLimit

/-- The error that reports a broken rule. -/
def Violation.error (v : Violation) : Error := .validation v.message

namespace Rules

/-- A text of at least one byte and at most `limit`, or else the violation. -/
def length (limit : Nat) (text : String) (v : Violation) : Except Error Unit :=
  if text.utf8ByteSize = 0 ∨ limit < text.utf8ByteSize then .error v.error else .ok ()

/-- A letter of the English alphabet, then letters and digits. -/
def isDeviceName : List Char → Bool
  | [] => false
  | c :: rest => c.isAlpha && rest.all Char.isAlphanum

/-- Letters, digits and dots, at least one. -/
def isLookupName (text : List Char) : Bool :=
  text ≠ [] && text.all fun c => c.isAlphanum || c = '.'

/-- The rule for the names of new disks. -/
def deviceName (name : String) : Except Error Unit := do
  length Record.nameLimit name .nameLength
  if isDeviceName name.toList then return () else throw Violation.deviceName.error

/-- The rule for names to look up: whatever the device manager may list. -/
def lookupName (name : String) : Except Error Unit := do
  length Record.nameLimit name .nameLength
  if isLookupName name.toList then return () else throw (Violation.lookupName name).error

/-- The bytes of a key in base 64. -/
def keyBytes (key : String) : Except Error (List UInt8) :=
  match Base64.decode (Utf8.encode key.toList) with
  | .ok bytes => .ok bytes
  | .error fault => .error (Violation.keyEncoding fault).error

/-- The rule for keys: within the limit, and base 64. -/
def accountKey (key : String) : Except Error Unit := do
  length Record.accountKeyLimit key .keyLength
  discard (keyBytes key)

end Rules

namespace Record

/-- The domain of the hosts of storage accounts. -/
def defaultDomain : String := "blob.core.windows.net"

/-- The rules for the fields before the host; answers the blob of the record. -/
def checkIdentity (r : Record) : Except Error BlobPath := do
  Rules.deviceName r.name
  if r.sectorCount = 0 then
    throw Violation.noSectors.error
  if r.sizeGb ≠ 0 ∧ r.sizesAgree = false then
    throw (Violation.sizesDiffer r.sectorCount r.sizeGb).error
  Rules.length accountNameLimit r.accountName .accountName
  Rules.accountKey r.accountKey
  BlobPath.parse r.path

/-- The rules for the host and the lease. -/
def checkPlacement (r : Record) : Except Error Unit := do
  if hostLimit < r.host.utf8ByteSize then
    throw Violation.host.error
  Rules.length leaseIdLimit r.leaseId .leaseId

/-- The record with the host of its account in the domain, unless it has a host. -/
def fillHost (domain : String) (r : Record) : Record :=
  if r.host = "" then { r with host := r.accountName ++ "." ++ domain } else r

/-- Checks all fields in order and answers the blob of the record. The record comes back with its
host filled in, if the check got that far. -/
def checkFields (domain : String) (r : Record) : Record × Except Error BlobPath :=
  match r.checkIdentity with
  | .error e => (r, .error e)
  | .ok blob => (r.fillHost domain, (r.fillHost domain).checkPlacement.map fun _ => blob)

end Record

end BlobDisk
