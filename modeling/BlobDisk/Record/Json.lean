import BlobDisk.Json.Reader
import BlobDisk.Json.Writer
import BlobDisk.Record

/-!
# Records in JSON

Records are kept and passed on in JSON. What only the device manager needs, the sectors, the host and
its address, is left out.

* `Record.toJson`, `Record.jsonText`: the record as a value and as a text;
* `Record.ofJsonBytes`: the record in a text. Keys that no record has are ignored, a key given twice is
  refused, and the numbers of the device, the footer and the size may be missing.
-/

namespace BlobDisk.Record

open Json (Value)

/-- The record as a value. -/
def toJson (r : Record) : Value :=
  .ofFields [
    ("Type", .text r.mode.word),
    ("Name", .text r.name),
    ("AccountName", .text r.accountName),
    ("AccountKey", .text r.accountKey),
    ("Path", .text r.path),
    ("LeaseId", .text r.leaseId),
    ("Major", .int r.major.toInt),
    ("Minor", .int r.minor.toInt),
    ("Vhd", .bool r.vhd),
    ("SizeGB", .number r.sizeGb.toNat)]

/-- The record as a text over several lines. -/
def jsonText (r : Record) : String := r.toJson.pretty 2

/-! ## Reading -/

/-- The keys of a record in the order of a list without keys. -/
def jsonKeys : List String :=
  ["Type", "Name", "AccountName", "AccountKey", "Path", "LeaseId", "Major", "Minor", "Vhd", "SizeGB"]

/-- The text of a string. -/
def jsonString? : Value → Option String
  | .string text => text
  | _ => none

/-- The mode that a value names: its word, or an object with the word as its key and nothing in it. -/
def jsonMode? : Value → Option AccessMode
  | .string (some word) => AccessMode.ofWord? word
  | .object [(some word, .null)] => AccessMode.ofWord? word
  | _ => none

/-- A signed word. -/
def jsonInt? : Value → Option Int64
  | .int n =>
    if -(0x8000000000000000 : Int) ≤ n ∧ n < 0x8000000000000000 then some (Int64.ofInt n) else none
  | _ => none

/-- A word. -/
def jsonWord? : Value → Option UInt64
  | .int n => if 0 ≤ n ∧ n < 0x10000000000000000 then some (UInt64.ofNat n.toNat) else none
  | _ => none

/-- A truth value. -/
def jsonBool? : Value → Option Bool
  | .bool b => some b
  | _ => none

/-- The record with the field of a key set; none if the value does not suit the key. A key that no
record has changes nothing. -/
def setJson? (r : Record) (key : String) (v : Value) : Option Record :=
  match key with
  | "Type" => (jsonMode? v).map fun m => { r with mode := m }
  | "Name" => (jsonString? v).map fun s => { r with name := s }
  | "AccountName" => (jsonString? v).map fun s => { r with accountName := s }
  | "AccountKey" => (jsonString? v).map fun s => { r with accountKey := s }
  | "Path" => (jsonString? v).map fun s => { r with path := s }
  | "LeaseId" => (jsonString? v).map fun s => { r with leaseId := s }
  | "Major" => (jsonInt? v).map fun n => { r with major := n }
  | "Minor" => (jsonInt? v).map fun n => { r with minor := n }
  | "Vhd" => (jsonBool? v).map fun b => { r with vhd := b }
  | "SizeGB" => (jsonWord? v).map fun n => { r with sizeGb := n }
  | _ => some r

/-- The record with the fields set in order; none if a key has no text or a key of records comes
twice. `seen` holds the keys so far. -/
def setFields? (r : Record) (seen : List String) : List (Option String × Value) → Option Record
  | [] => some r
  | (none, _) :: _ => none
  | (some key, v) :: rest =>
    if key ∈ jsonKeys ∧ key ∈ seen then none
    else
      match setJson? r key v with
      | some r' => setFields? r' (key :: seen) rest
      | none => none

/-- The record in a value: an object, or a list of the values in the order of the keys. The first six
fields must be there. -/
def ofJson? : Value → Option Record
  | .object fields =>
    if (jsonKeys.take 6).all fun key => fields.any fun f => f.1 = some key then
      setFields? {} [] fields
    else none
  | .array items =>
    if 6 ≤ items.length ∧ items.length ≤ jsonKeys.length then
      setFields? {} [] ((jsonKeys.map some).zip items)
    else none
  | _ => none

/-- The record in a text. -/
def ofJsonBytes (bytes : List UInt8) : Except Error Record :=
  match (Value.read? bytes).bind ofJson? with
  | some r => .ok r
  | none => .error (.serialization "the text holds no record")

end BlobDisk.Record
