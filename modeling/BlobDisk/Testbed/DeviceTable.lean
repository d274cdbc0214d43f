import BlobDisk.Channel.Command
import BlobDisk.Channel.Envelope
import BlobDisk.Record.Wire

/-!
# A device manager for tests

The table holds the records of mounted disks in the order in which they were mounted. It answers the
commands as the device manager does: it gives out device numbers, refuses a name that is taken and
knows no other rule.

* `DeviceTable.answer`: the answer to a request, and the table after it.
-/

namespace BlobDisk

/-- The records of mounted disks in order, and the next free minor number. -/
structure DeviceTable where
  records : List Record := []
  nextMinor : Int64 := 0
deriving DecidableEq, Repr

namespace DeviceTable

instance : Inhabited DeviceTable := ⟨{}⟩

/-- The major number of all devices of the table. -/
def major : Int64 := 252

/-- The record of a name. -/
def find? (t : DeviceTable) (name : String) : Option Record :=
  t.records.find? fun r => r.name = name

/-- The answer that shows a record. -/
def shown (r : Record) : String :=
  match Layout.response.toText r with
  | .ok text => "OK\n" ++ text
  | .error e => "ERR\n" ++ e.message

/-- The records without the first of a name. -/
def remove (name : String) : List Record → List Record
  | [] => []
  | r :: rest => if r.name = name then rest else r :: remove name rest

/-- The table with a record mounted, and the answer. -/
def mount (t : DeviceTable) (request : String) : String × DeviceTable :=
  match Record.ofText request with
  | .error e => ("ERR\nFailed to parse dysk: " ++ e.message, t)
  | .ok r =>
    if (t.find? r.name).isSome then
      ("ERR\nDevice with name:" ++ r.name ++ " already exists", t)
    else
      let r := { r with major := major, minor := t.nextMinor }
      (shown r, { records := t.records ++ [r], nextMinor := t.nextMinor + 16 })

/-- The name in a request, without the line feeds at its end. -/
def requestedName (request : String) : String :=
  String.ofList (request.toList.reverse.dropWhile (· = '\n')).reverse

/-- The answer to a request for one record. -/
def get (t : DeviceTable) (name : String) : String :=
  match t.find? name with
  | some r => shown r
  | none => "ERR\nFailed to get dysk, device with name:" ++ name ++ " does not exists"

/-- The table with a device removed, and the answer. -/
def unmount (t : DeviceTable) (name : String) : String × DeviceTable :=
  match t.find? name with
  | some _ => ("OK\n", { t with records := remove name t.records })
  | none => ("ERR\nFailed to unmount dysk, device with name:" ++ name ++ " does not exists", t)

/-- All names, a line each. -/
def list (t : DeviceTable) : String :=
  "OK\n" ++ String.join (t.records.map fun r => r.name ++ "\n")

/-- The answer to a request under a command, and the table after it. -/
def answer (t : DeviceTable) (command : Command) (request : String) : String × DeviceTable :=
  match command with
  | .mount => t.mount request
  | .get => (t.get (requestedName request), t)
  | .unmount => t.unmount (requestedName request)
  | .list => (t.list, t)

end DeviceTable

end BlobDisk
