import BlobDisk.Channel.DeviceFile
import BlobDisk.Net.Resolver
import BlobDisk.Program
import BlobDisk.Record.Rules
import BlobDisk.Store.Memory
import BlobDisk.SystemError
import BlobDisk.Testbed.DeviceTable
import BlobDisk.Testbed.Files
import BlobDisk.Testbed.Peer

/-!
# A world to run programs in

Behind the effects of a program stand stores in memory, one for each account, or a blob service with
prepared responses; a table of devices, or prepared answers of the device manager; and a fixed table
of hosts. Every call of a store is noted and can be made to fail.

* `World.handle`: the answer to an effect and the world after it.
-/

namespace BlobDisk.Testbed

/-- An error prepared for a call of a method, after a number of calls that go through. -/
structure Fault where
  method : String
  error : Error
  after : Nat

/-- An answer prepared for the device manager. -/
inductive Script
  | failure (e : SystemError)
  /-- Bytes for the start of the buffer, which is zeroed first or not, and the length to report. -/
  | response (bytes : List UInt8) (clear : Bool) (length : Nat)

/-- What the control channel was used for. -/
structure Traffic where
  opened : Nat := 0
  closed : Nat := 0
  /-- The requests so far, the last first. -/
  requests : List (Command × String) := []

/-- The world behind the effects. -/
structure World where
  /-- The blob service, where it takes the place of the stores in memory. -/
  peer : Option Peer := none
  /-- The domain of blob services that no call can reach, where they take the place of all others. -/
  remote : Option String := none
  stores : List (String × MemoryStore) := []
  faults : List Fault := []
  scripts : List Script := []
  openErrors : List SystemError := []
  /-- The path of a device file and the files around it, where they take the place of the table. -/
  deviceFile : Option (String × Files) := none
  table : DeviceTable := {}
  hosts : List (String × IpAddress) := []
  anyHost : Option IpAddress := none
  /-- How many leases and names were made up. -/
  leases : Nat := 0
  names : Nat := 0
  /-- The calls of stores so far, the last first. -/
  calls : List String := []
  traffic : Traffic := {}

namespace World

instance : Inhabited World := ⟨{}⟩

/-! ## Made-up values -/

/-- The number with zeros in front, `width` digits of base sixteen. -/
def padded (width n : Nat) : String :=
  let digits := Nat.toDigits 16 n
  String.ofList (List.replicate (width - digits.length) '0' ++ digits)

/-- The id of the lease with a number, in the form of a universal unique id. -/
def leaseId (n : Nat) : String := "7b1e93d4-5c2a-4f68-a0d7-" ++ padded 12 n

/-- The name made up with a number: a letter and twenty letters and digits. -/
def diskName (n : Nat) : String := "dQz7Xw4Kt9Vb" ++ padded 9 n

/-! ## Notes and faults -/

/-- The world with a call noted. -/
def note {α : Type} (w : World) (text : String) (result : Except Error α) : World :=
  let outcome := match result with
    | .ok _ => "ok"
    | .error e => e.kind
  { w with calls := (text ++ " -> " ++ outcome) :: w.calls }

/-- The error that a call of a method meets, and the faults that are left. Only the first fault of
the method counts; it waits until the calls before it have gone through. -/
def takeFault (method : String) : List Fault → Option Error × List Fault
  | [] => (none, [])
  | f :: rest =>
    if f.method = method then
      match f.after with
      | 0 => (some f.error, rest)
      | n + 1 => (none, { f with after := n } :: rest)
    else
      let (e, rest) := takeFault method rest
      (e, f :: rest)

/-- A call of a method, unless a fault meets it; noted either way. -/
def attempt {α : Type} (method args : String) (call : World → Except Error α × World) (w : World) :
    Except Error α × World :=
  let (fault, faults) := takeFault method w.faults
  let w := { w with faults }
  let (result, w) : Except Error α × World := match fault with
    | some e => (.error e, w)
    | none => call w
  (result, w.note (method ++ " " ++ args) result)

/-! ## Stores -/

/-- The store of an account. -/
def store (w : World) (account : String) : MemoryStore := (w.stores.lookup account).getD {}

/-- The world with the store of an account replaced. -/
def setStore (w : World) (account : String) (m : MemoryStore) : World :=
  { w with stores := (account, m) :: w.stores.filter fun s => s.1 ≠ account }

/-- Whether the credentials open a store. -/
def opens (w : World) (login : Credentials) : Except Error Unit :=
  match w.remote, w.peer with
  | some domain, _ => (Endpoint.ofAccount login domain).map fun _ => ()
  | none, some p => (Endpoint.ofUrl p.base login).map fun _ => ()
  | none, none => (Rules.keyBytes login.key).map fun _ => ()

/-- The lease in notes. -/
def leaseText : Option String → String
  | some id => "lease=" ++ id
  | none => "no-lease"

/-- The metadata in notes. -/
def metadataText (m : TextMap) : String :=
  "[" ++ String.intercalate "," (m.map fun p => p.1 ++ "=" ++ p.2) ++ "]"

/-- The method of a call in notes. -/
def method : StoreCall → String
  | .createContainer _ => "create_container_if_absent"
  | .containerExists _ => "container_exists"
  | .blobExists _ => "blob_exists"
  | .createPageBlob .. => "create_page_blob"
  | .writeRange .. => "write_range"
  | .readRange .. => "read_range"
  | .properties .. => "properties"
  | .setMetadata .. => "set_metadata"
  | .acquireLease .. => "acquire_lease"
  | .breakLease .. => "break_lease"
  | .deleteBlob .. => "delete_blob"

/-- The arguments of a call in notes. -/
def args : StoreCall → String
  | .createContainer c | .containerExists c => c
  | .blobExists b => b.text
  | .createPageBlob b size => b.text ++ " " ++ toString size.toNat
  | .writeRange b range data lease =>
    b.text ++ " " ++ range.text ++ " " ++ toString data.length ++ " bytes " ++ leaseText lease
  | .readRange b range lease => b.text ++ " " ++ range.text ++ " " ++ leaseText lease
  | .properties b lease | .deleteBlob b lease => b.text ++ " " ++ leaseText lease
  | .setMetadata b metadata lease =>
    b.text ++ " " ++ metadataText metadata ++ " " ++ leaseText lease
  | .acquireLease b duration => b.text ++ " " ++ duration.text
  | .breakLease b seconds => b.text ++ " " ++ toString seconds.toNat

/-- The world with one more lease made up, if the call took one. -/
def countLease (w : World) (call : StoreCall) (taken : Bool) : World :=
  match call with
  | .acquireLease .. => if taken then { w with leases := w.leases + 1 } else w
  | _ => w

/-- The answer of the store behind the credentials. -/
def callStore (login : Credentials) (call : StoreCall) (w : World) :
    Except Error call.Answer × World :=
  match w.remote, w.peer with
  | some _, _ => (.error Endpoint.unreachable, w)
  | none, some p =>
    let (result, p) := p.perform login call
    (result, { w with peer := some p })
  | none, none =>
    let (result, m) := (w.store login.account).perform (leaseId (w.leases + 1)) call
    (result, (w.setStore login.account m).countLease call result.isOk)

/-! ## The device manager -/

/-- The answer to the opening of the control channel. -/
def openChannel (w : World) : Except Error Unit × World :=
  let opened := { w with traffic := { w.traffic with opened := w.traffic.opened + 1 } }
  match w.deviceFile with
  | some (path, files) =>
    match files.openPath path with
    | .ok _ => (.ok (), opened)
    | .error reason => (.error (DeviceFile.openError path reason), w)
  | none =>
    match w.openErrors with
    | e :: rest => (.error (.channel e.message), { w with openErrors := rest })
    | [] => (.ok (), opened)

/-- A prepared answer over the buffer of a request. -/
def scripted (b : Buffer) : Script → Except String Reply
  | .failure e => .error e.message
  | .response bytes clear length =>
    .ok ⟨(if clear then Buffer.zero else b).overwrite bytes, length⟩

/-- The text of an answer in an empty buffer. -/
def written (text : String) : Except String Reply :=
  let bytes := Utf8.encode text.toList
  if Buffer.capacity < bytes.length then .error "response too large"
  else .ok ⟨Buffer.zero.overwrite bytes, bytes.length⟩

/-- The answer to a request. -/
def submit (command : Command) (b : Buffer) (w : World) : Except String Reply × World :=
  let request := b.text
  let w := { w with
    traffic := { w.traffic with requests := (command, request) :: w.traffic.requests } }
  match w.deviceFile, w.scripts with
  | some _, _ => (DeviceFile.notADevice, w)
  | none, s :: rest => (scripted b s, { w with scripts := rest })
  | none, [] =>
    let (text, table) := w.table.answer command request
    (written text, { w with table })

/-! ## Effects -/

/-- The address of a host in the table. -/
def address (w : World) (host : String) : Except Error IpAddress :=
  match (w.hosts.lookup host).or w.anyHost with
  | some ip => .ok ip
  | none => .error (Resolver.failed host)

/-- The answer to an effect, and the world after it. -/
def handle (e : Effect) (w : World) : e.Answer × World :=
  match e with
  | .openChannel => w.openChannel
  | .submit command b => w.submit command b
  | .closeChannel =>
    ((), { w with traffic := { w.traffic with closed := w.traffic.closed + 1 } })
  | .connect login => w.attempt "connect" login.account fun w => (w.opens login, w)
  | .store login call => w.attempt (method call) (args call) (callStore login call)
  | .resolve host => (w.address host, w)
  | .freshName => (diskName (w.names + 1), { w with names := w.names + 1 })
  | .footerStamp => ((default : Vhd.Stamp), w)

/-- The result of a program in the world, and the world after it. -/
def run {α : Type} (p : Program α) (w : World) : α × World := p.run handle w

end World

end BlobDisk.Testbed
