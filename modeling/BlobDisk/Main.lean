import BlobDisk.Channel.DeviceFile
import BlobDisk.CommandLine.Session
import BlobDisk.Net.Resolver
import BlobDisk.Service.Endpoint
import BlobDisk.SystemError
import Std.Time.DateTime.Timestamp

/-!
# The command line

The program on a real machine: its files, its environment and its input stand behind
`CommandLine.Session.run`. Control requests and connections to a blob service are beyond this machine:
every device file refuses a request, and no call of a store gets through.
-/

namespace BlobDisk.Console

/-- The number that the system reported with an error. -/
def code? : IO.Error → Option UInt32
  | .alreadyExists _ code _ | .otherError code _ | .resourceBusy code _
  | .resourceVanished code _ | .unsupportedOperation code _ | .hardwareFault code _
  | .unsatisfiedConstraints code _ | .illegalOperation code _ | .protocolError code _
  | .timeExpired code _ | .interrupted _ code _ | .noFileOrDirectory _ code _
  | .invalidArgument _ code _ | .permissionDenied _ code _ | .resourceExhausted _ code _
  | .inappropriateType _ code _ | .noSuchThing _ code _ => some code
  | .unexpectedEof | .userError _ => none

/-- An error of the system in words. Some numbers are reported with a minus. -/
def reason (e : IO.Error) : String :=
  match code? e with
  | some code =>
    SystemError.message ⟨if code.toNat < 0x80000000 then code.toNat else 0x100000000 - code.toNat⟩
  | none => toString e

/-- The bytes of a file, or the reason why it cannot be read. -/
def read (path : String) : IO (Except String (List UInt8)) := do
  try
    return .ok (← IO.FS.readBinFile path).toList
  catch e => return .error (reason e)

/-- Opens a file to read from; answers the reason if that fails. -/
def openFile (path : String) : IO (Except String IO.FS.Handle) := do
  try
    return .ok (← IO.FS.Handle.mk path .read)
  catch e => return .error (reason e)

/-- Whether a path leads to something. -/
def isPresent (path : String) : IO Bool := do
  match ← openFile path with
  | .ok _ => return true
  | .error reason => return reason ≠ SystemError.noEntry.message

/-- A letter and twenty letters and digits. -/
def freshName : IO String := do
  let signs := "ABCDEFGHIJKLMNOPQRSTUVWXYZabcdefghijklmnopqrstuvwxyz0123456789".toList
  let picks ← (List.range 20).mapM fun _ => IO.rand 0 (signs.length - 1)
  return String.ofList ('d' :: picks.map fun i => signs.getD i 'a')

/-- The time, in seconds since the start of the year 2000, and an id of random bytes. -/
def footerStamp : IO Vhd.Stamp := do
  let now := (← Std.Time.Timestamp.now).toSecondsSinceUnixEpoch.val
  let bytes := (← IO.getRandomBytes 16).toList
  return ⟨UInt32.ofNat (now - 946684800).toNat, Vector.ofFn fun i => bytes.getD i 0⟩

/-- The answer to an effect of a program that runs with settings. -/
def handle (s : Settings) (e : Effect) : IO e.Answer :=
  match e with
  | .openChannel => do
    match ← openFile s.devicePath with
    | .ok _ => return .ok ()
    | .error reason => return .error (DeviceFile.openError s.devicePath reason)
  | .submit .. => return DeviceFile.notADevice
  | .closeChannel => return ()
  | .connect login => return (Endpoint.ofAccount login s.domain).map fun _ => ()
  | .store .. => return .error Endpoint.unreachable
  | .resolve host => return Resolver.literal host
  | .freshName => freshName
  | .footerStamp => footerStamp

/-- The variables in the bytes of an environment, where a zero ends each. A variable whose name is no text
cannot be asked for. -/
def entries (bytes : List UInt8) : Environment :=
  let equals : UInt8 := 61
  (bytes.splitOn 0).filterMap fun entry =>
    match entry.dropWhile (· ≠ equals) with
    | [] => none
    | _ :: value =>
      (Utf8.decode? (entry.takeWhile (· ≠ equals))).map fun name => (String.ofList name, value)

/-- The bytes of the environment. -/
def environment : IO (List UInt8) := do
  return (← read "/proc/self/environ").toOption.getD []

/-- The machine as a host, in an environment. -/
def host (environment : Environment) : CommandLine.Host IO where
  environment := environment
  read := read
  isPresent := isPresent
  input := do return (← (← IO.getStdin).readBinToEnd).toList
  perform s p := p.runIn (handle s)

end BlobDisk.Console

/-- Runs the program with its arguments; its status is that of the run. -/
def main (args : List String) : IO UInt32 := do
  let known := BlobDisk.Console.entries (← BlobDisk.Console.environment)
  let exit ← BlobDisk.CommandLine.Session.run (BlobDisk.Console.host known) args
  IO.print exit.output
  IO.eprint exit.remarks
  return UInt32.ofNat exit.code
