import BlobDisk.CommandLine.Commands
import BlobDisk.CommandLine.Help

/-!
# Runs of the program

A run takes its arguments, reads its settings, does what is asked, and ends with a status and with
lines on the output and beside it. It is stated over a host, which has an environment, files and an
input, and performs programs over the outside world.

* `Job.perform`: what a job does and what it reports;
* `Session.run`: a whole run.
-/

namespace BlobDisk.CommandLine

/-- How a run ends. -/
structure Exit where
  /-- The status of the process. -/
  code : Nat := 0
  output : String := ""
  /-- What is written beside the output. -/
  remarks : String := ""
deriving DecidableEq, Repr

/-- Where the program runs. -/
structure Host (m : Type → Type) where
  environment : Environment
  /-- The bytes of a file, or the reason why it cannot be read. -/
  read : String → m (Except String (List UInt8))
  /-- Whether a path leads to something. -/
  isPresent : String → m Bool
  /-- The whole input. -/
  input : m (List UInt8)
  /-- The value of a program that runs with the device manager and the storage of the settings. -/
  perform : {α : Type} → Settings → Program α → m α

/-! ## Ends of runs -/

namespace Exit

/-- The end of a run that shows records; JSON gets a line end of its own. -/
def ofRecords (rs : List Record) (format : OutputFormat) : Exit :=
  { output := Report.records rs format ++ if format = .json then "\n" else "" }

/-- The end of a run that made a blob. -/
def ofCreated (c : CreatedBlob) (format : OutputFormat) : Exit :=
  { output := String.ofList (Blank.trimEnd (Report.created c format).toList) ++ "\n" }

/-- The end of a run that did something, after the warnings about it. -/
def ofOutcome (o : Outcome) (done : String) : Exit :=
  { remarks := String.join (o.warnings.map fun w => "Warning:\n" ++ w.text ++ "\n")
      ++ "Status:\n" ++ done ++ "\n" }

/-- The end of a run that failed. -/
def failed (code : Nat) (message : String) : Exit :=
  { code, remarks := "Err:\n" ++ message ++ "\n" }

end Exit

/-! ## Jobs -/

namespace Job

/-- The file that a job takes a record from; `none` within stands for the input. -/
def source? : Job → Option (Option String)
  | convert file .. => some file
  | mountFile file => some (some file)
  | _ => none

/-- The client of a job. -/
def client (s : Settings) (given : GivenAccount) : Client :=
  { credentials := s.credentials given.account given.key, domain := s.domain }

/-- What a job does and reports. The bytes are those of its file or of the input. -/
def perform (job : Job) (s : Settings) (format : OutputFormat)
    (content : Except String (List UInt8)) : Action Exit :=
  let record : Action Record := Action.ofExcept do
    Record.ofJsonBytes (← content.mapError Error.io)
  match job with
  | mount given request container vhd sizeGb => do
    let request := { request with
      container := container.getD s.container, vhd := vhd.getD s.vhd
      sizeGb := sizeGb.getD s.sizeGb }
    return .ofRecords [← (client s given).mount request] format
  | create given name container vhd sizeGb lease => do
    let created ← (client s given).create {
      name, container := container.getD s.container, sizeGb := sizeGb.getD s.sizeGb
      vhd := vhd.getD s.vhd, lease }
    return .ofCreated created format
  | delete given name container leaseId breakLease => do
    let container := container.getD s.container
    let outcome ← (client s given).delete container name leaseId breakLease
    return .ofOutcome outcome ("Page blob /" ++ container ++ "/" ++ name ++ " deleted")
  | convert _ volume labels => do
    let r ← record
    let labels ← Action.ofExcept (Labels.parse labels)
    let v ← Action.ofExcept (PersistentVolume.ofRecord r { volume with labels })
    return { output := Report.json v ++ "\n" }
  | mountFile _ => do
    return .ofRecords [← (client s {}).mountRecord (← record) {}] format
  | unmount name breakLease => do
    return .ofOutcome (← Client.unmount name breakLease) ("Device:" ++ name ++ " unmounted")
  | get name => do return .ofRecords [← Client.get name] format
  | list => do return .ofRecords (← Client.list) format

end Job

/-! ## Runs -/

namespace Session

variable {m : Type → Type} [Monad m]

/-- The status of a run without settings. -/
def faultCode (f : Settings.Fault) : Nat := (Error.config f.message).exitCode

/-- The end of a run whose arguments ask for nothing to be done. -/
def stopped (env : Environment) : Stop → Exit
  | .help path command common => { output := Help.text env path command common }
  | .aboutHelp path => { output := Help.aboutHelp path }
  | .version => { output := Commands.programName ++ " " ++ Commands.version ++ "\n" }
  | .misuse => { code := 2, remarks := "error: invalid arguments\n" }

/-- The settings in the file of a path, in that of the default path if it exists, or the defaults. -/
def settings (h : Host m) (path : Option String) : m (Except Settings.Fault Settings) := do
  let path ← match path with
    | some path => pure (some path)
    | none => do
      pure (if ← h.isPresent Settings.defaultPath then some Settings.defaultPath else none)
  match path with
  | none => return .ok {}
  | some path =>
    match ← h.read path with
    | .ok bytes => return Settings.ofBytes h.environment path bytes
    | .error reason => return .error (.read path reason)

/-- The bytes that a job takes a record from. -/
def content (h : Host m) (job : Job) : m (Except String (List UInt8)) :=
  match job.source? with
  | none => return .ok []
  | some (some path) => h.read path
  | some none => do return .ok (← h.input)

/-- A run for what is asked, with settings. -/
def runJob (h : Host m) (i : Invocation) (s : Settings) : m Exit := do
  let bytes ← content h i.job
  match ← h.perform s (i.job.perform s i.format bytes).outcome with
  | .ok exit => return exit
  | .error e => return .failed e.exitCode e.message

/-- A run for what is asked. -/
def runInvocation (h : Host m) (i : Invocation) : m Exit := do
  match ← settings h i.settingsPath with
  | .error f => return .failed (faultCode f) f.message
  | .ok s =>
    let s := { s with devicePath := i.devicePath.getD s.devicePath }
    match s.validate with
    | .error f => return .failed (faultCode f) f.message
    | .ok () => runJob h i s

/-- A whole run. -/
def run (h : Host m) (args : List String) : m Exit :=
  match Invocation.ofArguments h.environment args with
  | .ok i => runInvocation h i
  | .error reason => return stopped h.environment reason

end Session

end BlobDisk.CommandLine
