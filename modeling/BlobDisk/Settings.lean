import BlobDisk.Channel.DeviceFile
import BlobDisk.Client
import BlobDisk.Settings.Duration
import BlobDisk.Settings.References
import BlobDisk.Settings.Section

/-!
# Settings

Settings come from a text in four sections, with references to the environment. What the text leaves
out has a default.

* `Settings.ofText`: the settings of a text;
* `Settings.ofBytes`: the settings of the content of a file;
* `Settings.validate`: the rules that settings have to obey.
-/

namespace BlobDisk

/-- What the command line needs to know beside its arguments. -/
structure Settings where
  /-- Which events are worth a line in the log. -/
  logLevel : String := "warn"
  account : Option String := none
  key : Option String := none
  /-- The domain of the blob services. -/
  domain : String := Record.defaultDomain
  /-- How long a request to the blob service may take. -/
  timeout : Duration := Duration.ofSeconds 30
  /-- The path of the device manager's file. -/
  devicePath : String := DeviceFile.defaultPath
  container : String := "dysks"
  sizeGb : UInt64 := 2
  vhd : Bool := true
deriving DecidableEq, Repr

namespace Settings

open Yaml (Node)

/-- The file that settings come from if it exists and no other is named. -/
def defaultPath : String := "/etc/dysk/config.yaml"

/-- A text that is not blank. -/
def given (text : Option String) : Option String :=
  text.filter fun t => Blank.trim t.toList ≠ []

/-- A text that denotes a duration. -/
def duration? (n : Node) : Option Duration := n.text?.bind Duration.parse?

/-- The settings in a document. -/
def ofRoot? (root : Node) : Option Settings := do
  let top ← Section.ofNode? root ["logging", "storage", "device", "defaults"] false root
  let logging ← top.section? root "logging" ["level"] true
  let storage ←
    top.section? root "storage" ["account", "key", "domain", "request_timeout"] false
  let device ← top.section? root "device" ["path"] false
  let defaults ← top.section? root "defaults" ["container", "size_gb", "vhd"] false
  let d : Settings := {}
  return {
    logLevel := (← logging.read? "level" Node.text?).getD d.logLevel
    account := given (← storage.optional? "account" Node.text?)
    key := given (← storage.optional? "key" Node.text?)
    domain := (given (← storage.optional? "domain" Node.text?)).getD d.domain
    timeout := (← storage.optional? "request_timeout" duration?).getD d.timeout
    devicePath := (← device.optional? "path" Node.text?).getD d.devicePath
    container := (← defaults.optional? "container" Node.text?).getD d.container
    sizeGb := ((← defaults.optional? "size_gb" (Node.unsigned? (0x10000000000000000))).map
      UInt64.ofNat).getD d.sizeGb
    vhd := (← defaults.optional? "vhd" Node.bool?).getD d.vhd }

/-- The settings of a text in an environment. A blank text leaves everything out. -/
def ofText (env : Environment) (text : String) : Except Fault Settings := do
  let text ← Environment.substitute env text
  if Blank.trim text.toList = [] then return {}
  match (Node.ofText? text).bind ofRoot? with
  | some s => return s
  | none => throw (.parse "not in the form of settings")

/-- The settings of the content of a file. -/
def ofBytes (env : Environment) (path : String) (bytes : List UInt8) : Except Fault Settings :=
  match Utf8.decode? bytes with
  | some text => ofText env (String.ofList text)
  | none => .error (.read path "stream did not contain valid UTF-8")

/-- The first rule that the settings break. -/
def validate (s : Settings) : Except Fault Unit :=
  if s.sizeGb = 0 then .error (.validation "defaults.size_gb must be at least 1")
  else if s.container = "" then .error (.validation "defaults.container cannot be empty")
  else if s.devicePath = "" then .error (.validation "device.path cannot be empty")
  else .ok ()

/-- A text that may be missing, for a log. -/
def shownOption : Option String → String
  | some text => "Some(" ++ Quoted.text text ++ ")"
  | none => "None"

/-- The settings about storage for a log, without the key. -/
def storageShown (s : Settings) : String :=
  "StorageConfig \x7b account: " ++ shownOption s.account ++ ", key: "
    ++ shownOption (s.key.map fun _ => "<redacted>") ++ ", domain: " ++ Quoted.text s.domain
    ++ ", request_timeout: " ++ s.timeout.shown ++ " \x7d"

/-- The account and the key of the settings, each replaced by a given one. -/
def credentials (s : Settings) (account key : Option String) : Option Credentials := do
  return ⟨← account.or s.account, ← key.or s.key⟩

end Settings

end BlobDisk
