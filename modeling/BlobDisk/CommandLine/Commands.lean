import BlobDisk.CommandLine.Arguments
import BlobDisk.Report
import BlobDisk.Settings
import BlobDisk.Volume

/-!
# The commands of the program

* `Commands.program`: the shape of the whole command line;
* `Invocation.ofArguments`: what a list of arguments asks for.
-/

namespace BlobDisk.CommandLine

namespace Commands

/-- The name of the program. -/
def programName : String := "dyskctl"

/-- The version of the program. -/
def version : String := "0.3.0"

/-! ## Options -/

/-- An option for a text. -/
def textOption (name placeholder help : String) (short : Option Char) : OptionShape :=
  { name, short, help, value := some { placeholder } }

/-- An option for the path of a file. -/
def pathOption (name placeholder help : String) (short : Option Char) : OptionShape :=
  { name, short, help, value := some { placeholder, kind := .path } }

/-- An option for a truth value. -/
def boolOption (name placeholder help : String) (short : Option Char) : OptionShape :=
  { name, short, help, value := some { placeholder, kind := .oneOf ["true", "false"] } }

/-- A flag. -/
def flagOption (name help : String) (short : Option Char) : OptionShape := { name, short, help }

/-- The option for the size of a blob. -/
def sizeOption : OptionShape :=
  { name := "size", short := some 'n', help := "Page blob size in GB",
    value := some { placeholder := "SIZE", kind := .word } }

/-- The option for a name of a device that has to be given. -/
def deviceNameOption : OptionShape :=
  { textOption "device-name" "DEVICE_NAME" "Block device name" (some 'd') with required := true }

/-- The option for a container. -/
def containerOption : OptionShape :=
  textOption "container-name" "CONTAINER" "Blob container name" (some 'c')

/-- The options for the account and its key. -/
def accountOptions : List OptionShape := [
  { textOption "account" "ACCOUNT" "Azure storage account name" (some 'a') with
    environment? := some { name := "DYSK_ACCOUNT" } },
  { textOption "key" "KEY" "Azure storage account key" (some 'k') with
    environment? := some { name := "DYSK_KEY", secret := true } }]

/-- The options of every command. -/
def common : List OptionShape := [
  pathOption "config" "CONFIG"
    "Configuration file (defaults to /etc/dysk/config.yaml when present)" none,
  { name := "output", short := some 'o', help := "Output format", default? := some "table",
    value := some { placeholder := "OUTPUT", kind := .oneOf ["table", "json"] } },
  pathOption "device" "DEVICE" "Control device of the dysk module" none]

/-! ## Commands -/

/-- Makes the blob of a disk to be mounted. -/
def autoCreate : CommandShape :=
  { name := "auto-create", help := "Create the page blob, then mount it", options := [sizeOption] }

/-- Mounts a blob. -/
def mount : CommandShape where
  name := "mount"
  help := "Mount a page blob as a block device"
  options := accountOptions ++ [
    textOption "pageblob-name" "PAGEBLOB_NAME" "Page blob name (defaults to the device name)"
      (some 'p'),
    containerOption,
    textOption "device-name" "DEVICE_NAME" "Block device name; a random name is used when empty"
      (some 'd'),
    textOption "lease-id" "LEASE_ID" "An existing lease id on the page blob" (some 'i'),
    boolOption "vhd" "VHD" "The page blob carries a VHD footer" (some 'v'),
    flagOption "read-only" "Mount read-only" (some 'r'),
    { boolOption "auto-lease" "AUTO_LEASE" "Acquire a lease when none is given" (some 'l') with
      default? := some "true" },
    flagOption "break-lease" "Break an existing lease on the page blob" (some 'b')]
  commands := [autoCreate]

/-- Makes a blob. -/
def create : CommandShape where
  name := "create"
  help := "Create a page blob without mounting it"
  options := accountOptions ++ [
    textOption "pageblob-name" "PAGEBLOB_NAME" "Page blob name; a random name is used when empty"
      (some 'p'),
    containerOption,
    boolOption "vhd" "VHD" "Write a VHD footer to the page blob" (some 'v'),
    flagOption "auto-lease" "Lease the new page blob" (some 'l'),
    sizeOption]

/-- Removes a blob. -/
def delete : CommandShape where
  name := "delete"
  help := "Delete a page blob"
  options := accountOptions ++ [
    { textOption "pageblob-name" "PAGEBLOB_NAME" "Page blob name" (some 'p') with
      required := true },
    containerOption,
    textOption "lease-id" "LEASE_ID" "Delete under this lease id" (some 'i'),
    flagOption "break-lease" "Break any lease before deleting" (some 'b')]

/-- Makes a persistent volume of a record. -/
def convertPv : CommandShape where
  name := "convert-pv"
  help := "Convert a dysk JSON file into a Kubernetes persistent volume"
  options := [
    pathOption "file" "FILE" "JSON file path; stdin is read when omitted" (some 'f'),
    { textOption "secret-name" "SECRET_NAME" "Flex volume secret name" none with
      required := true },
    textOption "secret-namespace" "SECRET_NAMESPACE" "Flex volume secret namespace" none,
    textOption "namespace" "NAMESPACE" "Volume namespace" none,
    { textOption "reclaim-policy" "RECLAIM_POLICY" "" none with default? := some "Retain" },
    { textOption "access-mode" "ACCESS_MODE" "" none with default? := some "ReadWriteOnce" },
    { textOption "fs-type" "FS_TYPE" "Filesystem type" none with
      byname := some "fsType", default? := some "ext4" },
    textOption "storageclass-name" "STORAGE_CLASS" "" none,
    { textOption "labels" "LABELS" "Labels as key1=val1,key2=val2" none with
      default? := some "" },
    flagOption "read-only" "Force a read-only volume" none]

/-- Mounts the blob of a record. -/
def mountFile : CommandShape where
  name := "mount-file"
  help := "Mount a page blob described by a dysk JSON file"
  options := [{ pathOption "file" "FILE" "JSON file path" (some 'f') with required := true }]

/-- Unmounts a disk. -/
def unmount : CommandShape where
  name := "unmount"
  help := "Unmount a dysk from this host"
  options := [deviceNameOption,
    flagOption "break-lease" "Break the lease on the dysk's page blob after unmounting"
      (some 'b')]

/-- Shows a mounted disk. -/
def get : CommandShape :=
  { name := "get", help := "Get a dysk mounted on this host", options := [deviceNameOption] }

/-- Shows all mounted disks. -/
def list : CommandShape := { name := "list", help := "List all dysks mounted on this host" }

/-- The whole command line. -/
def program : CommandShape where
  name := programName
  help := "Mount Azure page blobs as block devices"
  commands := [mount, create, delete, convertPv, mountFile, unmount, get, list]
  demanding := true

end Commands

/-! ## Meaning -/

/-- The account and the key that are given beside the settings. -/
structure GivenAccount where
  account : Option String := none
  key : Option String := none
deriving DecidableEq, Repr

/-- What the program is to do. A value that is not given comes from the settings. -/
inductive Job
  | mount (login : GivenAccount) (request : MountRequest) (container : Option String)
      (vhd : Option Bool) (sizeGb : Option UInt64)
  | create (login : GivenAccount) (name container : Option String) (vhd : Option Bool)
      (sizeGb : Option UInt64) (lease : Bool)
  | delete (login : GivenAccount) (name : String) (container leaseId : Option String)
      (breakLease : Bool)
  /-- Makes a volume of the record in a file, or on the input; the labels are still to be read. -/
  | convert (file : Option String) (volume : VolumeOptions) (labels : String)
  | mountFile (file : String)
  | unmount (name : String) (breakLease : Bool)
  | get (name : String)
  | list
deriving DecidableEq, Repr

/-- What is asked for, and how. -/
structure Invocation where
  job : Job
  /-- The file with the settings. -/
  settingsPath : Option String
  /-- The path of the device manager's file, before that of the settings. -/
  devicePath : Option String
  format : OutputFormat
deriving DecidableEq, Repr

namespace Arguments

/-- A truth value that is given. -/
def bool? (a : Arguments) (name : String) : Option Bool := (a.value? name).map (· = "true")

/-- A number that is given. -/
def word? (a : Arguments) (name : String) : Option UInt64 :=
  (a.value? name).bind fun s => Decimal.word? s.toList

/-- A text that is given, and not empty. -/
def text? (a : Arguments) (name : String) : Option String := (a.value? name).filter (· ≠ "")

/-- A text that has to be given or has a default. -/
def text (a : Arguments) (name : String) : String := (a.value? name).getD ""

/-- The account and the key. -/
def login (a : Arguments) : GivenAccount := ⟨a.value? "account", a.value? "key"⟩

/-- What to mount. A blob that is made for it is always leased. -/
def mountJob (a : Arguments) (autoCreate : Bool) : Job :=
  .mount a.login
    { deviceName := a.value? "device-name"
      objectName := a.value? "pageblob-name"
      readOnly := a.flag "read-only"
      autoCreate
      autoLease := (a.bool? "auto-lease").getD true || autoCreate
      breakLease := a.flag "break-lease"
      leaseId := a.text? "lease-id" }
    (a.value? "container-name") (a.bool? "vhd") (a.word? "size")

/-- What volume to make. -/
def volume (a : Arguments) : VolumeOptions where
  secretName := a.text "secret-name"
  secretNamespace := a.value? "secret-namespace"
  namespaceName := a.value? "namespace"
  reclaimPolicy := a.text "reclaim-policy"
  accessMode := a.text "access-mode"
  fsType := a.value? "fs-type"
  storageClass := a.value? "storageclass-name"
  readOnly := a.flag "read-only"

/-- What the commands ask for. -/
def job? (a : Arguments) : Option Job :=
  match a.path.drop 1 with
  | ["mount"] => some (a.mountJob false)
  | ["mount", "auto-create"] => some (a.mountJob true)
  | ["create"] =>
    some (.create a.login (a.value? "pageblob-name") (a.value? "container-name") (a.bool? "vhd")
      (a.word? "size") (a.flag "auto-lease"))
  | ["delete"] =>
    some (.delete a.login (a.text "pageblob-name") (a.value? "container-name")
      (a.text? "lease-id") (a.flag "break-lease"))
  | ["convert-pv"] => some (.convert (a.value? "file") a.volume (a.text "labels"))
  | ["mount-file"] => some (.mountFile (a.text "file"))
  | ["unmount"] => some (.unmount (a.text "device-name") (a.flag "break-lease"))
  | ["get"] => some (.get (a.text "device-name"))
  | ["list"] => some .list
  | _ => none

end Arguments

/-- What a list of arguments asks for. -/
def Invocation.ofArguments (env : Environment) (args : List String) : Except Stop Invocation := do
  let a ← Arguments.read env Commands.program Commands.common args
  match a.job? with
  | some job =>
    return {
      job
      settingsPath := a.value? "config"
      devicePath := a.value? "device"
      format := if a.value? "output" = some "json" then .json else .table }
  | none => throw .misuse

end BlobDisk.CommandLine
