import BlobDisk.Json.Writer
import BlobDisk.Store.Blob
import BlobDisk.Text.Blank
import BlobDisk.Text.Lowercase

/-!
# Persistent volumes

A cluster mounts a disk through a persistent volume, which names the blob and the secret that holds
the credentials of its account.

* `Labels.parse`: labels from the words of a command line;
* `PersistentVolume.ofRecord`: the volume of a record, as a JSON value.
-/

namespace BlobDisk

open Json (Value)

namespace Labels

/-- The label in a piece of the list: a key that is not empty, an equals sign and a value. -/
def pair (piece : List Char) : Except Error (String × String) :=
  match Pieces.cut? '=' piece with
  | some (key, value) =>
    if key ≠ [] then .ok (String.ofList key, String.ofList value)
    else .error (.validation ("Invalid label " ++ String.ofList piece ++ ". Must be key=value"))
  | none => .error (.validation ("Invalid label " ++ String.ofList piece ++ ". Must be key=value"))

/-- The pieces between commas without blanks around them; blank ones hold no label. -/
def pieces (text : String) : List (List Char) :=
  ((Pieces.split ',' text.toList).map Blank.trim).filter (· ≠ [])

/-- The labels in a list with commas. Of two labels with one key the later counts. -/
def parse (text : String) : Except Error TextMap := do
  return TextMap.ofList (← (pieces text).mapM pair)

end Labels

/-- What a volume needs beside the record. -/
structure VolumeOptions where
  secretName : String := ""
  secretNamespace : Option String := none
  namespaceName : Option String := none
  reclaimPolicy : String := "Retain"
  accessMode : String := "ReadWriteOnce"
  fsType : Option String := some "ext4"
  storageClass : Option String := none
  /-- Makes the volume read-only whatever the record allows. -/
  readOnly : Bool := false
  labels : TextMap := []
deriving DecidableEq, Repr

namespace PersistentVolume

/-- The driver that mounts the blob on a node. -/
def driver : String := "dysk/dysk"

/-- A field for a text that is there and not empty. -/
def optional (key : String) (text : Option String) : List (String × Value) :=
  match text with
  | some t => if t = "" then [] else [(key, .text t)]
  | none => []

/-- An object with a text for each key. -/
def ofTexts (m : List (String × String)) : Value := .ofFields (m.map fun p => (p.1, .text p.2))

/-- The name, the namespace and the labels of the volume. -/
def metadata (r : Record) (o : VolumeOptions) : Value :=
  .ofFields (("name", .text (Lowercase.text r.name)) :: optional "namespace" o.namespaceName
    ++ (if o.labels = [] then [] else [("labels", ofTexts o.labels)]))

/-- How a node mounts the blob. -/
def flexVolume (r : Record) (blob : BlobPath) (o : VolumeOptions) : Value :=
  .ofFields (("driver", .text driver) :: optional "fsType" o.fsType ++ [
    ("readOnly", .bool (r.mode.isReadOnly || o.readOnly)),
    ("secretRef", .ofFields
      (("name", .text o.secretName) :: optional "namespace" o.secretNamespace)),
    ("options", ofTexts [("accountName", r.accountName), ("blob", blob.name),
      ("container", blob.container)])])

/-- The volume of a record. -/
def ofRecord (r : Record) (o : VolumeOptions) : Except Error Value := do
  if o.secretName = "" then
    throw (.validation "secretName is required")
  let blob ← BlobPath.parse r.path
  let spec : List (String × Value) := [
      ("accessModes", .array [.text o.accessMode]),
      ("capacity", .ofFields [("storage", .text (toString r.sizeGb.toNat ++ "Gi"))]),
      ("persistentVolumeReclaimPolicy", .text o.reclaimPolicy)]
    ++ optional "storageClassName" o.storageClass
    ++ [("flexVolume", flexVolume r blob o)]
  return .ofFields [("apiVersion", .text "v1"), ("kind", .text "PersistentVolume"),
    ("metadata", metadata r o), ("spec", .ofFields spec)]

end PersistentVolume

end BlobDisk
