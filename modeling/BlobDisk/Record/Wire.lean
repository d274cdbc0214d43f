import BlobDisk.Record
import BlobDisk.Text.Decimal
import BlobDisk.Text.Pieces

/-!
# Records as lines of text

The device manager reads and writes a record as one line a field, in a fixed order. A mount request
leaves out the device's numbers, an answer holds them. One table per layout serves both directions:

* `Layout.toText`: the lines of a record, each within the device manager's limit for the field;
* `Record.ofText`: the record in a text, whose layout shows in the number of lines.
-/

namespace BlobDisk

/-- A field of a record as it stands in a line. -/
inductive Field
  | mode | name | sectorCount | accountName | accountKey | path | host | ip | leaseId
  | major | minor | vhd
deriving DecidableEq, Repr

namespace Field

/-- What messages call the field. -/
def label : Field → String
  | mode => "read/write flag"
  | name => "device name"
  | sectorCount => "sector count"
  | accountName => "account name"
  | accountKey => "account key"
  | path => "path"
  | host => "host"
  | ip => "ip"
  | leaseId => "lease id"
  | major => "major"
  | minor => "minor"
  | vhd => "vhd flag"

/-- The most bytes that the device manager holds for the field, where it sets a limit. -/
def limit? : Field → Option Nat
  | name => some Record.nameLimit
  | accountName => some Record.accountNameLimit
  | accountKey => some Record.accountKeyLimit
  | path => some Record.pathLimit
  | host => some Record.hostLimit
  | ip => some Record.ipLimit
  | leaseId => some Record.leaseIdLimit
  | mode | sectorCount | major | minor | vhd => none

/-- The field's value as text. -/
def value (f : Field) (r : Record) : String :=
  match f with
  | mode => r.mode.word
  | name => r.name
  | sectorCount => toString r.sectorCount.toNat
  | accountName => r.accountName
  | accountKey => r.accountKey
  | path => r.path
  | host => r.host
  | ip => r.ip
  | leaseId => r.leaseId
  | major => toString r.major.toInt
  | minor => toString r.minor.toInt
  | vhd => if r.vhd then "1" else "0"

/-- The record with the field set to what the text says; none if it says nothing of the kind. -/
def set? (f : Field) (r : Record) (text : List Char) : Option Record :=
  match f with
  | mode => (AccessMode.ofWord? (String.ofList text)).map fun m => { r with mode := m }
  | name => some { r with name := String.ofList text }
  | sectorCount => (Decimal.word? text).map fun n => { r with sectorCount := n }
  | accountName => some { r with accountName := String.ofList text }
  | accountKey => some { r with accountKey := String.ofList text }
  | path => some { r with path := String.ofList text }
  | host => some { r with host := String.ofList text }
  | ip => some { r with ip := String.ofList text }
  | leaseId => some { r with leaseId := String.ofList text }
  | major => (Decimal.signedWord? text).map fun n => { r with major := n }
  | minor => (Decimal.signedWord? text).map fun n => { r with minor := n }
  | vhd =>
    if text = ['0'] then some { r with vhd := false }
    else if text = ['1'] then some { r with vhd := true }
    else none

/-- Whether a value would break the layout: it holds the end of a line or of the text. -/
def breaksLine (text : String) : Bool := text.toList.any fun c => c = '\n' || c = '\x00'

/-- The field's value, if it fits a line and the device manager's limit. -/
def line (f : Field) (r : Record) : Except Error String :=
  let text := f.value r
  if breaksLine text then
    .error (.encode (f.label ++ " contains a line break or NUL byte"))
  else
    match f.limit? with
    | some limit =>
      if limit < text.utf8ByteSize then
        .error (.encode (f.label ++ " is " ++ toString text.utf8ByteSize ++ " bytes, maximum is "
          ++ toString limit))
      else .ok text
    | none => .ok text

end Field

/-- The order of the fields in one kind of text. -/
structure Layout where
  version : Nat
  fields : List Field
deriving DecidableEq, Repr

namespace Layout

/-- A request to mount a disk. -/
def request : Layout :=
  ⟨1, [.mode, .name, .sectorCount, .accountName, .accountKey, .path, .host, .ip, .leaseId, .vhd]⟩

/-- A record that the device manager returns. -/
def response : Layout :=
  ⟨1, [.mode, .name, .sectorCount, .accountName, .accountKey, .path, .host, .ip, .leaseId,
    .major, .minor, .vhd]⟩

/-- The layout whose lines are counted. -/
def ofLineCount? (count : Nat) : Option Layout :=
  if count = response.fields.length then some response
  else if count = request.fields.length then some request
  else none

/-- The lines of a record, each ended by a line feed. -/
def toText (layout : Layout) (r : Record) : Except Error String := do
  let lines ← layout.fields.mapM (·.line r)
  return String.join (lines.map (· ++ "\n"))

/-- The record with the fields set to the lines, in order; the first line that says nothing of the
kind that its field wants is the fault. -/
def fill : List Field → List (List Char) → Record → Except Error Record
  | f :: fields, text :: lines, r =>
    match f.set? r text with
    | some r' => fill fields lines r'
    | none => .error (.decode
      ("Can't determine " ++ f.label ++ " from '" ++ String.ofList text ++ "'"))
  | _, _, r => .ok r

end Layout

namespace Record

/-- The lines of a text; the last need not be ended. -/
def lines (text : String) : List (List Char) :=
  let pieces := Pieces.split '\n' text.toList
  if pieces.getLast? = some [] then pieces.dropLast else pieces

/-- The record that the text holds, in either layout. Fields that the layout lacks are zero. -/
def ofText (text : String) : Except Error Record :=
  let lines := lines text
  match Layout.ofLineCount? lines.length with
  | some layout => Layout.fill layout.fields lines { mode := .readOnly }
  | none => .error (.decode
      ("expected " ++ toString Layout.request.fields.length ++ " or "
        ++ toString Layout.response.fields.length ++ " fields, found " ++ toString lines.length))

end Record

end BlobDisk
