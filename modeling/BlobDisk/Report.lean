import BlobDisk.Provision
import BlobDisk.Record.Json
import BlobDisk.Text.Blank

/-!
# Reports of results

Records and new blobs are shown as a table or as JSON.

* `Report.table`: columns that start at the same place in each line, as wide as their longest cell and
  two spaces apart;
* `Report.records`, `Report.created`: the reports of the command line.
-/

namespace BlobDisk

/-- How results are shown. -/
inductive OutputFormat
  | table
  | json
deriving DecidableEq, Repr, Inhabited

namespace Report

open Json (Value)

/-- The width of each column: the most bytes in a cell. -/
def widths (rows : List (List String)) (columns : Nat) : List Nat :=
  (List.range columns).map fun i =>
    (rows.map fun row => (row.getD i "").utf8ByteSize).foldl max 0

/-- The cell with spaces after it up to a width in characters. -/
def pad (width : Nat) (cell : String) : List Char :=
  cell.toList ++ List.replicate (width - cell.toList.length) ' '

/-- A row as a line, without blanks at its end. -/
def line (widths : List Nat) (row : List String) : List Char :=
  Blank.trimEnd (Pieces.join [' ', ' '] (List.zipWith pad widths row)) ++ ['\n']

/-- The headers and the rows, a line each. -/
def table (headers : List String) (rows : List (List String)) : String :=
  let all := headers :: rows
  String.ofList (all.flatMap (line (widths all headers.length)))

/-- The word for a footer in tables. -/
def yesNo (b : Bool) : String := if b then "Yes" else "No"

/-- The headers of records. -/
def recordHeaders : List String := ["Type", "Name", "VHD", "SizeGB", "AccountName", "Path"]

/-- The cells of a record. -/
def recordRow (r : Record) : List String :=
  [r.mode.word, r.name, yesNo r.vhd, toString r.sizeGb.toNat, r.accountName, r.path]

/-- A value as the command line shows it. -/
def json (v : Value) : String := v.pretty 4

/-- The report of records. -/
def records (rs : List Record) : OutputFormat → String
  | .json => json (.array (rs.map Record.toJson))
  | .table => table recordHeaders (rs.map recordRow)

/-- The report of a new blob. -/
def created (c : CreatedBlob) : OutputFormat → String
  | .json => json (.ofFields [("Path", .text c.blob.text), ("SizeGB", .number c.sizeGb.toNat),
      ("Vhd", .bool c.vhd), ("LeaseId", .text (c.leaseId.getD ""))])
  | .table => table ["Path", "SizeGB", "VHD", "LeaseId"]
      [[c.blob.text, toString c.sizeGb.toNat, yesNo c.vhd, c.leaseId.getD ""]]

end Report

end BlobDisk
