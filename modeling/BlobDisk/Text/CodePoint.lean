/-!
# Tables of code points

Properties of characters are given by tables of code points.

* `CodePoint.inRanges`: whether a code point is in one of some ranges;
* `CodePoint.lookup?`: what a table says of a code point;
* `CodePoint.spelling?`: the characters that stand for a code point, by a table of runs.
-/

namespace BlobDisk.CodePoint

/-- Whether the code point is in one of the ranges, both ends included. -/
def inRanges (ranges : List (Nat × Nat)) (n : Nat) : Bool := ranges.any fun r => r.1 ≤ n && n ≤ r.2

/-- What is given for the range that the code point is in. -/
def lookup? {α : Type} (table : List (Nat × Nat × α)) (n : Nat) : Option α :=
  (table.find? fun r => r.1 ≤ n && n ≤ r.2.1).map (·.2.2)

/-- The number that digits in base sixteen denote. -/
def ofHex (digits : List Char) : Nat :=
  digits.foldl (fun n d => 16 * n + (if d.isDigit then d.toNat - 48 else d.toNat - 55)) 0

/-- The characters of a spelling: their numbers in base sixteen, joined by plus signs. -/
def ofSpelling (word : String) : List Char :=
  (word.splitOn "+").map fun digits => Char.ofNat (ofHex digits.toList)

/-- The spelling of a code point. An entry of the table gives the spellings of a run of code points,
from its first one on, with blanks between them; the runs are in increasing order. -/
def spelling? (table : List (Nat × String)) (n : Nat) : Option (List Char) := do
  let (first, words) ← (table.takeWhile fun entry => entry.1 ≤ n).getLast?
  return ofSpelling (← (words.splitOn " ")[n - first]?)

/-- All code points of a table of spellings, with the characters that stand for them. -/
def spellings (table : List (Nat × String)) : List (Char × List Char) :=
  table.flatMap fun (first, words) =>
    (words.splitOn " ").mapIdx fun i word => (Char.ofNat (first + i), ofSpelling word)

end BlobDisk.CodePoint
