import BlobDisk.Text.Pieces
import BlobDisk.Url.Percent

/-!
# Pairs in queries

A query holds pairs of a name and a value, joined by ampersands.

* `Form.pairs`: the pairs of a query, decoded;
* `Form.encodePair`: a pair as it is written.
-/

namespace BlobDisk.Form

/-- A part of a pair, decoded: a plus stands for a space. -/
def decodePart (part : List Char) : String :=
  String.ofList (Utf8.decodeLossy
    (Percent.decode (part.map fun c => if c = '+' then ' ' else c)))

/-- The pair in a piece of a query. A piece without an equals sign is a name with an empty value. -/
def decodePair (piece : List Char) : String × String :=
  match Pieces.cut? '=' piece with
  | some (name, value) => (decodePart name, decodePart value)
  | none => (decodePart piece, "")

/-- The pairs of a query, in order. Empty pieces hold none. -/
def pairs (query : List Char) : List (String × String) :=
  ((Pieces.split '&' query).filter (· ≠ [])).map decodePair

/-- Bytes that stand for themselves in a pair. -/
def isPlain (b : UInt8) : Bool :=
  (48 ≤ b && b ≤ 57) || (65 ≤ b && b ≤ 90) || (97 ≤ b && b ≤ 122) || Percent.isOneOf "*-._" b

/-- A part of a pair as it is written: a space becomes a plus. -/
def encodePart (part : String) : List Char :=
  (Utf8.encode part.toList).flatMap fun b =>
    if isPlain b then [Char.ofNat b.toNat] else if b = 32 then ['+'] else Percent.triplet b

/-- A pair as it is written. -/
def encodePair (pair : String × String) : List Char :=
  encodePart pair.1 ++ '=' :: encodePart pair.2

/-- A query with pairs added at its end. -/
def append (query : List Char) (pairs : List (String × String)) : List Char :=
  pairs.foldl (fun q p => if q = [] then encodePair p else q ++ '&' :: encodePair p) query

end BlobDisk.Form
