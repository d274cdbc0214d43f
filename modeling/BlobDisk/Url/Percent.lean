import BlobDisk.Text.Utf8

/-!
# Percent-encoding

A byte that may not stand for itself in a part of an address is written as a percent sign and two
digits in base sixteen. Each part has its own set of such characters; all controls and all bytes of
characters beyond ASCII are in every set.

* `Percent.encode`: a text with the bytes of a set encoded;
* `Percent.decode`: the bytes of a text with encoded bytes; a percent sign without two digits stands
  for itself.
-/

namespace BlobDisk.Percent

/-- Controls, and bytes beyond ASCII. -/
def isControl (b : UInt8) : Bool := b < 0x20 || 0x7F ≤ b

/-- Whether the byte is one of the characters. -/
def isOneOf (chars : String) (b : UInt8) : Bool :=
  chars.toList.any fun c => UInt8.ofNat c.toNat = b

/-- What is encoded in fragments. -/
def fragmentSet (b : UInt8) : Bool := isControl b || isOneOf " \"<>`" b

/-- What is encoded in paths. -/
def pathSet (b : UInt8) : Bool := fragmentSet b || isOneOf "#?\x7b\x7d" b

/-- What is encoded in user names and passwords. -/
def userSet (b : UInt8) : Bool := pathSet b || isOneOf "/:;=@[\\]^|" b

/-- What is encoded in queries. -/
def querySet (b : UInt8) : Bool := isControl b || isOneOf " \"#<>" b

/-- What is encoded in queries of the schemes of the web. -/
def specialQuerySet (b : UInt8) : Bool := querySet b || b = 39

/-- The digit in base sixteen. -/
def hexDigit (n : Nat) : Char := if n < 10 then Char.ofNat (48 + n) else Char.ofNat (55 + n)

/-- A percent sign and the byte in base sixteen. -/
def triplet (b : UInt8) : List Char := ['%', hexDigit (b.toNat / 16), hexDigit (b.toNat % 16)]

/-- The bytes with those of the set encoded; the set has to hold all bytes beyond ASCII. -/
def encodeBytes (set : UInt8 → Bool) (bytes : List UInt8) : List Char :=
  bytes.flatMap fun b => if set b then triplet b else [Char.ofNat b.toNat]

/-- The text with the bytes of the set encoded. -/
def encode (set : UInt8 → Bool) (text : List Char) : List Char := encodeBytes set (Utf8.encode text)

/-- The value of a digit in base sixteen. -/
def hexValue? (b : UInt8) : Option Nat :=
  if 48 ≤ b ∧ b ≤ 57 then some (b.toNat - 48)
  else if 65 ≤ b ∧ b ≤ 70 then some (b.toNat - 55)
  else if 97 ≤ b ∧ b ≤ 102 then some (b.toNat - 87)
  else none

/-- The bytes with encoded ones decoded. -/
def decodeBytes : List UInt8 → List UInt8
  | 37 :: h :: l :: rest =>
    match hexValue? h, hexValue? l with
    | some x, some y => UInt8.ofNat (x * 16 + y) :: decodeBytes rest
    | _, _ => 37 :: decodeBytes (h :: l :: rest)
  | b :: rest => b :: decodeBytes rest
  | [] => []

/-- The bytes that a text stands for. -/
def decode (text : List Char) : List UInt8 := decodeBytes (Utf8.encode text)

end BlobDisk.Percent
