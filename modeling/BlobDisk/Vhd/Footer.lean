import BlobDisk.Vhd.Geometry

/-!
# Footers of virtual hard disks

A fixed disk is its payload followed by 512 bytes that describe it, all numbers with the most
significant byte first. A checksum over the other bytes guards the footer.

* `Footer.build`: the footer of a payload, given the time and the id that it records;
* `Footer.isValid`: whether bytes are a footer with the right checksum;
* `Footer.diskSize`: the size of the payload that a footer records.
-/

namespace BlobDisk.Vhd

/-- What a footer records beside the disk itself: when it was made, in seconds since the start of the
year 2000, and an id of its own. -/
structure Stamp where
  seconds : UInt32
  id : Vector UInt8 16
deriving DecidableEq, Repr

instance : Inhabited Stamp := ⟨⟨0, Vector.replicate 16 0⟩⟩

/-- The `width` lowest bytes of a number, the most significant first. -/
def bigEndian (width n : Nat) : List UInt8 :=
  (List.range width).map fun i => UInt8.ofNat (n / Nat.pow 256 (width - 1 - i))

/-- The number in bytes, the most significant first. -/
def ofBigEndian (bytes : List UInt8) : Nat := bytes.foldl (fun n b => n * 256 + b.toNat) 0

namespace Footer

/-- Bytes in a footer. -/
def size : Nat := 512

/-- The bytes that every footer starts with. -/
def cookie : List UInt8 := "conectix".toList.map fun c => UInt8.ofNat c.toNat

/-- The bytes before the checksum, 64 of them. -/
def front (diskSize : UInt64) (stamp : Stamp) : List UInt8 :=
  let geometry := Geometry.ofSize diskSize
  cookie
    ++ bigEndian 4 2                                -- reserved feature bit
    ++ bigEndian 4 0x10000                          -- version of the format
    ++ bigEndian 8 0xFFFFFFFFFFFFFFFF               -- no further header
    ++ bigEndian 4 stamp.seconds.toNat
    ++ "dysk".toList.map (fun c => UInt8.ofNat c.toNat)
    ++ bigEndian 4 0x10000                          -- version of the creator
    ++ "Wi2k".toList.map (fun c => UInt8.ofNat c.toNat)
    ++ bigEndian 8 diskSize.toNat                   -- size when made
    ++ bigEndian 8 diskSize.toNat                   -- current size
    ++ bigEndian 2 geometry.cylinders.toNat
    ++ [geometry.heads, geometry.sectorsPerTrack]
    ++ bigEndian 4 2                                -- a fixed disk

/-- The bytes after the checksum, 444 of them: the id, and zeros. -/
def back (stamp : Stamp) : List UInt8 := stamp.id.toList ++ List.replicate 428 0

/-- The sum of bytes as a word of 32 bits, all its bits flipped. -/
def invertedSum (bytes : List UInt8) : UInt32 :=
  UInt32.ofNat (0xFFFFFFFF - bytes.foldl (fun n b => n + b.toNat) 0 % 0x100000000)

/-- The checksum that belongs into the bytes of a footer: it covers all but its own four. -/
def checksum (bytes : List UInt8) : UInt32 := invertedSum (bytes.take 64 ++ bytes.drop 68)

/-- The footer of a payload of `diskSize` bytes. -/
def build (diskSize : UInt64) (stamp : Stamp) : List UInt8 :=
  front diskSize stamp
    ++ bigEndian 4 (invertedSum (front diskSize stamp ++ back stamp)).toNat
    ++ back stamp

/-- The checksum that the bytes hold. -/
def storedChecksum (bytes : List UInt8) : Nat := ofBigEndian ((bytes.drop 64).take 4)

/-- Whether the bytes are a footer: 512 bytes with the cookie and the right checksum. -/
def isValid (bytes : List UInt8) : Bool :=
  bytes.length = size && bytes.take 8 = cookie && storedChecksum bytes = (checksum bytes).toNat

/-- The size of the payload that a footer records. -/
def diskSize (bytes : List UInt8) : UInt64 := UInt64.ofNat (ofBigEndian ((bytes.drop 48).take 8))

end Footer

end BlobDisk.Vhd
