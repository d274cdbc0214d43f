import BlobDisk.Error

/-!
# Sizes of disks, objects and payloads

A disk of a given number of gigabytes is stored in an object of as many times 2³⁰ bytes. Where the
object ends in a footer, the device sees all but the footer, in sectors of 512 bytes. All amounts are
64-bit words, and an amount that does not fit is refused, never wrapped:

* `Size.objectBytes`, `Size.payloadBytes`, `Size.sectorsFor`: from gigabytes to bytes and sectors;
* `Size.gbOfSectors`, `Size.gbOfObject`: back to whole gigabytes.
-/

namespace BlobDisk.Size

/-- Bytes in a sector. -/
def sectorBytes : Nat := 512

/-- Bytes in a gigabyte. -/
def gib : Nat := 1024 * 1024 * 1024

/-- Bytes of the footer at the end of an object. -/
def trailerBytes : Nat := 512

/-- The largest disk that can be created, in gigabytes. -/
def maxGb : Nat := 8192

/-- The number of values of a 64-bit word. -/
def wordLimit : Nat := 0x10000000000000000

/-- A new disk has between one and `maxGb` gigabytes. -/
def check (gb : UInt64) : Except Error Unit :=
  if gb.toNat = 0 ∨ maxGb < gb.toNat then
    .error (.validation ("Invalid size. Must be between 1 and " ++ toString maxGb ++ " GB"))
  else .ok ()

/-- Bytes of the object that holds `gb` gigabytes. -/
def objectBytes (gb : UInt64) : Except Error UInt64 :=
  if gb.toNat * gib < wordLimit then .ok (UInt64.ofNat (gb.toNat * gib))
  else .error (.validation
    ("Invalid size. " ++ toString gb.toNat ++ "GB is larger than " ++ toString maxGb ++ " GB"))

/-- Bytes of an object that the device sees: all but the footer, if there is one. An object without
room for a footer leaves nothing. -/
def payloadBytes (gb : UInt64) (trailer : Bool) : Except Error UInt64 := do
  let bytes ← objectBytes gb
  return if trailer then UInt64.ofNat (bytes.toNat - trailerBytes) else bytes

/-- Whole sectors that the device sees. -/
def sectorsFor (gb : UInt64) (trailer : Bool) : Except Error UInt64 := do
  let bytes ← payloadBytes gb trailer
  return UInt64.ofNat (bytes.toNat / sectorBytes)

/-- Bytes that a footer adds to the payload. -/
def footerShare (trailer : Bool) : Nat := if trailer then trailerBytes else 0

/-- Whole gigabytes of the object whose payload has `sectors` sectors. The number of sectors comes
from the device manager, so one that no object can have is an unreadable answer. -/
def gbOfSectors (sectors : UInt64) (trailer : Bool) : Except Error UInt64 :=
  let bytes := sectors.toNat * sectorBytes + footerShare trailer
  if bytes < wordLimit then .ok (UInt64.ofNat (bytes / gib))
  else .error (.decode
    ("sector count " ++ toString sectors.toNat ++ " does not fit in a 64-bit byte size"))

/-- Whole gigabytes in an object of `bytes` bytes. -/
def gbOfObject (bytes : UInt64) : UInt64 := UInt64.ofNat (bytes.toNat / gib)

end BlobDisk.Size
