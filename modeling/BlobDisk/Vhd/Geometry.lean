/-!
# Disk geometry

Old tools address a disk by cylinder, head and sector. `Geometry.ofSize` picks the three counts for a
disk by the rules of the virtual hard disk format, with at most 65535 cylinders, 16 heads and 255
sectors in a track.
-/

namespace BlobDisk.Vhd

/-- The counts by which old tools address a disk. -/
structure Geometry where
  cylinders : UInt16
  heads : UInt8
  sectorsPerTrack : UInt8
deriving DecidableEq, Repr

namespace Geometry

/-- The most sectors that the counts can address. -/
def maxSectors : Nat := 65535 * 16 * 255

/-- Sectors per track, heads, and tracks, chosen for a number of sectors: the first of 17, 31 and 63
sectors per track that keeps the cylinders to 1024, and 255 for the largest disks. -/
def choose (sectors : Nat) : Nat × Nat × Nat :=
  if 65535 * 16 * 63 ≤ sectors then (255, 16, sectors / 255)
  else
    let tracks := sectors / 17
    let heads := max ((tracks + 1023) / 1024) 4
    let (perTrack, heads, tracks) :=
      if heads * 1024 ≤ tracks ∨ 16 < heads then (31, 16, sectors / 31) else (17, heads, tracks)
    if heads * 1024 ≤ tracks then (63, 16, sectors / 63) else (perTrack, heads, tracks)

/-- The geometry of a disk of `size` bytes. -/
def ofSize (size : UInt64) : Geometry :=
  let (perTrack, heads, tracks) := choose (min (size.toNat / 512) maxSectors)
  ⟨UInt16.ofNat (tracks / heads), UInt8.ofNat heads, UInt8.ofNat perTrack⟩

end Geometry

end BlobDisk.Vhd
