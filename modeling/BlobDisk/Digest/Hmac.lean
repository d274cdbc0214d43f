import BlobDisk.Digest.Sha256

/-!
# Keyed hashes

`Hmac.sign` is the message authentication code made of SHA-256: the key, brought to the length of a
block, is mixed into an inner and an outer hash.
-/

namespace BlobDisk.Hmac

/-- Bytes in a block of the hash. -/
def blockBytes : Nat := 64

/-- The key in exactly one block: a longer key is hashed first, and zeros fill the rest. -/
def blockKey (key : List UInt8) : List UInt8 :=
  let short := if key.length ≤ blockBytes then key else Sha256.digest key
  short ++ List.replicate (blockBytes - short.length) 0

/-- The code of the message under the key, 32 bytes. -/
def sign (key message : List UInt8) : List UInt8 :=
  let block := blockKey key
  let inner := Sha256.digest (block.map (· ^^^ 0x36) ++ message)
  Sha256.digest (block.map (· ^^^ 0x5c) ++ inner)

end BlobDisk.Hmac
