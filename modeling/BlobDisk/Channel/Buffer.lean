import BlobDisk.Error
import BlobDisk.Text.Utf8

/-!
# The control buffer

A request and its answer share one buffer of 2048 bytes. The request is padded with zeros; the device
manager writes its answer over the start of the buffer and reports how long it is, so what is left of
the request behind the answer has to be cut off.

* `Buffer.ofText`: the buffer of a request, refused if it is too long;
* `Buffer.text`: the text up to the first zero byte;
* `Buffer.overwrite`: an answer copied over the start.
-/

namespace BlobDisk

/-- The control buffer: exactly 2048 bytes. -/
structure Buffer where
  bytes : List UInt8
  length_bytes : bytes.length = 2048
deriving DecidableEq

namespace Buffer

/-- Bytes in the buffer. -/
def capacity : Nat := 2048

/-- A buffer of zeros. -/
def zero : Buffer := ⟨List.replicate 2048 0, List.length_replicate⟩

instance : Inhabited Buffer := ⟨zero⟩

/-- The buffer with `front` over its start. Bytes that do not fit are dropped. -/
def overwrite (b : Buffer) (front : List UInt8) : Buffer :=
  ⟨(front ++ b.bytes.drop front.length).take 2048, by
    have := b.length_bytes
    simp only [List.length_take, List.length_append, List.length_drop]
    omega⟩

/-- The bytes of a request, padded with zeros. -/
def ofText (text : String) : Except Error Buffer :=
  let bytes := Utf8.encode text.toList
  if capacity < bytes.length then
    .error (.encode ("request is " ++ toString bytes.length ++ " bytes, control buffer holds "
      ++ toString capacity))
  else .ok (zero.overwrite bytes)

/-- The bytes before the first zero, all if there is none. -/
def beforeZero (bytes : List UInt8) : List UInt8 := bytes.takeWhile (· ≠ 0)

/-- The text up to the first zero byte. -/
def text (b : Buffer) : String := String.ofList (Utf8.decodeLossy (beforeZero b.bytes))

/-- The bytes up to the last one that is not zero. -/
def used (b : Buffer) : List UInt8 := (b.bytes.reverse.dropWhile (· = 0)).reverse

end Buffer

end BlobDisk
