import BlobDisk.Channel.Buffer
import BlobDisk.Text.Pieces

/-!
# Answers of the device manager

The first line of an answer says whether the request was carried out, the rest is its payload.

* `Envelope.ofBytes`: the marker and the payload of an answer;
* `Envelope.names`: the names in the payload of a list.
-/

namespace BlobDisk

/-- An answer: what came after its first line, and whether that line refused the request. -/
structure Envelope where
  isError : Bool
  payload : String
deriving DecidableEq, Repr

namespace Envelope

/-- The first line of a refusal. -/
def refusal : String := "ERR"

/-- The first line of a success. -/
def success : String := "OK"

/-- The answer in a text. Any first line other than that of a refusal means success. -/
def ofText (text : List Char) : Envelope :=
  match Pieces.cut? '\n' text with
  | some (marker, payload) => ⟨marker = refusal.toList, String.ofList payload⟩
  | none => ⟨text = refusal.toList, ""⟩

/-- The answer in the bytes up to the first zero. -/
def ofBytes (bytes : List UInt8) : Envelope :=
  ofText (Utf8.decodeLossy (Buffer.beforeZero bytes))

/-- The answer in a buffer of which `length` bytes were reported. A length that cannot be right means
the whole buffer. -/
def ofBuffer (b : Buffer) (length : Nat) : Envelope :=
  ofBytes (if length = 0 ∨ Buffer.capacity < length then b.bytes else b.bytes.take length)

/-- The payload of a success; a refusal is an error with the payload as its text. -/
def result (e : Envelope) : Except Error String :=
  if e.isError then .error (.device e.payload) else .ok e.payload

/-- The request that asks for all names. -/
def listRequest : String := "-"

/-- The request that names one device. -/
def nameRequest (name : String) : String := name ++ "\n"

/-- The names in a list: each is ended by a line feed, and what follows the last is no name. -/
def names (payload : String) : List String :=
  ((Pieces.split '\n' payload.toList).dropLast).map String.ofList

end Envelope

end BlobDisk
