import BlobDisk.Http.Status
import BlobDisk.Text.Utf8
import BlobDisk.Url

/-!
# Requests and responses

The values of headers that are sent are texts. Those that come back are bytes, and not all bytes are read
as a text.

* `Headers`: the headers of a request, with `Headers.set` and `Headers.text?`;
* `ReceivedHeaders`: the headers of a response, with `ReceivedHeaders.text?`;
* `HttpRequest`, `HttpResponse`: what is sent and what comes back.
-/

namespace BlobDisk

/-- Headers of a request in order, each a name in lower case and a value. -/
abbrev Headers := List (String × String)

namespace Headers

/-- A name as headers keep it. -/
def normalName (name : String) : String := String.ofList (name.toList.map Char.toLower)

/-- The headers of pairs with names in any case. -/
def ofPairs (pairs : List (String × String)) : Headers := pairs.map fun p => (normalName p.1, p.2)

/-- A value without spaces and tabs at its ends, which get lost on the way. -/
def trim (value : String) : String :=
  let blank (c : Char) : Bool := c = ' ' || c = '\t'
  String.ofList ((value.toList.dropWhile blank).reverse.dropWhile blank).reverse

/-- Whether a value is text: visible ASCII, spaces and tabs. -/
def isText (value : String) : Bool :=
  value.toList.all fun c => c = '\t' || (32 ≤ c.toNat && c.toNat < 127)

/-- The first value of a name, if it is text. -/
def text? (headers : Headers) (name : String) : Option String :=
  (headers.lookup name).filter isText

/-- The headers with the values of a name replaced by one. -/
def set (headers : Headers) (name value : String) : Headers :=
  headers.filter (fun p => p.1 ≠ name) ++ [(name, value)]

/-- Whether a text can be sent as the value of a header. -/
def isValue (value : String) : Bool :=
  value.toList.all fun c => c = '\t' || (32 ≤ c.toNat && c.toNat ≠ 127)

/-- Whether a character may stand in the name of a header. -/
def isNameChar (c : Char) : Bool :=
  c.isAlphanum || "!#$%&'*+-.^_`|~".toList.contains c

/-- The bytes that a value is sent as. -/
def bytes (value : String) : List UInt8 := Utf8.encode value.toList

end Headers

/-- Headers of a response in order, each a name in lower case and the bytes of a value. -/
abbrev ReceivedHeaders := List (String × List UInt8)

namespace ReceivedHeaders

/-- The headers of pairs with names in any case. -/
def ofPairs (pairs : List (String × List UInt8)) : ReceivedHeaders :=
  pairs.map fun p => (Headers.normalName p.1, p.2)

/-- A value without spaces and tabs at its ends, which get lost on the way. -/
def trim (value : List UInt8) : List UInt8 :=
  let blank (b : UInt8) : Bool := b = 32 || b = 9
  ((value.dropWhile blank).reverse.dropWhile blank).reverse

/-- Whether a value is text: visible ASCII, spaces and tabs. -/
def isText (value : List UInt8) : Bool := value.all fun b => b = 9 || (32 ≤ b && b < 127)

/-- A value as a text, if it is one. -/
def toText? (value : List UInt8) : Option String :=
  if isText value then some (String.ofList (value.map fun b => Char.ofNat b.toNat)) else none

/-- The first value of a name, if it is text. -/
def text? (headers : ReceivedHeaders) (name : String) : Option String := (headers.lookup name).bind toText?

end ReceivedHeaders

/-- What a request does. -/
inductive Method
  | get
  | head
  | put
  | delete
deriving DecidableEq, Repr

/-- The word for the method. -/
def Method.word : Method → String
  | get => "GET"
  | head => "HEAD"
  | put => "PUT"
  | delete => "DELETE"

/-- A request to a server. -/
structure HttpRequest where
  method : Method
  url : Url
  headers : Headers := []
  body : Option (List UInt8) := none
deriving DecidableEq, Repr

/-- A response of a server. -/
structure HttpResponse where
  status : Status
  headers : ReceivedHeaders := []
  body : List UInt8 := []
deriving DecidableEq, Repr

end BlobDisk
