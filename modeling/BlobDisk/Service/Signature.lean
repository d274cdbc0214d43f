import BlobDisk.Digest.Hmac
import BlobDisk.Http.Message
import BlobDisk.Record.Rules
import BlobDisk.Store.Credentials

/-!
# Signatures of requests

A request to the blob service is signed with the key of the account. What is signed is a canonical
text of the request, which does not depend on the order of its headers and parameters:

* `Signature.canonicalHeaders`: the headers of the service, by name;
* `Signature.canonicalResource`: the path and the parameters, by name and value;
* `Signature.stringToSign`: the whole text;
* `Signature.authorization`: the header that carries the signature.
-/

namespace BlobDisk.Signature

/-- The account and the bytes of its key. -/
structure Key where
  account : String
  bytes : List UInt8
deriving DecidableEq, Repr

/-- The key of credentials, which has to be base 64. -/
def Key.ofCredentials (login : Credentials) : Except Error Key := do
  let bytes ← Rules.keyBytes login.key
  return ⟨login.account, bytes⟩

/-- The key for a log. -/
def Key.shown (k : Key) : String := shownAccount "SharedKeyCredential" k.account

/-- The standard headers that are signed, in order. -/
def standardHeaders : List String :=
  ["content-encoding", "content-language", "content-length", "content-md5", "content-type", "date",
    "if-modified-since", "if-match", "if-none-match", "if-unmodified-since", "range"]

/-- The line of a standard header: its value, which is empty if there is none. A length of zero counts
as none. -/
def standardLine (headers : Headers) (name : String) : String :=
  let value := (headers.text? name).getD ""
  if name = "content-length" ∧ value = "0" then "" else value

/-- What the names of the service's own headers start with. -/
def serviceStart : List Char := "x-ms-".toList

/-- Whether a header is one of the service's own. -/
def isServiceHeader (name : String) : Bool := (Pieces.after? serviceStart name.toList).isSome

/-- A value as it is signed: without blanks at its ends; one that is no text counts as empty. -/
def signedValue (value : String) : String := if Headers.isText value then Headers.trim value else ""

/-- The service's own headers by name. -/
def serviceHeaders (headers : Headers) : TextMap :=
  TextMap.ofList ((headers.filter fun h => isServiceHeader h.1).map fun h => (h.1, signedValue h.2))

/-- The service's own headers, a line each, in the order of their names. -/
def canonicalHeaders (headers : Headers) : String :=
  String.join ((serviceHeaders headers).map fun h => h.1 ++ ":" ++ h.2 ++ "\n")

/-- A name of a parameter as it is signed. -/
def lowerName (name : String) : String := String.ofList (name.toList.map Char.toLower)

/-- The order of texts by their characters. -/
def textLe (a b : String) : Bool := ¬ b < a

/-- The parameters with their names as they are signed. -/
def signedPairs (pairs : List (String × String)) : List (String × String) :=
  pairs.map fun p => (lowerName p.1, p.2)

/-- The values given under a name, in order of the values. -/
def valuesOf (pairs : List (String × String)) (name : String) : List String :=
  ((pairs.filter fun p => p.1 = name).map (·.2)).mergeSort textLe

/-- The names of the parameters, in order, each once. -/
def names (pairs : List (String × String)) : List String :=
  (TextMap.ofList (pairs.map fun p => (p.1, ""))).map (·.1)

/-- The account and the path, then a line for each name of a parameter with all its values. -/
def canonicalResource (account path : String) (pairs : List (String × String)) : String :=
  let signed := signedPairs pairs
  "/" ++ account ++ path ++ String.join ((names signed).map fun name =>
    "\n" ++ name ++ ":" ++ String.intercalate "," (valuesOf signed name))

/-- The text that is signed. -/
def stringToSign (account method path : String) (pairs : List (String × String))
    (headers : Headers) : String :=
  method ++ "\n" ++ String.join (standardHeaders.map fun name => standardLine headers name ++ "\n")
    ++ canonicalHeaders headers ++ canonicalResource account path pairs

/-- The signature of a text: its code under the key, in base 64. -/
def sign (key : Key) (text : String) : String :=
  String.ofList ((Base64.encode (Hmac.sign key.bytes (Utf8.encode text.toList))).map fun b =>
    Char.ofNat b.toNat)

/-- The value of the header that carries the signature of a request. -/
def authorization (key : Key) (method : String) (url : Url) (headers : Headers) : String :=
  "SharedKey " ++ key.account ++ ":" ++
    sign key (stringToSign key.account method (String.ofList url.path) url.queryPairs headers)

end BlobDisk.Signature
