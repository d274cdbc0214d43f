import BlobDisk.Service.Signature
import BlobDisk.Store.Call

/-!
# Requests to the blob service

The calls of a blob store as requests of the service's interface.

* `Endpoint.ofAccount`, `Endpoint.ofUrl`: where the blobs of an account are;
* `Endpoint.request`: the request of a call;
* `Endpoint.signed`: the request with its date, its length and its signature.
-/

namespace BlobDisk

/-- The blob service of one account. -/
structure Endpoint where
  base : Url
  key : Signature.Key
deriving DecidableEq, Repr

namespace Endpoint

/-- The version of the interface that every request names. -/
def version : String := "2017-04-17"

/-- What the names of headers with metadata start with. -/
def metadataStart : String := "x-ms-meta-"

/-- The service at a given address. -/
def ofUrl (base : Url) (login : Credentials) : Except Error Endpoint := do
  let key ← Signature.Key.ofCredentials login
  return ⟨base, key⟩

/-- The service of an account in a domain. -/
def ofAccount (login : Credentials) (domain : String) : Except Error Endpoint :=
  match Url.parse ("https://" ++ login.account ++ "." ++ domain ++ "/").toList with
  | .ok base => ofUrl base login
  | .error fault => .error (.config ("Invalid storage endpoint: " ++ fault.message))

/-- The error of a service to which there is no connection. -/
def unreachable : Error := .backend "HTTP error: no connection to the blob service"

/-! ## Addresses -/

/-- The text without slashes at its end. -/
def trimEnd (text : List Char) : List Char := (text.reverse.dropWhile (· = '/')).reverse

/-- The address of a path, with parameters. -/
def url (e : Endpoint) (path : String) (pairs : List (String × String)) : Except Error Url :=
  match Url.parse (trimEnd e.base.text ++ '/' :: path.toList.dropWhile (· = '/')) with
  | .ok u => .ok (u.withPairs pairs)
  | .error fault =>
    .error (.backend ("Invalid request url for " ++ path ++ ": " ++ fault.message))

/-- The address of a blob, with parameters. -/
def blobUrl (e : Endpoint) (b : BlobPath) (pairs : List (String × String)) : Except Error Url :=
  e.url b.text pairs

/-- The address of a container. -/
def containerUrl (e : Endpoint) (container : String) : Except Error Url :=
  e.url container [("restype", "container")]

/-! ## Headers -/

/-- A value that can be sent. -/
def headerValue (value : String) : Except Error String :=
  if Headers.isValue value then .ok value
  else .error (.backend "Invalid header value: failed to parse header value")

/-- The header that presents a lease id; an empty id is none. -/
def leaseHeaders (lease : Option String) : Except Error Headers :=
  match lease.filter (· ≠ "") with
  | none => .ok []
  | some id => do return [("x-ms-lease-id", ← headerValue id)]

/-- The range in the words of the service. -/
def rangeText (range : ByteRange) : String := "bytes=" ++ range.text

/-- The headers with metadata added. The names of headers know no case, so of two keys that differ
only in case the later counts. -/
def addMetadata : TextMap → Headers → Except Error Headers
  | [], headers => .ok headers
  | (key, value) :: rest, headers => do
    if ¬ key.toList.all Headers.isNameChar then
      throw (.backend ("Invalid metadata key " ++ key ++ ": invalid HTTP header name"))
    let value ← headerValue value
    addMetadata rest (headers.set (Headers.normalName (metadataStart ++ key)) value)

/-! ## Requests -/

/-- The request of a call, not yet signed. -/
def request (e : Endpoint) : StoreCall → Except Error HttpRequest
  | .createContainer c => do return { method := .put, url := ← e.containerUrl c }
  | .containerExists c => do return { method := .head, url := ← e.containerUrl c }
  | .blobExists b => do return { method := .head, url := ← e.blobUrl b [] }
  | .createPageBlob b size => do
    let headers :=
      [("x-ms-blob-type", "PageBlob"), ("x-ms-blob-content-length", toString size.toNat)]
    return { method := .put, url := ← e.blobUrl b [], headers }
  | .writeRange b range data lease => do
    if data.length ≠ range.length then
      throw (.backend ("write of " ++ toString data.length ++ " bytes does not fill range "
        ++ rangeText range))
    let headers := (← leaseHeaders lease)
      ++ [("x-ms-page-write", "update"), ("x-ms-range", rangeText range)]
    return { method := .put, url := ← e.blobUrl b [("comp", "page")], headers, body := some data }
  | .readRange b range lease => do
    let headers := (← leaseHeaders lease) ++ [("x-ms-range", rangeText range)]
    return { method := .get, url := ← e.blobUrl b [], headers }
  | .properties b lease => do
    let url ← e.blobUrl b []
    return { method := .head, url, headers := ← leaseHeaders lease }
  | .setMetadata b metadata lease => do
    let headers ← addMetadata metadata (← leaseHeaders lease)
    return { method := .put, url := ← e.blobUrl b [("comp", "metadata")], headers }
  | .acquireLease b duration => do
    let headers := [("x-ms-lease-action", "acquire"), ("x-ms-lease-duration", duration.text)]
    return { method := .put, url := ← e.blobUrl b [("comp", "lease")], headers }
  | .breakLease b seconds => do
    let headers :=
      [("x-ms-lease-action", "break"), ("x-ms-lease-break-period", toString seconds.toNat)]
    return { method := .put, url := ← e.blobUrl b [("comp", "lease")], headers }
  | .deleteBlob b lease => do
    let url ← e.blobUrl b []
    return { method := .delete, url, headers := ← leaseHeaders lease }

/-- The request with its date, the version, its length where it has one, and its signature. -/
def signed (e : Endpoint) (date : String) (q : HttpRequest) : Except Error HttpRequest := do
  let length := (q.body.getD []).length
  let headers := (q.headers.set "x-ms-date" date).set "x-ms-version" version
  let headers :=
    if q.method = .put ∨ 0 < length then headers.set "content-length" (toString length) else headers
  let signature ← headerValue (Signature.authorization e.key q.method.word q.url headers)
  return { q with headers := headers.set "authorization" signature }

end Endpoint

end BlobDisk
