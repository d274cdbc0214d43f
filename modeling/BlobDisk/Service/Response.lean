import BlobDisk.Service.Endpoint
import BlobDisk.Text.Decimal

/-!
# Responses of the blob service

* `Service.statusError`: the error that a failed response reports;
* `Service.propertiesOfHeaders`: the properties of a blob in the headers of a response;
* `Service.answer`: what a response answers to a call.
-/

namespace BlobDisk.Service

/-- The error of a failed response to a request named by `what`: the status decides, and for a
conflict the code that the service gives. -/
def statusError (status : Status) (headers : ReceivedHeaders) (what : String) : Error :=
  let code := (headers.text? "x-ms-error-code").getD ""
  let detail :=
    if code = "" then what ++ " (" ++ status.text ++ ")"
    else what ++ " (" ++ status.text ++ " " ++ code ++ ")"
  if status.code = 404 then .notFound detail
  else if status.code = 412 then .leaseMismatch detail
  else if status.code = 409 then
    if code = "LeaseAlreadyPresent" then .leaseAlreadyPresent detail
    else if (Pieces.after? "LeaseIdMismatch".toList code.toList).isSome ∨ code = "LeaseLost" then
      .leaseMismatch detail
    else .backend detail
  else .backend detail

/-- The metadata in headers: of several values under one key the last that is text counts. -/
def metadataOfHeaders (headers : ReceivedHeaders) : TextMap :=
  TextMap.ofList (headers.filterMap fun h => do
    let key ← Pieces.after? Endpoint.metadataStart.toList h.1.toList
    return (String.ofList key, ← ReceivedHeaders.toText? h.2))

/-- The properties of a blob in the headers of a response. -/
def propertiesOfHeaders (headers : ReceivedHeaders) : Except Error Properties :=
  match Decimal.readWord ((headers.text? "content-length").getD "0").toList with
  | .error fault => .error (.backend ("Invalid content-length: " ++ fault.message))
  | .ok contentLength => .ok {
      contentLength
      kind := (headers.text? "x-ms-blob-type").bind BlobKind.ofWord?
      leaseState := LeaseState.ofWord ((headers.text? "x-ms-lease-state").getD "")
      metadata := metadataOfHeaders headers }

/-- What errors call the request of a call. -/
def what : StoreCall → String
  | .createContainer c => "create container " ++ c
  | .containerExists c => "get container " ++ c
  | .blobExists b => "get blob " ++ b.text
  | .createPageBlob b _ => "create page blob " ++ b.text
  | .writeRange b _ _ _ => "write pages of " ++ b.text
  | .readRange b _ _ => "read " ++ b.text
  | .properties b _ => "get properties of " ++ b.text
  | .setMetadata b _ _ => "set metadata of " ++ b.text
  | .acquireLease b _ => "acquire lease on " ++ b.text
  | .breakLease b _ => "break lease on " ++ b.text
  | .deleteBlob b _ => "delete " ++ b.text

/-- The value that a successful response stands for, or the error of a failed one. -/
def checked {α : Type} (call : StoreCall) (r : HttpResponse) (value : Except Error α) :
    Except Error α :=
  if r.status.isSuccess then value else .error (statusError r.status r.headers (what call))

/-- A yes for success, a no for one other status, and an error for the rest. -/
def question (call : StoreCall) (r : HttpResponse) (noCode : Nat) : Except Error Bool :=
  if r.status.isSuccess then .ok true
  else if r.status.code = noCode then .ok false
  else .error (statusError r.status r.headers (what call))

/-- The id of a lease that was taken. -/
def leaseId (call : StoreCall) (r : HttpResponse) : Except Error String :=
  match r.headers.text? "x-ms-lease-id" with
  | some id => .ok id
  | none => .error (.backend (what call ++ ": no lease id returned"))

/-- What a response answers to a call. -/
def answer (r : HttpResponse) : (call : StoreCall) → Except Error call.Answer
  | .createContainer c => question (.createContainer c) r 409
  | .containerExists c => question (.containerExists c) r 404
  | .blobExists b => question (.blobExists b) r 404
  | .createPageBlob b size => checked (.createPageBlob b size) r (.ok ())
  | .writeRange b range data lease => checked (.writeRange b range data lease) r (.ok ())
  | .readRange b range lease => checked (.readRange b range lease) r (.ok r.body)
  | .properties b lease => checked (.properties b lease) r (propertiesOfHeaders r.headers)
  | .setMetadata b metadata lease => checked (.setMetadata b metadata lease) r (.ok ())
  | .acquireLease b duration =>
    checked (.acquireLease b duration) r (leaseId (.acquireLease b duration) r)
  | .breakLease b seconds => checked (.breakLease b seconds) r (.ok ())
  | .deleteBlob b lease => checked (.deleteBlob b lease) r (.ok ())

end BlobDisk.Service
