import BlobDisk.Service.Response

/-!
# A blob service with prepared responses

The peer records the requests that it is sent and answers them with the responses that it was given,
in order.
-/

namespace BlobDisk.Testbed

/-- A server that answers requests with prepared responses. -/
structure Peer where
  base : Url
  responses : List HttpResponse := []
  /-- The requests so far, the last first. -/
  requests : List HttpRequest := []

namespace Peer

/-- The date that stands in all requests. -/
def date : String := "Thu, 01 Jan 1970 00:00:00 GMT"

/-- The response when no prepared one is left. -/
def exhausted : HttpResponse :=
  { status := ⟨500⟩, headers := [("x-ms-error-code", Headers.bytes "NoScriptedResponse")] }

/-- The response as a client sees it: its headers are trimmed, and some responses have no body whatever
was prepared. -/
def delivered (q : HttpRequest) (r : HttpResponse) : HttpResponse where
  status := r.status
  headers := r.headers.map fun h => (h.1, ReceivedHeaders.trim h.2)
  body := if q.method = .head ∨ r.status.code = 204 ∨ r.status.code = 304 then [] else r.body

/-- The response to a request, and the peer after it. -/
def send (p : Peer) (q : HttpRequest) : HttpResponse × Peer :=
  match p.responses with
  | [] => (delivered q exhausted, { p with requests := q :: p.requests })
  | r :: rest => (delivered q r, { p with responses := rest, requests := q :: p.requests })

/-- The answer to a call of the store behind the peer. -/
def perform (p : Peer) (login : Credentials) (call : StoreCall) : Except Error call.Answer × Peer :=
  let prepared : Except Error HttpRequest := do
    let endpoint ← Endpoint.ofUrl p.base login
    endpoint.signed date (← endpoint.request call)
  match prepared with
  | .error e => (.error e, p)
  | .ok q =>
    let (r, p) := p.send q
    (Service.answer r call, p)

end Peer

end BlobDisk.Testbed
