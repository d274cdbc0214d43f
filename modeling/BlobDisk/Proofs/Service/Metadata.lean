import BlobDisk.Lease
import BlobDisk.Proofs.Outside
import BlobDisk.Proofs.Schedule
import BlobDisk.Proofs.Service.Requests
import BlobDisk.Proofs.Text.Maps
import BlobDisk.Proofs.Text.Utf8
import BlobDisk.Service.Response

/-!
# Metadata that is read and written back

A lease is proved to permit writes by writing the metadata of its blob as they were read, with a mark. The
service replaces all metadata by what is written, so what is not carried over is lost. The values come as bytes, and
are kept as texts in between.

* `ReceivedHeaders.map_bytes_toText?`: a value that is read as a text is sent as the bytes that came;
* `Service.get?_metadataOfHeaders`: the metadata that are read from headers;
* `Endpoint.lookup_addMetadata`: the headers in which metadata are written;
* `Service.Step`: the service at an endpoint as a world, which keeps what it is sent and what it answers;
* `Service.probe_carries`: a value is written back just if it is text.
-/

namespace BlobDisk

open Endpoint (metadataStart)

namespace ReceivedHeaders

variable {value : List UInt8}

/-- The names of the headers differ, and are in lower case. -/
structure Distinct (headers : ReceivedHeaders) : Prop where
  nodup : (headers.map Prod.fst).Nodup
  lower : ∀ h ∈ headers, Headers.normalName h.1 = h.1

theorem lt_of_isText (h : isText value = true) : ∀ b ∈ value, b.toNat < 128 := by
  intro b hb
  have hbyte := List.all_eq_true.mp h b hb
  simp only [Bool.or_eq_true, Bool.and_eq_true, decide_eq_true_eq, UInt8.le_iff_toNat_le, UInt8.lt_iff_toNat_lt,
    ← UInt8.toNat_inj, UInt8.reduceToNat] at hbyte
  omega

/-- A value that is read as a text is sent as the same bytes. -/
theorem map_bytes_toText? (value : List UInt8) :
    (toText? value).map Headers.bytes = if isText value = true then some value else none := by
  unfold toText?
  split
  · rename_i htext
    have hlt := lt_of_isText htext
    have hascii : ∀ c ∈ value.map fun b => Char.ofNat b.toNat, c.toNat < 128 :=
      List.forall_mem_map.mpr fun b hb => (Utf8.toNat_ofNat (hlt b hb)).symm ▸ hlt b hb
    rw [Option.map_some, Headers.bytes, String.toList_ofList, Utf8.encode_of_ascii hascii, List.map_map]
    refine congrArg some ((List.map_congr_left fun b hb => ?_).trans (List.map_id value))
    exact (congrArg UInt8.ofNat (Utf8.toNat_ofNat (hlt b hb))).trans UInt8.ofNat_toNat
  · rfl

end ReceivedHeaders

/-! ## Reading -/

namespace Service

variable {headers : ReceivedHeaders} {key : String}

/-- The key and the value of a header with metadata, if the value is text. -/
def metadatum? (h : String × List UInt8) : Option (String × String) := do
  let key ← Pieces.after? metadataStart.toList h.1.toList
  return (String.ofList key, ← ReceivedHeaders.toText? h.2)

theorem metadataOfHeaders_eq (headers : ReceivedHeaders) :
    metadataOfHeaders headers = TextMap.ofList (headers.filterMap metadatum?) := rfl

theorem sorted_metadataOfHeaders (headers : ReceivedHeaders) : (metadataOfHeaders headers).Sorted :=
  TextMap.sorted_ofList _

theorem metadatum?_eq_some {h : String × List UInt8} {p : String × String} :
    metadatum? h = some p ↔ h.1 = metadataStart ++ p.1 ∧ ReceivedHeaders.toText? h.2 = some p.2 := by
  obtain ⟨name, value⟩ := h
  obtain ⟨key, text⟩ := p
  simp only [metadatum?, Option.bind_eq_bind, Option.bind_eq_some_iff, Option.pure_def, Option.some.injEq,
    Prod.mk.injEq]
  constructor
  · rintro ⟨key', hname, text', htext, rfl, rfl⟩
    refine ⟨?_, htext⟩
    rw [← String.toList_inj, String.toList_append, String.toList_ofList]
    exact Pieces.eq_of_after? hname
  · rintro ⟨rfl, htext⟩
    refine ⟨key.toList, ?_, text, htext, String.ofList_toList, rfl⟩
    rw [String.toList_append, Pieces.after?_append]

theorem nodup_filterMap_metadatum? (h : (headers.map Prod.fst).Nodup) :
    ((headers.filterMap metadatum?).map Prod.fst).Nodup := by
  rw [List.Nodup, List.pairwise_map, List.pairwise_filterMap]
  refine (List.pairwise_map.mp h).imp fun {a a'} hne p hp p' hp' heq => hne ?_
  rw [(metadatum?_eq_some.mp hp).1, (metadatum?_eq_some.mp hp').1, heq]

theorem lookup_filterMap_metadatum? (h : (headers.map Prod.fst).Nodup) :
    (headers.filterMap metadatum?).lookup key =
      (headers.lookup (metadataStart ++ key)).bind ReceivedHeaders.toText? := by
  induction headers with
  | nil => rfl
  | cons p headers ih =>
    obtain ⟨hp, hheaders⟩ := List.nodup_cons.mp h
    rw [List.lookup_cons]
    by_cases hname : metadataStart ++ key = p.1
    · rw [beq_iff_eq.mpr hname, Option.bind_some]
      cases htext : ReceivedHeaders.toText? p.2 with
      | some text =>
        have hsome : metadatum? p = some (key, text) := metadatum?_eq_some.mpr ⟨hname.symm, htext⟩
        rw [List.filterMap_cons_some hsome, List.lookup_cons, beq_self_eq_true]
      | none =>
        -- A value that is no text hides nothing, for no other header has its name.
        have hnone : metadatum? p = none := by
          refine Option.eq_none_iff_forall_ne_some.mpr fun q hq => ?_
          rw [(metadatum?_eq_some.mp hq).2] at htext
          cases htext
        have habsent : headers.lookup (metadataStart ++ key) = none :=
          List.lookup_eq_none_iff.mpr fun q hq => bne_iff_ne.mpr fun heq =>
            hp (hname ▸ heq ▸ List.mem_map_of_mem hq)
        rw [List.filterMap_cons_none hnone, ih hheaders, habsent]
        rfl
    · rw [beq_false_of_ne hname, ← ih hheaders]
      cases hq : metadatum? p with
      | none => rw [List.filterMap_cons_none hq]
      | some q =>
        rw [List.filterMap_cons_some hq, List.lookup_cons, beq_false_of_ne fun heq => hname ?_]
        rw [(metadatum?_eq_some.mp hq).1, heq]

/-- The metadata that are read are the values of the headers with metadata that are text. -/
theorem get?_metadataOfHeaders (h : headers.Distinct) : (metadataOfHeaders headers).get? key =
    (headers.lookup (metadataStart ++ key)).bind ReceivedHeaders.toText? := by
  rw [metadataOfHeaders_eq, TextMap.get?_ofList (nodup_filterMap_metadatum? h.nodup),
    lookup_filterMap_metadatum? h.nodup]

theorem lower_of_mem_metadata (h : headers.Distinct) : ∀ p ∈ metadataOfHeaders headers,
    Headers.normalName (metadataStart ++ p.1) = metadataStart ++ p.1 := by
  intro p hp
  rw [metadataOfHeaders_eq] at hp
  obtain ⟨q, hq, hqp⟩ := List.mem_filterMap.mp (TextMap.mem_of_mem_ofList hp)
  rw [← (metadatum?_eq_some.mp hqp).1]
  exact h.lower q hq

end Service

/-! ## Writing -/

namespace Endpoint

variable {e : Endpoint} {m : TextMap} {headers headers' : Headers} {key name : String}

/-- A name that does not start as those of metadata do is none of them. -/
theorem ne_metadata (h : Pieces.after? metadataStart.toList name.toList = none) : metadataStart ++ key ≠ name := by
  rintro rfl
  rw [String.toList_append, Pieces.after?_append] at h
  cases h

/-- Metadata are written as they are, over what the headers had. -/
theorem lookup_addMetadata (hm : m.Sorted)
    (hlower : ∀ p ∈ m, Headers.normalName (metadataStart ++ p.1) = metadataStart ++ p.1)
    (h : addMetadata m headers = .ok headers') : headers'.lookup (metadataStart ++ key) =
      (m.get? key).or (headers.lookup (metadataStart ++ key)) := by
  induction m generalizing headers with
  | nil =>
    cases h
    rfl
  | cons p rest ih =>
    obtain ⟨k, v⟩ := p
    obtain ⟨hfirst, hrest⟩ := List.pairwise_cons.mp hm
    obtain ⟨hk, hlower⟩ := List.forall_mem_cons.mp hlower
    simp only [addMetadata, guard_eq_ok, bind_eq_ok] at h
    obtain ⟨-, value, hvalue, h⟩ := h
    obtain rfl : v = value := by
      unfold headerValue at hvalue
      split at hvalue
      · exact Except.ok.inj hvalue
      · cases hvalue
    rw [ih hrest hlower h, hk, Headers.lookup_set, TextMap.get?]
    by_cases heq : key = k
    · have hnone : TextMap.get? k rest = none := TextMap.get?_eq_none fun p hp hpk => by
        have hlt := hfirst p hp
        rw [hpk] at hlt
        exact String.lt_irrefl k hlt
      rw [heq, if_pos rfl, if_pos rfl, hnone, Option.none_or, Option.some_or]
    · rw [if_neg heq, if_neg fun h => heq ((String.append_right_inj _).mp h)]

theorem lookup_leaseHeaders {lease : Option String} (h : leaseHeaders lease = .ok headers) :
    headers.lookup (metadataStart ++ key) = none := by
  unfold leaseHeaders at h
  split at h
  · cases h
    rfl
  · simp only [bind_eq_ok, pure_eq_ok] at h
    obtain ⟨value, -, rfl⟩ := h
    rw [List.lookup_cons, beq_false_of_ne (ne_metadata rfl), List.lookup_nil]

/-- The request of a call, signed at some time. -/
def Asks (e : Endpoint) (call : StoreCall) (q : HttpRequest) : Prop :=
  ∃ date, (e.request call >>= e.signed date) = .ok q

/-- A call that can be requested is requested of every account that can be named in a header. -/
theorem exists_asks (call : StoreCall) (haccount : Headers.isValue e.key.account = true)
    (hrequest : (e.request call).toOption.isSome = true) : ∃ q, e.Asks call q := by
  cases hq : e.request call with
  | error err =>
    rw [hq] at hrequest
    cases hrequest
  | ok q =>
    obtain ⟨q', hq'⟩ := exists_signed haccount "Thu, 01 Jan 1970 00:00:00 GMT" q
    exact ⟨q', _, by rw [hq]; exact hq'⟩

/-- The metadata in a request that sets metadata are the given ones. -/
theorem Asks.lookup_metadata {b : BlobPath} {lease : Option String} {q : HttpRequest} (hm : m.Sorted)
    (hlower : ∀ p ∈ m, Headers.normalName (metadataStart ++ p.1) = metadataStart ++ p.1)
    (h : e.Asks (.setMetadata b m lease) q) : q.headers.lookup (metadataStart ++ key) = m.get? key := by
  obtain ⟨date, h⟩ := h
  simp only [request, bind_eq_ok, pure_eq_ok] at h
  obtain ⟨_, ⟨leased, hleased, added, hadded, url, -, rfl⟩, hsigned⟩ := h
  rw [(signs_of_signed hsigned).lookup, lookup_addMetadata hm hlower hadded, lookup_leaseHeaders hleased,
    Option.or_none]
  simp only [List.mem_cons, List.not_mem_nil, or_false, not_or]
  exact ⟨ne_metadata rfl, ne_metadata rfl, ne_metadata rfl, ne_metadata rfl⟩

end Endpoint

/-! ## The service -/

/-- What was sent and what came back, if anything did. -/
structure Exchange where
  request : HttpRequest
  response : Option HttpResponse

namespace Service

variable {e : Endpoint} {call : StoreCall} {log log' : List Exchange}

/-- How a call is answered: it fails before anything is sent, or its request is sent and no response comes,
or it is answered by the response. -/
inductive Serves (e : Endpoint) (call : StoreCall) (log : List Exchange) :
    Except Error call.Answer → List Exchange → Prop
  | unsent (err : Error) : Serves e call log (.error err) log
  | lost {q : HttpRequest} (err : Error) : e.Asks call q →
    Serves e call log (.error err) (log ++ [⟨q, none⟩])
  | answered {q : HttpRequest} (r : HttpResponse) : e.Asks call q →
    Serves e call log (Service.answer r call) (log ++ [⟨q, some r⟩])

/-- The service at an endpoint, to which all calls go. -/
def Step (e : Endpoint) : Outside (List Exchange)
  | log, ⟨.store _ call, answer⟩, log' => Serves e call log answer log'
  | log, _, log' => log' = log

theorem Serves.ok {x : call.Answer} (h : Serves e call log (.ok x) log') :
    ∃ q r, e.Asks call q ∧ log' = log ++ [⟨q, some r⟩] ∧ Service.answer r call = .ok x := by
  generalize hv : Except.ok x = v at h
  cases h with
  | unsent err => cases hv
  | lost err _ => cases hv
  | @answered q r hq => exact ⟨q, r, hq, rfl, rfl⟩

theorem Serves.error {err : Error} (h : Serves e call log (.error err) log') :
    log' = log ∨ ∃ q r, e.Asks call q ∧ log' = log ++ [⟨q, r⟩] := by
  generalize hv : Except.error err = v at h
  cases h with
  | unsent err => exact .inl rfl
  | @lost q err hq => exact .inr ⟨q, _, hq, rfl⟩
  | @answered q r hq => exact .inr ⟨q, _, hq, rfl⟩

theorem metadata_of_answer {r : HttpResponse} {b : BlobPath} {lease : Option String} {p : Properties}
    (h : Service.answer r (.properties b lease) = .ok p) : p.metadata = metadataOfHeaders r.headers := by
  have h : checked (.properties b lease) r (propertiesOfHeaders r.headers) = .ok p := h
  unfold checked propertiesOfHeaders at h
  split at h
  · split at h
    · cases h
    · cases h
      rfl
  · cases h

/-- The metadata that the probe writes after a response: those that were read, with the mark. -/
def marked (r : HttpResponse) : TextMap :=
  (metadataOfHeaders r.headers).insert Lease.probeKey Lease.probeValue

/-- A request carries the metadata of a response: the bytes of each value that is text under its name, and the
mark. -/
def Carries (r : HttpResponse) (q : HttpRequest) : Prop :=
  ∀ key, (q.headers.lookup (metadataStart ++ key)).map Headers.bytes =
    if key = Lease.probeKey then some (Headers.bytes Lease.probeValue)
    else (r.headers.lookup (metadataStart ++ key)).filter ReceivedHeaders.isText

theorem normalName_probe :
    Headers.normalName (metadataStart ++ Lease.probeKey) = metadataStart ++ Lease.probeKey := by decide

theorem carries_of_asks {r : HttpResponse} {q : HttpRequest} {b : BlobPath} {lease : Option String}
    (hr : r.headers.Distinct) (h : e.Asks (.setMetadata b (marked r) lease) q) : Carries r q := by
  intro key
  rw [h.lookup_metadata (sorted_metadataOfHeaders _).insert, TextMap.get?_insert, get?_metadataOfHeaders hr]
  · split
    · rfl
    · cases r.headers.lookup (metadataStart ++ key) with
      | none => rfl
      | some value => exact ReceivedHeaders.map_bytes_toText? value
  · intro p hp
    rcases TextMap.mem_of_mem_insert hp with rfl | hp
    · exact normalName_probe
    · exact lower_of_mem_metadata hr p hp

/-- A blob is probed: its properties are read under a lease, and after the response its metadata are written
under it. -/
structure Probed (e : Endpoint) (b : BlobPath) (id : String) (log : List Exchange) (r : HttpResponse)
    (write : Exchange) : Prop where
  log : ∃ read, log = [⟨read, some r⟩, write] ∧ e.Asks (.properties b (some id)) read
  write : e.Asks (.setMetadata b (marked r) (some id)) write.request

variable {login : Credentials} {b : BlobPath} {id : String}

/-- A probe that fails early sends at most that the properties be read. -/
theorem verifyWritable_ensures : (Lease.verifyWritable login b id .readWrite).Ensures (Step e) []
    (fun _ _ log => ∃ r write, Probed e b id log r write)
    fun _ _ log => (∀ x ∈ log, e.Asks (.properties b (some id)) x.request) ∨
      ∃ r write, Probed e b id log r write := by
  unfold Lease.verifyWritable
  refine Action.ensures_bind.mpr (Action.ensures_store.mpr ⟨?_, ?_⟩)
  · rintro p _ hstep
    obtain ⟨x, r, hx, rfl, hp⟩ := Serves.ok hstep
    have hread : ∀ y ∈ [(⟨x, some r⟩ : Exchange)], e.Asks (.properties b (some id)) y.request :=
      List.forall_mem_singleton.mpr hx
    refine Action.ensures_guard.mpr ⟨fun _ => .inl hread, fun _ => ?_⟩
    rw [metadata_of_answer hp]
    refine Action.ensures_bind.mpr (Action.ensures_store.mpr ⟨?_, ?_⟩)
    · rintro _ _ hstep
      obtain ⟨y, r', hy, rfl, -⟩ := Serves.ok hstep
      exact ⟨r, _, ⟨x, rfl, hx⟩, hy⟩
    · rintro err _ hstep
      rcases Serves.error hstep with rfl | ⟨y, r', hy, rfl⟩
      · exact .inl hread
      · exact .inr ⟨r, _, ⟨x, rfl, hx⟩, hy⟩
  · rintro err _ hstep
    rcases Serves.error hstep with rfl | ⟨x, r, hx, rfl⟩
    · exact .inl nofun
    · exact .inl (List.forall_mem_singleton.mpr hx)

/-- Whatever the service answers, a probe for writing either fails and sends at most that the properties be
read, or it writes metadata after the response. What it writes are the metadata in that response, each under
its name just if its value is text, and its mark. -/
theorem probe_carries {scenes : List (Scene (List Exchange))} {v : Except Error Properties}
    (h : (Lease.verifyWritable login b id .readWrite).run.RunsIn (Step e) [] scenes v log) :
    ((∃ err, v = .error err) ∧ ∀ x ∈ log, e.Asks (.properties b (some id)) x.request) ∨
    ∃ r write, Probed e b id log r write ∧ (r.headers.Distinct → Carries r write.request) := by
  have hprobe := Program.ensures_iff.mp verifyWritable_ensures _ _ _ h
  cases v with
  | ok p =>
    obtain ⟨r, write, hprobed⟩ := hprobe
    exact .inr ⟨r, write, hprobed, fun hr => carries_of_asks hr hprobed.write⟩
  | error err =>
    rcases hprobe with hread | ⟨r, write, hprobed⟩
    · exact .inl ⟨⟨err, rfl⟩, hread⟩
    · exact .inr ⟨r, write, hprobed, fun hr => carries_of_asks hr hprobed.write⟩

end Service

/-! ## A blob with a value that is no text -/

namespace Sample

/-- The response for a page blob with two metadata, one of them with a letter beyond ASCII. -/
def annotated : HttpResponse where
  status := ⟨200⟩
  headers := [("content-length", Headers.bytes "1073741824"), ("x-ms-blob-type", Headers.bytes "PageBlob"),
    ("x-ms-meta-note", Headers.bytes "kept"), ("x-ms-meta-owner", Headers.bytes "Müller")]

/-- What is read of that response. -/
def noted : Properties where
  contentLength := 1073741824
  kind := some .page
  leaseState := .available
  metadata := [("note", "kept")]

theorem distinct_annotated : annotated.headers.Distinct where
  nodup := by decide
  lower := by decide

theorem answer_annotated : Service.answer annotated (.properties blob (some "lease")) = .ok noted := by
  have hread : Service.propertiesOfHeaders annotated.headers = .ok noted :=
    eq_ok_of_toOption (by decide +kernel)
  exact hread

/-- The probe of the blob for which the service gives that response. -/
theorem exists_probed : ∃ scenes log write,
    (Lease.verifyWritable ⟨"account", "a2V5"⟩ blob "lease" .readWrite).run.RunsIn (Service.Step endpoint) []
      scenes (.ok noted) log ∧ Service.Probed endpoint blob "lease" log annotated write := by
  obtain ⟨read, hread⟩ := Endpoint.exists_asks (e := endpoint) (.properties blob (some "lease"))
    (by decide) (by decide +kernel)
  obtain ⟨write, hwrite⟩ := Endpoint.exists_asks (e := endpoint)
    (.setMetadata blob (Service.marked annotated) (some "lease")) (by decide) (by decide +kernel)
  have hmarked : Service.marked annotated = noted.metadata.insert Lease.probeKey Lease.probeValue := by
    decide +kernel
  have hfirst : Service.Serves endpoint (.properties blob (some "lease")) [] (.ok noted)
      [⟨read, some annotated⟩] := answer_annotated ▸ .answered annotated hread
  have hsecond : Service.Serves endpoint (.setMetadata blob (Service.marked annotated) (some "lease"))
      [⟨read, some annotated⟩] (.ok ()) [⟨read, some annotated⟩, ⟨write, some { status := ⟨200⟩ }⟩] :=
    .answered { status := ⟨200⟩ } hwrite
  rw [hmarked] at hsecond
  have hruns : (Lease.verifyWritable ⟨"account", "a2V5"⟩ blob "lease" .readWrite).run.Runs
      [⟨.store ⟨"account", "a2V5"⟩ (.properties blob (some "lease")), .ok noted⟩,
        ⟨.store ⟨"account", "a2V5"⟩ (.setMetadata blob
          (noted.metadata.insert Lease.probeKey Lease.probeValue) (some "lease")), .ok ()⟩] (.ok noted) :=
    .ask _ (.ask _ (.done _))
  exact ⟨[⟨_, _⟩, ⟨_, _⟩], _, _, ⟨hruns, .cons hfirst (.cons hsecond (.nil _))⟩, ⟨read, rfl, hread⟩, hwrite⟩

end Sample

/-- Of two metadata the one that is text is written back. -/
theorem Service.probe_carries_annotated : ∃ scenes log write,
    (Lease.verifyWritable ⟨"account", "a2V5"⟩ Sample.blob "lease" .readWrite).run.RunsIn
      (Step Sample.endpoint) [] scenes (.ok Sample.noted) log ∧
    ∃ r, Probed Sample.endpoint Sample.blob "lease" log r write ∧ r.headers.Distinct ∧ Carries r write.request := by
  obtain ⟨scenes, log, write, hruns, ⟨⟨read, rfl, -⟩, -⟩⟩ := Sample.exists_probed
  rcases probe_carries hruns with ⟨⟨err, herr⟩, -⟩ | ⟨r, write', hprobed, hcarries⟩
  · cases herr
  · obtain ⟨read', hlog, -⟩ := hprobed.log
    cases hlog
    exact ⟨scenes, _, _, hruns, _, hprobed, Sample.distinct_annotated, hcarries Sample.distinct_annotated⟩

/-- The metadata whose value is no text is lost. -/
theorem Service.probe_drops : ∃ scenes log write,
    (Lease.verifyWritable ⟨"account", "a2V5"⟩ Sample.blob "lease" .readWrite).run.RunsIn
      (Step Sample.endpoint) [] scenes (.ok Sample.noted) log ∧
    Probed Sample.endpoint Sample.blob "lease" log Sample.annotated write ∧
    Sample.annotated.headers.Distinct ∧
    Sample.annotated.headers.lookup "x-ms-meta-owner" = some [0x4D, 0xC3, 0xBC, 0x6C, 0x6C, 0x65, 0x72] ∧
    write.request.headers.lookup "x-ms-meta-owner" = none := by
  obtain ⟨scenes, log, write, hruns, hprobed⟩ := Sample.exists_probed
  have hcarries := carries_of_asks Sample.distinct_annotated hprobed.write
  refine ⟨scenes, log, write, hruns, hprobed, Sample.distinct_annotated, by decide, ?_⟩
  exact Option.map_eq_none_iff.mp ((hcarries "owner").trans (by decide))

end BlobDisk
