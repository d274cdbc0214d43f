import BlobDisk.Proofs.Mount.Failure

/-!
# What a mount keeps of a record

A record can be mounted half filled in. What it lacks is taken from the client, the blob, the lease and
the resolver, and what it has is kept, but for one thing: an account and its key are a pair, and a record
that lacks one of the two is mounted under the pair of the client.

* `Effect.isContact`, `Monitor.contacts`: the openings and calls of stores, in order;
* `Client.Filled`: the credentials that a record is mounted under;
* `Mount.locating`, `Mount.Leasing`, `Mount.probing`: the calls by which a blob is found, leased and proved
  to be writable;
* `Mount.Keeps`: what the record that is answered has of the record that was given, and which store was
  asked for its blob;
* `Mount.keeps_given`: that it is so for every mount that succeeds.
-/

namespace BlobDisk

/-! ## Contacts with stores -/

/-- Whether the effect opens a store or calls one. -/
def Effect.isContact : Effect → Bool
  | connect _ | store .. => true
  | _ => false

/-- The contacts with stores among events, in order. -/
def Event.contacts (events : List Event) : List Effect :=
  (events.map (·.effect)).filter Effect.isContact

/-- A monitor that allows everything and notes the contacts with stores. -/
def Monitor.contacts : Monitor (List Effect) where
  allows _ _ := True
  next s e _ := if e.isContact then s ++ [e] else s

theorem Monitor.contacts_after (s : List Effect) (events : List Event) :
    Monitor.contacts.after s events = s ++ Event.contacts events := by
  induction events generalizing s with
  | nil => rw [Monitor.after_nil, Event.contacts, List.map_nil, List.filter_nil, List.append_nil]
  | cons event events ih =>
    rw [Monitor.after_cons, ih, Event.contacts, Event.contacts, List.map_cons, List.filter_cons]
    cases hcontact : event.effect.isContact with
    | true => simp [Monitor.contacts, hcontact]
    | false => simp [Monitor.contacts, hcontact]

/-- Where nothing is forbidden, every program obeys. -/
theorem Monitor.contacts_obeys {α : Type} (p : Program α) {s : List Effect} :
    p.Obeys .contacts s fun _ _ => True := by
  induction p generalizing s with
  | done a => exact trivial
  | ask e next ih => exact ⟨trivial, fun answer => ih answer⟩

namespace Mount

variable (login : Credentials) (blob : BlobPath)

/-- The calls that find a blob. -/
def locating : List Effect :=
  [.store login (.containerExists blob.container), .store login (.blobExists blob),
    .store login (.properties blob none)]

/-- The calls that lease a blob: one, or three where the lease of another is broken. -/
inductive Leasing (breakLease : Bool) : List Effect → Prop
  | once : Leasing breakLease [.store login (.acquireLease blob .infinite)]
  | again : breakLease = true → Leasing breakLease [.store login (.acquireLease blob .infinite),
      .store login (.breakLease blob 0), .store login (.acquireLease blob .infinite)]

/-- The calls that prove a lease: its blob is looked at, and to be written it is marked. -/
def probing (leaseId : String) (metadata : TextMap) : AccessMode → List Effect
  | .readOnly => [.store login (.properties blob (some leaseId))]
  | .readWrite => [.store login (.properties blob (some leaseId)),
      .store login (.setMetadata blob metadata (some leaseId))]

end Mount

open Mount (locating Leasing probing)

variable {r q : Record} {o : LeaseOptions} {login : Credentials} {blob : BlobPath} {s : List Effect}

theorem Lease.locate_contacts : (Lease.locate login blob).Obeys .contacts s
    (fun _ s' => s' = s ++ locating login blob) fun _ _ => True := by
  unfold locate
  refine Action.obeys_bind.mpr (Action.obeys_store.mpr ⟨trivial, fun hasContainer => ?_, fun _ => trivial⟩)
  refine Action.obeys_guard.mpr ⟨fun _ => trivial, fun _ => ?_⟩
  refine Action.obeys_bind.mpr (Action.obeys_store.mpr ⟨trivial, fun hasBlob => ?_, fun _ => trivial⟩)
  refine Action.obeys_guard.mpr ⟨fun _ => trivial, fun _ => ?_⟩
  refine Action.obeys_store.mpr ⟨trivial, fun _ => ?_, fun _ => trivial⟩
  simp [Monitor.contacts, Effect.isContact, locating]

theorem Lease.acquire_contacts {breakExisting : Bool} :
    (Lease.acquire login blob breakExisting).Obeys .contacts s
      (fun _ s' => ∃ calls, Leasing login blob breakExisting calls ∧ s' = s ++ calls)
      fun _ _ => True := by
  unfold acquire
  refine Action.obeys_bind.mpr (Action.obeys_always.mpr (Action.obeys_outcome.mpr
    (Action.obeys_store.mpr ⟨trivial, fun id => ⟨_, .once, rfl⟩, fun e => ?_⟩)))
  cases breakExisting with
  | false => cases e <;> exact trivial
  | true =>
    cases e with
    | leaseAlreadyPresent detail =>
      refine Action.obeys_bind.mpr (Action.obeys_store.mpr ⟨trivial, fun _ => ?_, fun _ => trivial⟩)
      refine Action.obeys_store.mpr ⟨trivial, fun id => ⟨_, .again rfl, ?_⟩, fun _ => trivial⟩
      simp [Monitor.contacts, Effect.isContact]
    | _ => exact trivial

theorem Lease.verifyWritable_contacts {id : String} {mode : AccessMode} :
    (Lease.verifyWritable login blob id mode).Obeys .contacts s
      (fun _ s' => ∃ metadata, s' = s ++ probing login blob id metadata mode) fun _ _ => True := by
  unfold verifyWritable
  refine Action.obeys_bind.mpr (Action.obeys_store.mpr ⟨trivial, fun p => ?_, fun _ => trivial⟩)
  refine Action.obeys_guard.mpr ⟨fun _ => trivial, fun _ => ?_⟩
  cases mode with
  | readOnly => exact ⟨[], rfl⟩
  | readWrite =>
    refine Action.obeys_bind.mpr (Action.obeys_store.mpr
      ⟨trivial, fun _ => ⟨p.metadata.insert probeKey probeValue, ?_⟩, fun _ => trivial⟩)
    simp [Monitor.contacts, Effect.isContact, probing]

/-! ## What is filled in -/

/-- A record that is validated has got a host, unless it had one, and an address. -/
theorem Record.validate_filled {domain : String} : (q.validate login domain).Obeys .contacts s
    fun v s' => v.2 = .ok () → (∃ ip, v.1 = { q.fillHost domain with ip }) ∧
      ∃ blob metadata, BlobPath.parse q.path = .ok blob ∧
        s' = s ++ probing login blob q.leaseId metadata q.mode := by
  unfold validate
  cases hcheck : q.checkFields domain with
  | mk q₁ verdict =>
    cases verdict with
    | error e => exact nofun
    | ok blob =>
      obtain ⟨hidentity, rfl, -⟩ := checkFields_iff.mp hcheck
      obtain ⟨-, -, -, -, -, hpath⟩ := checkIdentity_eq_ok.mp hidentity
      obtain ⟨host, hhost⟩ := q.fillHost_eq domain
      unfold resolveHost
      refine Program.obeys_bind.mpr (Action.obeys_outcome.mpr (Action.obeys_bind.mpr
        (Action.obeys_resolve.mpr ⟨trivial, fun ip => ?_, fun _ => nofun⟩)))
      refine Action.obeys_guard.mpr ⟨fun _ => nofun, fun _ => ?_⟩
      refine Program.obeys_bind.mpr (Action.obeys_outcome.mpr
        (Lease.verifyWritable_contacts.mono ?_ fun _ _ _ => nofun))
      rintro properties s' ⟨metadata, rfl⟩ -
      refine ⟨⟨ip.text, rfl⟩, blob, metadata, hpath, ?_⟩
      rw [hhost]
      rfl

namespace Client

variable {c : Client}

/-- The record has its own credentials, if it has both an account and a key, and else those of the
client, both of them. -/
def Filled (c : Client) (r q : Record) : Prop :=
  (r.accountName ≠ "" ∧ r.accountKey ≠ "" ∧ q = r) ∨ ((r.accountName = "" ∨ r.accountKey = "") ∧
    ∃ login, c.credentials = some login ∧
      q = { r with accountName := login.account, accountKey := login.key })

/-- Nothing but the credentials is filled in. -/
theorem Filled.eq (h : c.Filled r q) :
    q = { r with accountName := q.accountName, accountKey := q.accountKey } := by
  obtain ⟨-, -, rfl⟩ | ⟨-, login, -, rfl⟩ := h <;> rfl

theorem Filled.own (h : c.Filled r q) (haccount : r.accountName ≠ "") (hkey : r.accountKey ≠ "") :
    q.accountName = r.accountName ∧ q.accountKey = r.accountKey := by
  obtain ⟨-, -, rfl⟩ | ⟨hlack, -⟩ := h
  · exact ⟨rfl, rfl⟩
  · exact (hlack.elim haccount hkey).elim

theorem Filled.client (h : c.Filled r q) (hlack : r.accountName = "" ∨ r.accountKey = "") :
    c.credentials = some ⟨q.accountName, q.accountKey⟩ := by
  obtain ⟨haccount, hkey, -⟩ | ⟨-, login, hc, rfl⟩ := h
  · exact (hlack.elim haccount hkey).elim
  · exact hc

theorem fillCredentials_filled : (c.fillCredentials r).Obeys .contacts s
    (fun q s' => s' = s ∧ c.Filled r q) fun _ _ => True := by
  unfold fillCredentials login
  by_cases hlack : r.accountName = "" ∨ r.accountKey = ""
  · rw [if_pos hlack]
    cases hc : c.credentials with
    | none => exact trivial
    | some login => exact ⟨rfl, .inr ⟨hlack, login, hc, rfl⟩⟩
  · rw [if_neg hlack]
    obtain ⟨haccount, hkey⟩ := not_or.mp hlack
    exact ⟨rfl, .inl ⟨haccount, hkey, rfl⟩⟩

theorem submitMount_filled : (c.submitMount login q).Obeys .contacts s
    (fun m s' => (∃ ip major minor, m = { q.fillHost c.domain with ip, major, minor }) ∧
      ∃ blob metadata, BlobPath.parse q.path = .ok blob ∧
        s' = s ++ probing login blob q.leaseId metadata q.mode) fun _ _ => True := by
  unfold submitMount
  refine Action.obeys_bind.mpr (Action.obeys_always.mpr (Record.validate_filled.mono ?_))
  rintro ⟨q', verdict⟩ s' hfilled
  refine Action.obeys_bind.mpr (Action.obeys_ofExcept.mpr ⟨fun _ hv => ?_, fun _ _ => trivial⟩)
  obtain ⟨⟨ip, rfl⟩, hcalls⟩ := hfilled hv
  refine Action.obeys_bind.mpr (Action.obeys_ofExcept.mpr ⟨fun buffer _ => ?_, fun _ _ => trivial⟩)
  refine Action.obeys_bind.mpr (Channel.obeys_exchangeBuffer.mpr
    ⟨trivial, fun _ => trivial, fun reply => ⟨fun payload _ => ?_, fun _ _ => trivial⟩⟩)
  refine Action.obeys_bind.mpr (Action.obeys_ofExcept.mpr ⟨fun mounted _ => ?_, fun _ _ => trivial⟩)
  exact ⟨⟨ip, mounted.major, mounted.minor, rfl⟩, hcalls⟩

theorem fillSize_filled {p : Properties} (h : fillSize blob p r = .ok q) :
    ∃ sectorCount sizeGb, q = { r with sectorCount, sizeGb } ∧ (r.sizeGb ≠ 0 → sizeGb = r.sizeGb) := by
  simp only [fillSize, guard_eq_ok, Record.setSizeGb, bind_eq_ok, pure_eq_ok] at h
  obtain ⟨hsize, sectors, -, rfl⟩ := h
  refine ⟨sectors, _, rfl, fun hr => ?_⟩
  by_contra hne
  exact hsize ⟨hr, fun heq => hne heq.symm⟩

/-- The record with what a mount fills in after its credentials. -/
def completed (c : Client) (q : Record) (leaseId ip : String) (major minor : Int64) : Record :=
  { q with
    leaseId, ip, major, minor
    host := if q.host = "" then q.accountName ++ "." ++ c.domain else q.host }

theorem completed_eq (c : Client) (q : Record) (leaseId ip : String) (major minor : Int64) :
    { { q with leaseId }.fillHost c.domain with ip, major, minor } =
      c.completed q leaseId ip major minor := by
  unfold Record.fillHost completed
  split
  · rfl
  · rfl

theorem leaseAndSubmit_filled : (c.leaseAndSubmit login blob q o).Obeys .contacts s
    (fun m s' => ∃ leaseId ip major minor, m = c.completed q leaseId ip major minor ∧
      (q.leaseId ≠ "" → leaseId = q.leaseId) ∧
      ∃ leasing blob' metadata,
        (if q.leaseId = "" ∧ o.autoLease = true then Leasing login blob o.breakLease leasing
          else leasing = []) ∧
        BlobPath.parse q.path = .ok blob' ∧
        s' = s ++ leasing ++ probing login blob' leaseId metadata q.mode) fun _ _ => True := by
  unfold leaseAndSubmit
  by_cases hauto : q.leaseId = "" ∧ o.autoLease = true
  · simp only [if_pos hauto]
    refine Action.obeys_bind.mpr (Lease.acquire_contacts.mono ?_ fun _ _ _ => trivial)
    rintro leaseId _ ⟨leasing, hleasing, rfl⟩
    refine Action.obeys_bind.mpr (Action.obeys_always.mpr (Action.obeys_outcome.mpr
      (submitMount_filled.mono ?_ fun _ _ _ => ?_)))
    · rintro m _ ⟨⟨ip, major, minor, rfl⟩, blob', metadata, hpath, rfl⟩
      exact ⟨leaseId, ip, major, minor, completed_eq .., fun hgiven => (hgiven hauto.1).elim, leasing, blob',
        metadata, hleasing, hpath, rfl⟩
    · exact Action.obeys_bind.mpr (Action.obeys_always.mpr
        (Program.Obeys.mono (Monitor.contacts_obeys _) fun _ _ _ => trivial))
  · simp only [if_neg hauto]
    refine submitMount_filled.mono ?_ fun _ _ _ => trivial
    rintro m _ ⟨⟨ip, major, minor, rfl⟩, blob', metadata, hpath, rfl⟩
    exact ⟨q.leaseId, ip, major, minor, completed_eq .., fun _ => rfl, [], blob', metadata, rfl, hpath,
      by rw [List.append_nil]⟩

end Client

namespace Mount

/-- The record that is answered has what the record that was given has, and the store that was opened with
its credentials, and no other, was asked for the blob at its path. -/
structure Keeps (c : Client) (r : Record) (o : LeaseOptions) (m : Record) (contacts : List Effect) :
    Prop where
  name : m.name = r.name
  mode : m.mode = r.mode
  path : m.path = r.path
  vhd : m.vhd = r.vhd
  host : m.host = if r.host = "" then m.accountName ++ "." ++ c.domain else r.host
  leaseId : r.leaseId ≠ "" → m.leaseId = r.leaseId
  sizeGb : r.sizeGb ≠ 0 → m.sizeGb = r.sizeGb
  own : r.accountName ≠ "" → r.accountKey ≠ "" →
    m.accountName = r.accountName ∧ m.accountKey = r.accountKey
  client : r.accountName = "" ∨ r.accountKey = "" →
    c.credentials = some ⟨m.accountName, m.accountKey⟩
  contacts : ∃ blob leasing metadata, BlobPath.parse m.path = .ok blob ∧
    (if r.leaseId = "" ∧ o.autoLease = true then
      Leasing ⟨m.accountName, m.accountKey⟩ blob o.breakLease leasing else leasing = []) ∧
    contacts = .connect ⟨m.accountName, m.accountKey⟩ ::
      (locating ⟨m.accountName, m.accountKey⟩ blob ++ leasing ++
        probing ⟨m.accountName, m.accountKey⟩ blob m.leaseId metadata m.mode)

end Mount

/-- Whatever answers come, a mount that succeeds keeps what the record was given with. -/
theorem Client.mountRecord_keeps {c : Client} : (c.mountRecord r o).Obeys .contacts []
    (fun m contacts => Mount.Keeps c r o m contacts) fun _ _ => True := by
  unfold mountRecord
  refine Action.obeys_bind.mpr (fillCredentials_filled.mono ?_ fun _ _ _ => trivial)
  rintro q _ ⟨rfl, hfilled⟩
  obtain ⟨account, key, rfl⟩ : ∃ account key, q = { r with accountName := account, accountKey := key } :=
    ⟨_, _, hfilled.eq⟩
  refine Channel.obeys_withChannel.mpr ⟨trivial, fun _ => ?_, fun _ => trivial⟩
  refine Action.obeys_bind.mpr (Action.obeys_connect.mpr
    ⟨trivial, fun _ => ?_, fun _ => ⟨trivial, trivial⟩⟩)
  refine Action.obeys_bind.mpr (Action.obeys_ofExcept.mpr
    ⟨fun blob hblob => ?_, fun _ _ => ⟨trivial, trivial⟩⟩)
  refine Action.obeys_bind.mpr (Lease.locate_contacts.mono ?_ fun _ _ _ => ⟨trivial, trivial⟩)
  rintro properties _ rfl
  refine Action.obeys_bind.mpr (Action.obeys_ofExcept.mpr
    ⟨fun q' hq' => ?_, fun _ _ => ⟨trivial, trivial⟩⟩)
  obtain ⟨sectorCount, sizeGb, rfl, hsize⟩ := fillSize_filled hq'
  refine leaseAndSubmit_filled.mono ?_ fun _ _ _ => ⟨trivial, trivial⟩
  rintro m _ ⟨leaseId, ip, major, minor, rfl, hlease, leasing, blob', metadata, hleasing, hblob', rfl⟩
  -- the path that was vetted is the path that was located
  obtain rfl : blob = blob' := Except.ok.inj (hblob.symm.trans hblob')
  refine ⟨trivial, ?_⟩
  exact {
    name := rfl
    mode := rfl
    path := rfl
    vhd := rfl
    host := rfl
    leaseId := hlease
    sizeGb := hsize
    own := hfilled.own
    client := hfilled.client
    contacts := ⟨blob, leasing, metadata, hblob, hleasing, by
      simp [Monitor.contacts, Effect.isContact, completed]⟩ }

/-- Whatever the stores, the resolver and the device manager answer, a mount that succeeds answers a record
with the name, the access, the path and the footer that it was given; with the host, the lease and the
size that it was given, if any; and with the account and the key that it was given, if both. All that was
asked of stores was asked of the one that was opened with the credentials in that record: to find the blob
at its path, to lease it if the record had no lease, and to prove the lease. -/
theorem Mount.keeps_given {c : Client} {r m : Record} {o : LeaseOptions} {events : List Event}
    (h : (c.mountRecord r o).run.Runs events (.ok m)) : Keeps c r o m (Event.contacts events) := by
  have hkeeps := Program.Obeys.runs (Client.mountRecord_keeps (c := c)) h
  rwa [Monitor.contacts_after, List.nil_append] at hkeeps

/-- A record of another account whose key is missing. -/
def Mount.keyless : Record := { Sample.record with accountName := "other", accountKey := "" }

/-- The mount of the record of another account, on a host on which nothing fails. -/
def Mount.replaced : List Event × Except Error Record :=
  (Sample.owner.mountRecord keyless { autoLease := true }).run.trace (Sample.handle Sample.accepted)
    (Sample.store 1)

/-- A record without a key is mounted under the account of the client. -/
theorem Mount.keeps_given_keyless : ∃ events m,
    (Sample.owner.mountRecord keyless { autoLease := true }).run.Runs events (.ok m) ∧
    Keeps Sample.owner keyless { autoLease := true } m (Event.contacts events) := by
  have hruns : (Sample.owner.mountRecord keyless { autoLease := true }).run.Runs replaced.1 replaced.2 :=
    Program.runs_trace ..
  cases hm : replaced.2 with
  | error e =>
    have hok : replaced.2.isOk = true := by decide +kernel
    rw [hm] at hok
    cases hok
  | ok m =>
    rw [hm] at hruns
    exact ⟨_, m, hruns, keeps_given hruns⟩

/-- The account of a record without a key is not kept. -/
theorem Mount.replaces_account : ∃ events m,
    (Sample.owner.mountRecord keyless { autoLease := true }).run.Runs events (.ok m) ∧
    keyless.accountName = "other" ∧ m.accountName = "account" := by
  have hruns : (Sample.owner.mountRecord keyless { autoLease := true }).run.Runs replaced.1 replaced.2 :=
    Program.runs_trace ..
  have haccount : replaced.2.toOption.map (·.accountName) = some "account" := by decide +kernel
  obtain ⟨m, hm, haccount⟩ := Option.map_eq_some_iff.mp haccount
  rw [Sample.eq_ok_of_toOption hm] at hruns
  exact ⟨_, m, hruns, rfl, haccount⟩

end BlobDisk
