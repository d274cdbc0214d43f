import BlobDisk.Proofs.Mount.Progress
import BlobDisk.Proofs.Schedule

/-!
# What becomes of a disk that the device manager accepted

When the device manager has answered a mount with a success, the device exists. The answer can still
be unreadable, and then the mount fails like any other: it breaks the lease that it took.

* `Mount.Aftermath`: what a run did about leases before and after the success;
* `Client.mountRecord_aftermath`, `Client.mount_aftermath`: what that can be;
* `Mount.breaks_accepted_iff`: a mount that was accepted breaks a lease just if it took one and cannot
  read the answer.
-/

namespace BlobDisk

namespace Event

/-- A lease is taken. -/
def acquires : Event → Bool
  | ⟨.store _ (.acquireLease ..), .ok _⟩ => true
  | _ => false

/-- A break is sent, whatever comes of it. -/
def breaks : Event → Bool
  | ⟨.store _ (.breakLease ..), _⟩ => true
  | _ => false

/-- A store cannot be opened. -/
def refuses : Event → Bool
  | ⟨.connect _, .error _⟩ => true
  | _ => false

/-- The payload, if the device manager answers a mount with a success. -/
def accepts? : Event → Option String
  | ⟨.submit .mount _, .ok reply⟩ => (Envelope.ofBuffer reply.buffer reply.length).result.toOption
  | _ => none

theorem eq_of_accepts? {e : Event} {payload : String} (h : e.accepts? = some payload) :
    ∃ buffer reply, e = ⟨.submit .mount buffer, .ok reply⟩ ∧
      (Envelope.ofBuffer reply.buffer reply.length).result = .ok payload := by
  unfold accepts? at h
  split at h
  · rename_i buffer reply
    refine ⟨buffer, reply, rfl, ?_⟩
    cases hr : (Envelope.ofBuffer reply.buffer reply.length).result with
    | ok payload' =>
      rw [hr] at h
      cases h
      rfl
    | error e =>
      rw [hr] at h
      cases h
  · cases h

/-- The events after the first success. -/
def afterAccept (events : List Event) : List Event :=
  (events.dropWhile fun e => e.accepts?.isNone).tail

theorem exists_accept (events : List Event) (h : events.any (·.accepts?.isSome) = true) :
    ∃ front buffer reply payload, events = front ++ ⟨.submit .mount buffer, .ok reply⟩ :: afterAccept events ∧
      (Envelope.ofBuffer reply.buffer reply.length).result = .ok payload := by
  induction events with
  | nil => cases h
  | cons e events ih =>
    cases he : e.accepts? with
    | some payload =>
      obtain ⟨buffer, reply, rfl, hreply⟩ := eq_of_accepts? he
      exact ⟨[], buffer, reply, payload, by simp [afterAccept, he], hreply⟩
    | none =>
      rw [List.any_cons, he] at h
      obtain ⟨front, buffer, reply, payload, hevents, hreply⟩ := ih h
      refine ⟨e :: front, buffer, reply, payload, ?_, hreply⟩
      rw [List.cons_append, afterAccept, List.dropWhile_cons, he]
      exact congrArg (e :: ·) hevents

end Event

namespace Mount

/-- What a run did about leases, before and after the device manager accepted its mount. -/
structure Aftermath where
  acquired : Bool := false
  /-- The payload of the success. -/
  payload : Option String := none
  /-- Whether a break was sent after the success. -/
  broke : Bool := false
  /-- Whether a store could not be opened after the success. -/
  refused : Bool := false

namespace Aftermath

def next (a : Aftermath) (e : Event) : Aftermath where
  acquired := e.acquires || a.acquired
  payload := e.accepts?.or a.payload
  broke := e.breaks && a.payload.isSome || a.broke
  refused := e.refuses && a.payload.isSome || a.refused

/-- No lease is taken and no mount sent after the success. -/
def Allows (a : Aftermath) : Effect → Prop
  | .store _ (.acquireLease ..) | .submit .mount _ => a.payload = none
  | _ => True

def monitor : Monitor Aftermath := ⟨Allows, fun a e answer => a.next ⟨e, answer⟩⟩

variable {α : Type} {a : Aftermath} {events : List Event} {post : α → Aftermath → Prop}

/-- Before the success only the leases that are taken count. -/
theorem after_of_none (h : (monitor.after a events).payload = none) :
    a.payload = none ∧
      monitor.after a events = { a with acquired := events.any Event.acquires || a.acquired } := by
  induction events generalizing a with
  | nil => exact ⟨h, rfl⟩
  | cons e events ih =>
    obtain ⟨hnone, hafter⟩ := ih h
    have haccepts : e.accepts? = none ∧ a.payload = none := Option.or_eq_none_iff.mp hnone
    refine ⟨haccepts.2, ?_⟩
    rw [Monitor.after_cons, hafter]
    simp [monitor, next, haccepts.1, haccepts.2, Bool.or_comm, Bool.or_left_comm]

theorem next_submit {command : Command} {buffer : Buffer} {reply : Reply} :
    monitor.next a (.submit command buffer) (.ok reply) =
      { a with payload := (Event.accepts? ⟨.submit command buffer, .ok reply⟩).or a.payload } := rfl

theorem next_of_allows {e : Event} (h : Allows a e.effect) (ha : a.payload ≠ none) :
    e.acquires = false ∧ e.accepts? = none := by
  obtain ⟨effect, answer⟩ := e
  cases effect with
  | submit command buffer =>
    cases command with
    | mount => exact (ha h).elim
    | _ => exact ⟨rfl, rfl⟩
  | store login call =>
    cases call with
    | acquireLease b duration => exact (ha h).elim
    | _ => exact ⟨rfl, rfl⟩
  | _ => exact ⟨rfl, rfl⟩

/-- After the success only breaks and refusals count. -/
theorem post_of_some {p : Program α} {v : α} {payload : String} (h : p.Obeys monitor a post)
    (hr : p.Runs events v) (ha : a.payload = some payload) :
    post v { a with
      broke := events.any Event.breaks || a.broke
      refused := events.any Event.refuses || a.refused } := by
  induction hr generalizing a with
  | done v => exact h
  | @ask e _ _ _ answer _ ih =>
    obtain ⟨hacquires, haccepts⟩ := next_of_allows (e := ⟨e, answer⟩) h.1 (ha ▸ nofun)
    have hnext : a.next ⟨e, answer⟩ = { a with
        broke := Event.breaks ⟨e, answer⟩ || a.broke
        refused := Event.refuses ⟨e, answer⟩ || a.refused } := by
      simp [next, hacquires, haccepts, ha]
    have hpost := h.2 answer
    change Program.Obeys monitor _ (a.next ⟨e, answer⟩) post at hpost
    rw [hnext] at hpost
    have hlast := ih hpost ha
    simp only [List.any_cons]
    rwa [Bool.or_comm (Event.breaks _), Bool.or_comm (Event.refuses _), Bool.or_assoc, Bool.or_assoc]

/-- The aftermath of a run in which the device manager accepted a mount. -/
theorem post_of_accepted {p : Program α} {v : α} {front back : List Event} {buffer : Buffer}
    {reply : Reply} {payload : String}
    (haccept : (Envelope.ofBuffer reply.buffer reply.length).result = .ok payload)
    (h : p.Obeys monitor {} post)
    (hr : p.Runs (front ++ ⟨.submit .mount buffer, .ok reply⟩ :: back) v) :
    post v {
      acquired := front.any Event.acquires
      payload := some payload
      broke := back.any Event.breaks
      refused := back.any Event.refuses } := by
  obtain ⟨q, hq, hobeys⟩ := h.rest hr
  cases hq with
  | ask answer hback =>
    obtain ⟨-, hfront⟩ := after_of_none hobeys.1
    have hlast := hobeys.2 (.ok reply)
    rw [hfront, next_submit, Event.accepts?, haccept] at hlast
    have hpost := post_of_some hlast hback rfl
    simp only [Bool.or_false] at hpost
    exact hpost

/-- The aftermath of a failure, where a lease had been taken before or not: without a success any; with
a success, whose payload is then no record, every lease that was taken since was broken. -/
def Failed (before : Bool) (a : Aftermath) : Prop :=
  (∃ acquired, a = { acquired }) ∨
    ∃ payload broke, (Record.ofText payload).isOk = false ∧
      a = { acquired := before || broke, payload := some payload, broke }

/-- The aftermath of a success, whose payload is a record. -/
def Succeeded (a : Aftermath) : Prop :=
  ∃ payload acquired, (Record.ofText payload).isOk = true ∧ a = { acquired, payload := some payload }

/-- Where a mount was accepted, leases were broken, or the attempt was cut short by a store that could
not be opened, just if a lease was taken and the answer is no record. -/
def Cleaned (a : Aftermath) : Prop :=
  ∀ payload, a.payload = some payload →
    (a.broke || a.refused) = (!(Record.ofText payload).isOk && a.acquired)

end Aftermath

end Mount

open Mount (Aftermath)
open Mount.Aftermath

variable {login : Credentials} {blob : BlobPath} {q : Record} {before : Bool} {a : Aftermath}

/-! ## Leases -/

theorem Lease.locate_aftermath :
    (Lease.locate login blob).Obeys monitor a (fun _ a' => a' = a) fun _ a' => a' = a := by
  unfold locate
  refine Action.obeys_bind.mpr (Action.obeys_store.mpr ⟨trivial, fun hasContainer => ?_, fun _ => rfl⟩)
  refine Action.obeys_guard.mpr ⟨fun _ => rfl, fun _ => ?_⟩
  refine Action.obeys_bind.mpr (Action.obeys_store.mpr ⟨trivial, fun hasBlob => ?_, fun _ => rfl⟩)
  refine Action.obeys_guard.mpr ⟨fun _ => rfl, fun _ => ?_⟩
  exact Action.obeys_store.mpr ⟨trivial, fun _ => rfl, fun _ => rfl⟩

theorem Lease.acquire_aftermath {breakExisting : Bool} :
    (Lease.acquire login blob breakExisting).Obeys monitor { acquired := before }
      (fun _ a' => a' = { acquired := true }) fun _ a' => a' = { acquired := before } := by
  unfold acquire
  refine Action.obeys_bind.mpr (Action.obeys_always.mpr (Action.obeys_outcome.mpr
    (Action.obeys_store.mpr ⟨rfl, fun _ => rfl, fun e => ?_⟩)))
  cases breakExisting with
  | false => cases e <;> rfl
  | true =>
    cases e with
    | leaseAlreadyPresent detail =>
      refine Action.obeys_bind.mpr (Action.obeys_store.mpr ⟨trivial, fun _ => ?_, fun _ => rfl⟩)
      exact Action.obeys_store.mpr ⟨rfl, fun _ => rfl, fun _ => rfl⟩
    | _ => rfl

theorem Lease.verifyWritable_aftermath {id : String} {mode : AccessMode} :
    (Lease.verifyWritable login blob id mode).Obeys monitor a (fun _ a' => a' = a)
      fun _ a' => a' = a := by
  unfold verifyWritable
  refine Action.obeys_bind.mpr (Action.obeys_store.mpr ⟨trivial, fun p => ?_, fun _ => rfl⟩)
  refine Action.obeys_guard.mpr ⟨fun _ => rfl, fun _ => ?_⟩
  cases mode with
  | readOnly => rfl
  | readWrite =>
    exact Action.obeys_bind.mpr (Action.obeys_store.mpr ⟨trivial, fun _ => rfl, fun _ => rfl⟩)

theorem Lease.breakBestEffort_aftermath :
    (Lease.breakBestEffort login blob).Obeys monitor a fun _ a' =>
      a' = { a with broke := a.payload.isSome || a.broke } := by
  unfold breakBestEffort
  exact Program.obeys_bind.mpr (Action.obeys_outcome.mpr
    (Action.obeys_store.mpr ⟨trivial, fun _ => rfl, fun _ => rfl⟩))

/-! ## Records -/

theorem Record.validate_aftermath {domain : String} :
    (q.validate login domain).Obeys monitor a fun _ a' => a' = a := by
  unfold validate
  cases q.checkFields domain with
  | mk q' verdict =>
    cases verdict with
    | error e => rfl
    | ok blob =>
      unfold resolveHost
      refine Program.obeys_bind.mpr (Action.obeys_outcome.mpr (Action.obeys_bind.mpr
        (Action.obeys_resolve.mpr ⟨trivial, fun ip => ?_, fun _ => rfl⟩)))
      refine Action.obeys_guard.mpr ⟨fun _ => rfl, fun _ => ?_⟩
      exact Program.obeys_bind.mpr (Action.obeys_outcome.mpr Lease.verifyWritable_aftermath)

/-! ## New blobs -/

theorem Provision.writeFooter_aftermath {objectSize payloadSize : UInt64} :
    (Provision.writeFooter login blob objectSize payloadSize).Obeys monitor a (fun _ a' => a' = a)
      fun _ a' => a' = a := by
  unfold writeFooter
  refine Action.obeys_bind.mpr (Action.obeys_always.mpr ⟨trivial, fun stamp => ?_⟩)
  exact Action.obeys_store.mpr ⟨trivial, fun _ => rfl, fun _ => rfl⟩

theorem Provision.create_aftermath {gb : UInt64} {container name : String} {vhd lease : Bool} :
    (Provision.create login gb container name vhd lease).Obeys monitor {}
      (fun created a => a = { acquired := created.leaseId.isSome }) fun _ a => a = {} := by
  have hlease : ∀ blob : BlobPath, Action.Obeys monitor (do
      let leaseId ← if lease then some <$> Lease.acquire login blob false else pure none
      return (⟨blob, gb, vhd, leaseId⟩ : CreatedBlob)) {}
      (fun created a => a = { acquired := created.leaseId.isSome }) fun _ a => a = {} := by
    intro blob
    cases lease with
    | false => rfl
    | true =>
      refine Action.obeys_bind.mpr (Action.obeys_map.mpr (Lease.acquire_aftermath.mono ?_ fun e a ha => ha))
      rintro id _ rfl
      rfl
  unfold create
  refine Action.obeys_bind.mpr (Action.obeys_ofExcept.mpr ⟨fun _ _ => ?_, fun _ _ => rfl⟩)
  refine Action.obeys_bind.mpr (Action.obeys_ofExcept.mpr ⟨fun objectSize _ => ?_, fun _ _ => rfl⟩)
  refine Action.obeys_bind.mpr (Action.obeys_store.mpr ⟨trivial, fun _ => ?_, fun _ => rfl⟩)
  refine Action.obeys_bind.mpr (Action.obeys_store.mpr ⟨trivial, fun _ => ?_, fun _ => rfl⟩)
  cases vhd with
  | false => exact hlease _
  | true =>
    refine Action.obeys_bind.mpr (Action.obeys_ofExcept.mpr ⟨fun payloadSize _ => ?_, fun _ _ => rfl⟩)
    refine Action.obeys_bind.mpr (Provision.writeFooter_aftermath.mono ?_ fun e a ha => ha)
    rintro _ _ rfl
    exact hlease _

/-! ## Mounts -/

namespace Client

variable {c : Client}

theorem submitMount_aftermath : (c.submitMount login q).Obeys monitor { acquired := before }
    (fun _ a => ∃ payload, (Record.ofText payload).isOk = true ∧
      a = { acquired := before, payload := some payload })
    fun _ a => a = { acquired := before } ∨ ∃ payload, (Record.ofText payload).isOk = false ∧
      a = { acquired := before, payload := some payload } := by
  unfold submitMount
  refine Action.obeys_bind.mpr (Action.obeys_always.mpr (Record.validate_aftermath.mono ?_))
  rintro ⟨q', verdict⟩ _ rfl
  refine Action.obeys_bind.mpr (Action.obeys_ofExcept.mpr ⟨fun _ _ => ?_, fun _ _ => .inl rfl⟩)
  refine Action.obeys_bind.mpr (Action.obeys_ofExcept.mpr ⟨fun buffer _ => ?_, fun _ _ => .inl rfl⟩)
  refine Action.obeys_bind.mpr (Channel.obeys_exchangeBuffer.mpr ⟨rfl, fun _ => .inl rfl, fun reply =>
    ⟨fun payload hpayload => ?_, fun e he => .inl ?_⟩⟩)
  · rw [next_submit, Event.accepts?, hpayload]
    refine Action.obeys_bind.mpr (Action.obeys_ofExcept.mpr ⟨fun mounted hmounted => ?_, fun e he => ?_⟩)
    · exact ⟨payload, by rw [hmounted]; rfl, rfl⟩
    · exact .inr ⟨payload, by rw [he]; rfl, rfl⟩
  · rw [next_submit, Event.accepts?, he]
    rfl

theorem leaseAndSubmit_aftermath {o : LeaseOptions} :
    (c.leaseAndSubmit login blob q o).Obeys monitor { acquired := before } (fun _ a => Succeeded a)
      fun _ a => Failed before a := by
  unfold leaseAndSubmit
  split
  · refine Action.obeys_bind.mpr (Lease.acquire_aftermath.mono ?_ fun e a ha => .inl ⟨before, ha⟩)
    rintro id _ rfl
    refine Action.obeys_bind.mpr (Action.obeys_always.mpr (Action.obeys_outcome.mpr
      (submitMount_aftermath.mono ?_ ?_)))
    · rintro mounted _ ⟨payload, hok, rfl⟩
      exact ⟨payload, true, hok, rfl⟩
    · intro e a ha
      refine Action.obeys_bind.mpr (Action.obeys_always.mpr (Lease.breakBestEffort_aftermath.mono ?_))
      rintro _ _ rfl
      rcases ha with rfl | ⟨payload, herror, rfl⟩
      · exact .inl ⟨true, rfl⟩
      · exact .inr ⟨payload, true, herror, by rw [Bool.or_true]; rfl⟩
  · refine submitMount_aftermath.mono ?_ ?_
    · rintro mounted _ ⟨payload, hok, rfl⟩
      exact ⟨payload, before, hok, rfl⟩
    · rintro e _ (rfl | ⟨payload, herror, rfl⟩)
      · exact .inl ⟨before, rfl⟩
      · exact .inr ⟨payload, false, herror, by rw [Bool.or_false]⟩

theorem mountRecord_aftermath {o : LeaseOptions} :
    (c.mountRecord q o).Obeys monitor { acquired := before } (fun _ a => Succeeded a)
      fun _ a => Failed before a := by
  unfold mountRecord
  refine Action.obeys_bind.mpr (fillCredentials_obeys.mono ?_ fun e a ha => .inl ⟨before, ha⟩)
  rintro q _ ⟨rfl, -, -⟩
  refine Channel.obeys_withChannel.mpr ⟨trivial, fun _ => ?_, fun _ => .inl ⟨before, rfl⟩⟩
  refine Action.obeys_bind.mpr (Action.obeys_connect.mpr
    ⟨trivial, fun _ => ?_, fun _ => ⟨trivial, .inl ⟨before, rfl⟩⟩⟩)
  refine Action.obeys_bind.mpr (Action.obeys_ofExcept.mpr
    ⟨fun blob _ => ?_, fun _ _ => ⟨trivial, .inl ⟨before, rfl⟩⟩⟩)
  refine Action.obeys_bind.mpr (Lease.locate_aftermath.mono ?_
    fun e a ha => ha ▸ ⟨trivial, .inl ⟨before, rfl⟩⟩)
  rintro p _ rfl
  refine Action.obeys_bind.mpr (Action.obeys_ofExcept.mpr
    ⟨fun q' _ => ?_, fun _ _ => ⟨trivial, .inl ⟨before, rfl⟩⟩⟩)
  exact leaseAndSubmit_aftermath.mono (fun mounted a ha => ⟨trivial, ha⟩) fun e a ha => ⟨trivial, ha⟩

theorem nameOr_aftermath {name : Option String} :
    (nameOr name).Obeys monitor a (fun _ a' => a' = a) fun _ a' => a' = a := by
  cases name with
  | some name => rfl
  | none => exact Action.obeys_always.mpr ⟨trivial, fun _ => rfl⟩

theorem prepareBlob_aftermath {q : MountRequest} {object : String} :
    (prepareBlob login q object).Obeys monitor {} (fun prepared a => a = { acquired := prepared.2.2 })
      fun _ a => a = {} := by
  unfold prepareBlob
  by_cases hcreate : q.autoCreate = true
  · rw [if_pos hcreate]
    refine Action.obeys_bind.mpr (Action.obeys_connect.mpr ⟨trivial, fun _ => ?_, fun _ => rfl⟩)
    refine Action.obeys_bind.mpr (Provision.create_aftermath.mono ?_ fun e a ha => ha)
    rintro created _ rfl
    cases hlease : created.leaseId with
    | some id => rfl
    | none => rfl
  · rw [if_neg hcreate]
    rfl

theorem releaseCreated_aftermath : (releaseCreated login blob).Obeys monitor a fun _ a' =>
    a' = { a with broke := a.payload.isSome || a.broke } ∨
      a' = { a with refused := a.payload.isSome || a.refused } := by
  unfold releaseCreated
  refine Program.obeys_bind.mpr (Action.obeys_outcome.mpr (Action.obeys_connect.mpr
    ⟨trivial, fun _ => ?_, fun _ => ?_⟩))
  · refine Program.obeys_bind.mpr (Lease.breakBestEffort_aftermath.mono ?_)
    rintro _ _ rfl
    exact Or.inl rfl
  · exact Or.inr rfl

theorem mount_aftermath {q : MountRequest} : (c.mount q).Obeys monitor {} (fun _ a => Cleaned a)
    fun _ a => Cleaned a := by
  have hnone : ∀ acquired, Cleaned { acquired } := fun _ => nofun
  unfold mount
  refine Action.obeys_bind.mpr (login_obeys.mono ?_ fun e a ha => ha ▸ hnone false)
  rintro login _ rfl
  refine Action.obeys_bind.mpr (nameOr_aftermath.mono ?_ fun e a ha => ha ▸ hnone false)
  rintro name _ rfl
  refine Action.obeys_bind.mpr (Action.obeys_ofExcept.mpr ⟨fun _ _ => ?_, fun _ _ => hnone false⟩)
  refine Action.obeys_bind.mpr (prepareBlob_aftermath.mono ?_ fun e a ha => ha ▸ hnone false)
  rintro ⟨blob, leaseId, createdLease⟩ _ rfl
  refine Action.obeys_bind.mpr (Action.obeys_always.mpr (Action.obeys_outcome.mpr
    (mountRecord_aftermath.mono ?_ ?_)))
  · rintro mounted _ ⟨payload, acquired, hok, rfl⟩ _ ⟨⟩
    rw [hok]
    rfl
  · intro e a ha
    cases createdLease with
    | false =>
      rcases ha with ⟨acquired, rfl⟩ | ⟨payload, broke, herror, rfl⟩
      · exact hnone acquired
      · rintro _ ⟨⟩
        simp only [herror, Bool.or_false, Bool.false_or, Bool.not_false, Bool.true_and]
    | true =>
      -- The blob is new and under a lease of this mount, which is broken if its store opens again.
      refine Action.obeys_bind.mpr (Action.obeys_always.mpr (releaseCreated_aftermath.mono ?_))
      rintro _ _ ha'
      rcases ha with ⟨acquired, rfl⟩ | ⟨payload, broke, herror, rfl⟩
      · rcases ha' with rfl | rfl <;> exact hnone acquired
      · rcases ha' with rfl | rfl <;> rintro _ ⟨⟩ <;> simp [herror]

end Client

/-- Once the device manager has accepted a mount, a break is sent just if a lease was taken before and
the answer is no record. The lease of a blob that was made for the mount is left only if its store
cannot be opened again. -/
theorem Mount.breaks_accepted_iff {c : Client} {v : Except Error Record} {front back : List Event}
    {buffer : Buffer} {reply : Reply} {payload : String}
    (haccept : (Envelope.ofBuffer reply.buffer reply.length).result = .ok payload) :
    (∀ r o, (c.mountRecord r o).run.Runs (front ++ ⟨.submit .mount buffer, .ok reply⟩ :: back) v →
      ((∃ e ∈ back, e.breaks = true) ↔
        (Record.ofText payload).isOk = false ∧ ∃ e ∈ front, e.acquires = true)) ∧
    ∀ q, (c.mount q).run.Runs (front ++ ⟨.submit .mount buffer, .ok reply⟩ :: back) v →
      ((∃ e ∈ back, e.breaks = true ∨ e.refuses = true) ↔
        (Record.ofText payload).isOk = false ∧ ∃ e ∈ front, e.acquires = true) := by
  refine ⟨fun r o hr => ?_, fun q hr => ?_⟩
  · have hlast := post_of_accepted haccept (Client.mountRecord_aftermath (c := c)) hr
    rw [← List.any_eq_true, ← List.any_eq_true]
    cases v with
    | ok mounted =>
      obtain ⟨payload', acquired, hok, ha⟩ := hlast
      injection ha with _ hpayload hbroke _
      cases hpayload
      simp [hbroke, hok]
    | error e =>
      rcases hlast with ⟨acquired, ha⟩ | ⟨payload', broke, herror, ha⟩
      · cases ha
      · injection ha with hacquired hpayload hbroke _
        cases hpayload
        rw [hacquired, hbroke, herror, Bool.false_or]
        simp
  · have hlast := post_of_accepted haccept (Client.mount_aftermath (c := c)).run hr
    have hclean : (back.any Event.breaks || back.any Event.refuses)
        = (!(Record.ofText payload).isOk && front.any Event.acquires) := hlast payload rfl
    simp only [and_or_left, exists_or]
    rw [← List.any_eq_true, ← List.any_eq_true, ← List.any_eq_true, ← Bool.or_eq_true, hclean]
    simp

/-- The mount of a record that takes a lease, on a host whose device manager answers with the text. -/
def Mount.answered (text : String) : List Event × Except Error Record :=
  (Sample.client.mountRecord Sample.record { autoLease := true }).run.trace (Sample.handle text)
    (Sample.store 1)

theorem Mount.answered_runs (text : String) :
    (Sample.client.mountRecord Sample.record { autoLease := true }).run.Runs (answered text).1
      (answered text).2 :=
  Program.runs_trace ..

/-- With a record in the answer the lease stays. -/
theorem Mount.keeps_accepted : ∃ front back buffer reply payload v,
    (Envelope.ofBuffer reply.buffer reply.length).result = .ok payload ∧
    (Sample.client.mountRecord Sample.record { autoLease := true }).run.Runs
      (front ++ ⟨.submit .mount buffer, .ok reply⟩ :: back) v ∧
    ((∃ e ∈ back, e.breaks = true) ↔
      (Record.ofText payload).isOk = false ∧ ∃ e ∈ front, e.acquires = true) := by
  have hruns := answered_runs Sample.accepted
  obtain ⟨front, buffer, reply, payload, hevents, hreply⟩ :=
    Event.exists_accept (answered Sample.accepted).1 (by decide +kernel)
  rw [hevents] at hruns
  exact ⟨front, _, buffer, reply, payload, _, hreply, hruns,
    (breaks_accepted_iff hreply).1 Sample.record { autoLease := true } hruns⟩

/-- With an answer that is no record the lease of the device is broken. -/
theorem Mount.breaks_accepted : ∃ front back buffer reply payload v,
    (Envelope.ofBuffer reply.buffer reply.length).result = .ok payload ∧
    (Sample.client.mountRecord Sample.record { autoLease := true }).run.Runs
      (front ++ ⟨.submit .mount buffer, .ok reply⟩ :: back) v ∧
    ∃ e ∈ back, e.breaks = true := by
  have hruns := answered_runs "OK\nmounted"
  have hbreaks : ∃ e ∈ Event.afterAccept (answered "OK\nmounted").1, e.breaks = true := by
    decide +kernel
  obtain ⟨front, buffer, reply, payload, hevents, hreply⟩ :=
    Event.exists_accept (answered "OK\nmounted").1 (by decide +kernel)
  rw [hevents] at hruns
  exact ⟨front, _, buffer, reply, payload, _, hreply, hruns, hbreaks⟩

end BlobDisk
