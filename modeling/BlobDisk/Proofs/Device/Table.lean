import BlobDisk.Proofs.Mount.Vetting
import BlobDisk.Testbed.World

/-!
# The table of devices as a world

The device manager for tests is at work, and every answer of it fits the buffer. Everything else is
answered in any way: the stores, the resolver and the faults are left open.

* `DeviceTable.said`: an answer as the client reads it;
* `DeviceTable.Step`: the table as a world;
* `Record.Listed`: a record that comes back from the table as it was;
* `Action.Adds`: an action that mounts the record that it answers, or else leaves the table alone;
* `Client.submitMount_adds` to `Client.mount_adds`: mounts.
-/

namespace BlobDisk

theorem Channel.exchange_eq {command : Command} {request : String} {buffer : Buffer}
    (h : Buffer.ofText request = .ok buffer) :
    exchange command request = exchangeBuffer command buffer := by
  unfold exchange
  rw [h]
  rfl

/-- The request that names a device reaches the device manager as it was written. -/
theorem Channel.nameRequest_text {name : String} (h : Rules.lookupName name = .ok ()) :
    ∃ buffer, Buffer.ofText (Envelope.nameRequest name) = .ok buffer ∧
      DeviceTable.requestedName buffer.text = name := by
  have hnul := Rules.notMem_of_lookupName h (c := '\x00') rfl (by decide)
  have hfeed := Rules.notMem_of_lookupName h (c := '\n') rfl (by decide)
  have hlength : (Utf8.encode (Envelope.nameRequest name).toList).length ≤ Buffer.capacity := by
    have hlimit := (Rules.lookupName_eq_ok.mp h).1.2
    rw [Utf8.length_encode, Envelope.nameRequest, String.utf8ByteSize_append]
    simp only [Record.nameLimit] at hlimit
    simp only [Buffer.capacity]
    have hone : "\n".utf8ByteSize = 1 := by decide
    omega
  have hb := Buffer.ofText_eq_ok.mpr ⟨hlength, rfl⟩
  refine ⟨_, hb, ?_⟩
  have htext : (Envelope.nameRequest name).toList = name.toList ++ ['\n'] := String.toList_append
  rw [Buffer.text_ofText hb, Buffer.untilNul_of_notMem (by simp [htext, hnul]), htext,
    DeviceTable.requestedName, String.toList_ofList, List.reverse_append]
  -- The name does not end in a line feed, so only that of the request is dropped.
  have hdrop : name.toList.reverse.dropWhile (· = '\n') = name.toList.reverse := by
    cases hr : name.toList.reverse with
    | nil => rfl
    | cons c rest =>
      have hc : c ≠ '\n' := by
        rintro rfl
        exact hfeed (List.mem_reverse.mp (hr ▸ List.mem_cons_self))
      exact List.dropWhile_cons_of_neg (by simpa using hc)
  simp [hdrop]

namespace DeviceTable

variable {t t' : DeviceTable} {text : String}

/-! ## Answers -/

/-- What the client makes of the text of an answer. -/
def said (text : String) : Except Error String :=
  (Envelope.ofText (Buffer.untilNul text.toList)).result

theorem said_of_written {reply : Reply} (h : Testbed.World.written text = .ok reply) :
    (Envelope.ofBuffer reply.buffer reply.length).result = said text := by
  unfold Testbed.World.written at h
  dsimp only at h
  split at h
  · cases h
  · rename_i hlength
    obtain rfl := Except.ok.inj h
    rw [Envelope.ofBuffer_overwrite (Nat.le_of_not_lt hlength), said]

theorem said_success (payload : String) (h : '\x00' ∉ payload.toList) :
    said ("OK\n" ++ payload) = .ok payload := by
  have htext : ("OK\n" ++ payload).toList = ['O', 'K'] ++ '\n' :: payload.toList :=
    String.toList_append
  rw [said, htext, Buffer.untilNul_of_notMem (by simp [h]), Envelope.ofText,
    Pieces.cut?_append (by decide)]
  simp [Envelope.result, Envelope.refusal]

theorem said_removed : said "OK\n" = .ok "" := said_success "" (by decide)

/-- The reasons of refusals are in three parts, of which one is a name. -/
theorem said_refusal {front : String} (h : "ERR\n".toList <+: front.toList) (name back : String) :
    ∃ detail, said (front ++ name ++ back) = .error (.device detail) := by
  obtain ⟨rest, hrest⟩ := h
  have htext : Buffer.untilNul (front ++ name ++ back).toList
      = ['E', 'R', 'R'] ++ '\n' :: Buffer.untilNul (rest ++ name.toList ++ back.toList) := by
    rw [String.toList_append, String.toList_append, ← hrest]
    rfl
  refine ⟨String.ofList (Buffer.untilNul (rest ++ name.toList ++ back.toList)), ?_⟩
  rw [said, htext, Envelope.ofText, Pieces.cut?_append (by decide)]
  rfl

/-! ## The world -/

/-- The control channel can be opened at any time. A request is carried out, and its answer fits the
buffer. Everything else is answered in any way. -/
inductive Step : Outside DeviceTable
  | opened {t : DeviceTable} : Step t ⟨.openChannel, .ok ()⟩ t
  | answered {t : DeviceTable} {command : Command} {buffer : Buffer} {reply : Reply} :
    Testbed.World.written (t.answer command buffer.text).1 = .ok reply →
    Step t ⟨.submit command buffer, .ok reply⟩ (t.answer command buffer.text).2
  | other {t : DeviceTable} {e : Effect} (answer : e.Answer) : e ≠ .openChannel → e.isRequest = false →
    Step t ⟨e, answer⟩ t

theorem Step.eq_of_quiet {e : Effect} {answer : e.Answer} (h : Step t ⟨e, answer⟩ t')
    (he : e.isRequest = false) : t' = t := by
  cases h with
  | opened | other => rfl
  | answered => cases he

theorem Step.opens {e : Error} (h : Step t ⟨.openChannel, .error e⟩ t') : False := by
  cases h with
  | other _ h => exact h rfl

theorem Step.of_submit {command : Command} {buffer : Buffer}
    {answer : (Effect.submit command buffer).Answer} (h : Step t ⟨.submit command buffer, answer⟩ t') :
    t' = (t.answer command buffer.text).2 ∧ ∃ reply : Reply, answer = Except.ok reply ∧
      (Envelope.ofBuffer reply.buffer reply.length).result = said (t.answer command buffer.text).1 := by
  cases h with
  | answered hfits => exact ⟨rfl, _, rfl, said_of_written hfits⟩
  | other _ _ h => cases h

/-- A program without requests leaves the table as it is. -/
theorem ensures_of_quiet {α : Type} {p : Program α} (h : p.Only fun e => e.isRequest = false) :
    p.Ensures Step t fun _ _ t' => t' = t :=
  h.frame fun _ _ _ hstep he => hstep.eq_of_quiet he

theorem ensures_of_only {α : Type} {a : Action α} (h : a.Only fun e => e.isRequest = false) :
    a.Ensures Step t (fun _ _ t' => t' = t) fun _ _ t' => t' = t :=
  h.frame fun _ _ _ hstep he => hstep.eq_of_quiet he

/-- A request has the answer of the table. -/
theorem ensures_exchangeBuffer {command : Command} {buffer : Buffer} {good : String → DeviceTable → Prop}
    {bad : Error → DeviceTable → Prop}
    (hgood : ∀ payload, said (t.answer command buffer.text).1 = .ok payload →
      good payload (t.answer command buffer.text).2)
    (hbad : ∀ e, said (t.answer command buffer.text).1 = .error e →
      bad e (t.answer command buffer.text).2) :
    (Channel.exchangeBuffer command buffer).Ensures Step t (fun _ => good) fun _ => bad := by
  refine Channel.ensures_exchangeBuffer.mpr ⟨fun detail t' h => ?_, fun reply t' h => ?_⟩
  · obtain ⟨-, reply, hreply, -⟩ := h.of_submit
    cases hreply
  · obtain ⟨rfl, reply, hreply, hsaid⟩ := h.of_submit
    obtain rfl := Except.ok.inj hreply
    rw [hsaid]
    exact ⟨hgood, hbad⟩

theorem ensures_exchangeBuffer_ok {command : Command} {buffer : Buffer} {payload : String}
    {good : String → DeviceTable → Prop} {bad : Error → DeviceTable → Prop}
    (hsaid : said (t.answer command buffer.text).1 = .ok payload)
    (h : good payload (t.answer command buffer.text).2) :
    (Channel.exchangeBuffer command buffer).Ensures Step t (fun _ => good) fun _ => bad := by
  refine ensures_exchangeBuffer (fun payload' hp => ?_) fun e he => ?_
  · obtain rfl := Except.ok.inj (hsaid.symm.trans hp)
    exact h
  · cases hsaid.symm.trans he

theorem ensures_exchangeBuffer_error {command : Command} {buffer : Buffer} {e : Error}
    {good : String → DeviceTable → Prop} {bad : Error → DeviceTable → Prop}
    (hsaid : said (t.answer command buffer.text).1 = .error e)
    (h : bad e (t.answer command buffer.text).2) :
    (Channel.exchangeBuffer command buffer).Ensures Step t (fun _ => good) fun _ => bad := by
  refine ensures_exchangeBuffer (fun payload hp => ?_) fun e' he => ?_
  · cases hsaid.symm.trans hp
  · obtain rfl := Except.error.inj (hsaid.symm.trans he)
    exact h

/-- The opening and the closing of the control channel leave the table alone. -/
theorem ensures_withChannel {α : Type} {body : Action α} {good : α → DeviceTable → Prop}
    {bad : Error → DeviceTable → Prop} (h : body.Ensures Step t (fun _ => good) fun _ => bad) :
    (Channel.withChannel body).Ensures Step t (fun _ => good) fun _ => bad := by
  refine Channel.ensures_withChannel.mpr ⟨fun u t₁ hopen => ?_, fun e t₁ hopen => hopen.opens.elim⟩
  obtain rfl := hopen.eq_of_quiet rfl
  refine h.mono (fun scenes a t₂ hgood t₃ hclose => ?_) fun scenes e t₂ hbad t₃ hclose => ?_
  all_goals
    obtain rfl := hclose.eq_of_quiet rfl
    assumption

end DeviceTable

open DeviceTable (Step said)

/-! ## Records in the table -/

namespace Record

variable {r : Record}

/-- The record as the device manager holds it. -/
def unsized (r : Record) : Record := { r with sizeGb := 0 }

/-- A record that the device manager can show, and whose size is that of its sectors. -/
structure Listed (r : Record) : Prop where
  name : Rules.deviceName r.name = .ok ()
  text : ∃ text, Layout.response.toText r.unsized = .ok text
  size : Size.gbOfSectors r.sectorCount r.vhd = .ok r.sizeGb

theorem Listed.said_shown (h : r.Listed) :
    ∃ payload, said (DeviceTable.shown r.unsized) = .ok payload ∧ ofText payload = .ok r.unsized := by
  obtain ⟨text, htext⟩ := h.text
  obtain ⟨hfits, rfl⟩ := Layout.toText_eq_ok.mp htext
  refine ⟨_, ?_, ofText_response htext⟩
  rw [DeviceTable.shown, htext]
  exact DeviceTable.said_success _ (Layout.notMem_render hfits)

/-- The size comes back. -/
theorem Listed.sizeFromSectors (h : r.Listed) : r.unsized.sizeFromSectors = .ok r := by
  have hsize : Size.gbOfSectors r.unsized.sectorCount r.unsized.vhd = .ok r.sizeGb := h.size
  simp only [Record.sizeFromSectors, hsize]
  rfl

end Record

namespace DeviceTable

variable {t : DeviceTable} {q : Record} {text : String}

/-- The table with one more record. -/
def add (t : DeviceTable) (m : Record) : DeviceTable :=
  { records := t.records ++ [m.unsized], nextMinor := t.nextMinor + 16 }

/-- A new record is found under its name. -/
theorem find?_add {m : Record} (h : t.find? m.name = none) : (t.add m).find? m.name = some m.unsized := by
  rw [find?] at h ⊢
  rw [add, List.find?_append, h, Option.none_or]
  simp [Record.unsized]

/-- A request to mount is refused where its name is taken. -/
theorem answer_mount_of_isSome (hq : Layout.request.toText q = .ok text)
    (ht : (t.find? q.name).isSome = true) :
    (t.answer .mount text).2 = t ∧ ∃ detail, said (t.answer .mount text).1 = .error (.device detail) := by
  have hanswer : t.answer .mount text = ("ERR\nDevice with name:" ++ q.name ++ " already exists", t) := by
    simp only [answer, mount, Record.ofText_request hq, ht, if_true]
  rw [hanswer]
  exact ⟨rfl, said_refusal (by decide) _ _⟩

/-- Otherwise the record is mounted, with the numbers of its device. -/
theorem answer_mount_of_eq_none (hq : Layout.request.toText q = .ok text)
    (ht : t.find? q.name = none) : t.answer .mount text =
      (shown { q with major := major, minor := t.nextMinor, sizeGb := 0 },
        t.add { q with major := major, minor := t.nextMinor }) := by
  simp only [answer, mount, Record.ofText_request hq, ht, Option.isSome_none, Bool.false_eq_true, if_false]
  rfl

end DeviceTable

/-- The action mounts the record that it answers, under a name that was free. If it fails, the table is
as it was. -/
def Action.Adds (a : Action Record) (t : DeviceTable) : Prop :=
  a.Ensures Step t (fun _ m t' => m.Listed ∧ t.find? m.name = none ∧ t' = t.add m) fun _ _ t' => t' = t

namespace Action

variable {α : Type} {a : Action α} {f : α → Action Record} {t : DeviceTable}

/-- What comes before a mount makes no request. -/
theorem adds_bind (ha : a.Only fun e => e.isRequest = false) (hf : ∀ x, (f x).Adds t) :
    (a >>= f).Adds t := by
  refine Action.ensures_bind.mpr ((DeviceTable.ensures_of_only ha).mono ?_ fun _ _ _ h => h)
  rintro front x t rfl
  exact hf x

theorem adds_ofExcept {r : Except Error α} (hf : ∀ x, r = .ok x → (f x).Adds t) :
    (ofExcept r >>= f).Adds t :=
  Action.ensures_bind.mpr (Action.ensures_ofExcept.mpr ⟨hf, fun _ _ => rfl⟩)

end Action

namespace Client

variable {c : Client} {login : Credentials} {blob : BlobPath} {r : Record} {o : LeaseOptions}
  {t : DeviceTable}

/-! ## Mounts -/

/-- A validated record is sent, and comes back as the table holds it. -/
theorem submitMount_adds (hsectors : Size.sectorsFor r.sizeGb r.vhd = .ok r.sectorCount) :
    (c.submitMount login r).Adds t := by
  have hvalidate : (r.validate login c.domain).Only fun e => e.isRequest = false :=
    Record.validate_only (fun _ => rfl) fun _ _ => rfl
  unfold submitMount
  refine Action.ensures_bind.mpr (Action.ensures_always.mpr
    ((Record.validate_sound.and (DeviceTable.ensures_of_quiet hvalidate)).mono ?_))
  rintro front ⟨q, verdict⟩ t ⟨hsound, rfl⟩
  refine Action.adds_ofExcept fun _ hv => ?_
  obtain ⟨blob, host, ip, hq, hsound, -⟩ := hsound hv
  dsimp only at hq hsound
  have hsize : Size.gbOfSectors q.sectorCount q.vhd = .ok q.sizeGb := by
    apply Size.gbOfSectors_sectorsFor
    rw [hq]
    exact hsectors
  refine Action.adds_ofExcept fun buffer hbuffer => ?_
  have htext := Channel.mountRequest_text hbuffer
  cases hfind : t.find? q.name with
  | some m =>
    obtain ⟨hsame, detail, hsaid⟩ := DeviceTable.answer_mount_of_isSome htext (t := t) (by simp [hfind])
    exact Action.ensures_bind.mpr (DeviceTable.ensures_exchangeBuffer_error hsaid hsame)
  | none =>
    have hanswer := DeviceTable.answer_mount_of_eq_none htext hfind
    have hlisted : Record.Listed { q with major := DeviceTable.major, minor := t.nextMinor } :=
      ⟨hsound.name, ⟨_, Layout.toText_response (r := { q with sizeGb := 0 }) htext _ _⟩, hsize⟩
    obtain ⟨payload, hsaid, hmounted⟩ := hlisted.said_shown
    have hshown : said (t.answer .mount buffer.text).1 = .ok payload := by
      rw [hanswer]
      exact hsaid
    refine Action.ensures_bind.mpr (DeviceTable.ensures_exchangeBuffer_ok hshown ?_)
    rw [hmounted, hanswer]
    exact ⟨hlisted, hfind, rfl⟩

theorem leaseAndSubmit_adds (hsectors : Size.sectorsFor r.sizeGb r.vhd = .ok r.sectorCount) :
    (c.leaseAndSubmit login blob r o).Adds t := by
  unfold leaseAndSubmit
  split
  · refine Action.adds_bind (Lease.acquire_only fun _ => rfl) fun id => ?_
    refine Action.ensures_bind.mpr (Action.ensures_always.mpr (Action.ensures_outcome.mpr
      ((submitMount_adds (r := { r with leaseId := id }) hsectors).mono (fun _ _ _ h => h) ?_)))
    rintro _ e t rfl
    exact Action.ensures_bind.mpr (Action.ensures_always.mpr
      (DeviceTable.ensures_of_quiet (Lease.breakBestEffort_only fun _ => rfl)))
  · exact submitMount_adds hsectors

theorem mountRecord_adds : (c.mountRecord r o).Adds t := by
  unfold mountRecord
  refine Action.adds_bind fillCredentials_only fun r => DeviceTable.ensures_withChannel ?_
  refine Action.adds_bind (Program.only_perform rfl) fun _ => ?_
  refine Action.adds_bind Action.only_ofExcept fun blob => ?_
  refine Action.adds_bind (Lease.locate_only fun _ _ => rfl) fun properties => ?_
  exact Action.adds_ofExcept fun q hq => leaseAndSubmit_adds (fillSize_sizes hq).2.2

theorem mount_adds {q : MountRequest} : (c.mount q).Adds t := by
  unfold mount
  refine Action.adds_bind login_only fun login => ?_
  refine Action.adds_bind (nameOr_only rfl) fun name => ?_
  refine Action.adds_bind Action.only_ofExcept fun _ => ?_
  refine Action.adds_bind (prepareBlob_only rfl rfl fun _ => rfl) ?_
  rintro ⟨blob, leaseId, createdLease⟩
  refine Action.ensures_bind.mpr (Action.ensures_always.mpr (Action.ensures_outcome.mpr
    (mountRecord_adds.mono (fun _ _ _ h => h) ?_)))
  rintro _ e t rfl
  cases createdLease with
  | false => rfl
  | true => exact Action.ensures_bind.mpr (Action.ensures_always.mpr
      (DeviceTable.ensures_of_quiet (releaseCreated_only rfl fun _ => rfl)))

end Client

end BlobDisk
