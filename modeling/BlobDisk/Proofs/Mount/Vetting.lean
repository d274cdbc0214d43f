import BlobDisk.Proofs.Mount.Progress
import BlobDisk.Proofs.Record.Lines
import BlobDisk.Proofs.Schedule
import BlobDisk.Proofs.Store.Handling

/-!
# What a mount sends

A mount of a prepared record asks the device manager once at most, and only for a record that has passed
every check: the rules for its fields, the resolver, and the proof that the blob is a page blob under
the record's lease. What it answers in the end is that record, with the numbers of its device.

* `Scene.sent`: the requests among scenes;
* `Record.Sound`: a record that keeps to the rules, and `Record.validate_sound`;
* `Mount.Sends`: the one request for a record, and `Client.submitMount_ensures`;
* `Mount.Vetted`: what is true of a record that is sent;
* `Mount.submits_vetted`: every mount of a record sends nothing else, for all faults and all answers.
-/

namespace BlobDisk

/-! ## Requests -/

/-- A request to the device manager, and the state in which it is sent. -/
structure Submission (σ : Type) where
  state : σ
  command : Command
  buffer : Buffer

/-- The request with its state seen through a view. -/
def Submission.map {σ τ : Type} (view : σ → τ) (q : Submission σ) : Submission τ :=
  ⟨view q.state, q.command, q.buffer⟩

namespace Scene

variable {σ τ : Type} {scenes : List (Scene σ)}

/-- The request of a scene. -/
def sent? : Scene σ → Option (Submission σ)
  | ⟨s, .submit command buffer, _⟩ => some ⟨s, command, buffer⟩
  | _ => none

/-- The requests among scenes, in order. -/
def sent (scenes : List (Scene σ)) : List (Submission σ) := scenes.filterMap sent?

@[simp] theorem sent_nil : sent ([] : List (Scene σ)) = [] := rfl

@[simp] theorem sent_append (front back : List (Scene σ)) :
    sent (front ++ back) = sent front ++ sent back := List.filterMap_append

@[simp] theorem sent_submit {s : σ} {command : Command} {buffer : Buffer}
    {answer : (Effect.submit command buffer).Answer} :
    sent (⟨s, .submit command buffer, answer⟩ :: scenes) = ⟨s, command, buffer⟩ :: sent scenes := rfl

theorem sent?_eq_none {x : Scene σ} (h : x.event.effect.isRequest = false) : x.sent? = none := by
  obtain ⟨s, effect, answer⟩ := x
  cases effect with
  | submit command buffer => cases h
  | _ => rfl

theorem sent_eq_nil (h : ∀ x ∈ scenes, x.event.effect.isRequest = false) : sent scenes = [] :=
  List.filterMap_eq_nil_iff.mpr fun x hx => sent?_eq_none (h x hx)

theorem sent?_map (view : σ → τ) (x : Scene σ) : (x.map view).sent? = x.sent?.map (·.map view) := by
  obtain ⟨s, effect, answer⟩ := x
  cases effect <;> rfl

theorem sent_map (view : σ → τ) (scenes : List (Scene σ)) :
    sent (scenes.map (map view)) = (sent scenes).map (·.map view) := by
  rw [sent, List.filterMap_map, sent, List.map_filterMap]
  exact congrArg (List.filterMap · scenes) (funext fun x => sent?_map view x)

end Scene

/-! ## Records -/

/-- The record keeps to the rules for what is sent, and `blob` is at its path. -/
structure Record.Sound (q : Record) (blob : BlobPath) : Prop where
  name : Rules.deviceName q.name = .ok ()
  sectorCount_ne : q.sectorCount ≠ 0
  accountKey : Rules.accountKey q.accountKey = .ok ()
  path : BlobPath.parse q.path = .ok blob
  leaseId_ne : q.leaseId ≠ ""

namespace Record

variable {σ : Type} {W : Outside σ} {s : σ} {q q' : Record} {blob : BlobPath} {domain : String}
  {login : Credentials}

theorem checkFields_sound (h : q.checkFields domain = (q', .ok blob)) :
    (∃ host, q' = { q with host }) ∧ ∀ ip, Record.Sound { q' with ip } blob := by
  obtain ⟨hi, -, -⟩ := checkFields_iff.mp h
  obtain ⟨hpath, hsectors, hlease, host, rfl⟩ := checkFields_eq_ok h
  obtain ⟨hname, -, -, -, hkey, -⟩ := checkIdentity_eq_ok.mp hi
  exact ⟨⟨host, rfl⟩, fun ip => ⟨hname, hsectors, hkey, hpath, hlease⟩⟩

theorem resolveHost_ensures : q.resolveHost.Ensures W s
    (fun scenes q' _ => ∃ ip : IpAddress, q' = { q with ip := ip.text } ∧
      ⟨.resolve q.host, .ok ip⟩ ∈ Scene.events scenes) fun _ _ _ => True := by
  unfold resolveHost
  refine Action.ensures_bind.mpr (Action.ensures_resolve.mpr ⟨fun ip s' _ => ?_, fun _ _ _ => trivial⟩)
  exact Action.ensures_guard.mpr ⟨fun _ => trivial, fun _ => ⟨ip, rfl, List.mem_cons_self⟩⟩

/-- A record that is validated is sound, and has the address that its host was resolved to. -/
theorem validate_sound : (q.validate login domain).Ensures W s fun scenes v _ => v.2 = .ok () →
    ∃ blob host, ∃ ip : IpAddress, v.1 = { q with host, ip := ip.text } ∧ v.1.Sound blob ∧
      ⟨.resolve host, .ok ip⟩ ∈ Scene.events scenes := by
  unfold validate
  cases hcheck : q.checkFields domain with
  | mk q₁ verdict =>
    cases verdict with
    | error e => exact nofun
    | ok blob =>
      obtain ⟨⟨host, rfl⟩, hsound⟩ := checkFields_sound hcheck
      refine Program.ensures_bind.mpr (Action.ensures_outcome.mpr
        (resolveHost_ensures.mono ?_ fun _ _ _ _ => nofun))
      rintro front q₂ s₁ ⟨ip, rfl, hresolved⟩
      refine Program.ensures_bind.mpr (Program.ensures_iff.mpr fun back proof s₂ _ _ => ?_)
      refine ⟨blob, host, ip, rfl, hsound ip.text, ?_⟩
      simp only [Scene.events, List.map_append, List.mem_append] at hresolved ⊢
      exact .inl hresolved

/-- A record that is validated is under the live lease of its page blob. -/
theorem validate_ensures {p : Profiles} (hb : BlobPath.parse q.path = .ok blob) :
    (q.validate login domain).Ensures Profiles.Step p fun _ v p' => p' = p ∧ (v.2 = .ok () →
      ∃ f, p (login.account, blob) = some f ∧ f.kind = .page ∧ f.leaseId = some v.1.leaseId) := by
  unfold validate
  cases hcheck : q.checkFields domain with
  | mk q₁ verdict =>
    cases verdict with
    | error e => exact ⟨rfl, nofun⟩
    | ok b =>
      obtain ⟨⟨host, rfl⟩, hsound⟩ := checkFields_sound hcheck
      obtain rfl : b = blob := Except.ok.inj ((hsound "").path.symm.trans hb)
      unfold resolveHost
      refine Program.ensures_bind.mpr (Action.ensures_outcome.mpr (Action.ensures_bind.mpr
        (Action.ensures_resolve.mpr ⟨fun ip p₁ h => ?_, fun e p₁ h => ⟨h.eq_of_other nofun, nofun⟩⟩)))
      obtain rfl : p₁ = p := h.eq_of_other nofun
      refine Action.ensures_guard.mpr ⟨fun _ => ⟨rfl, nofun⟩, fun _ => ?_⟩
      refine Program.ensures_bind.mpr (Action.ensures_outcome.mpr
        (Lease.verifyWritable_ensures.mono ?_ fun _ e p' h => ⟨h, nofun⟩))
      rintro scenes properties _ ⟨rfl, f, hf, hkind, hlease⟩
      exact ⟨rfl, fun _ => ⟨f, hf, hkind, hlease (hsound "").leaseId_ne⟩⟩

end Record

/-! ## The request of a mount -/

namespace Mount

/-- The scenes hold one request, which is to mount `q`: the record `r` with its host and address filled
in, sound, and under the live lease of its page blob when it was sent. -/
structure Sends (login : Credentials) (blob : BlobPath) (r : Record) (p : Profiles)
    (scenes : List (Scene Profiles)) (q : Record) : Prop where
  sent : ∃ buffer, Scene.sent scenes = [⟨p, .mount, buffer⟩] ∧ Channel.mountRequest q = .ok buffer
  filled : ∃ host, ∃ ip : IpAddress, q = { r with host, ip := ip.text } ∧
    ⟨.resolve host, .ok ip⟩ ∈ Scene.events scenes
  sound : q.Sound blob
  held : ∃ f, p (login.account, blob) = some f ∧ f.kind = .page ∧ f.leaseId = some q.leaseId

end Mount

open Mount (Sends)

namespace Client

variable {c : Client} {login : Credentials} {blob : BlobPath} {r : Record} {p : Profiles}

/-- One request is sent for a record, or none, and then the mount fails. Blobs stay as they are. -/
theorem submitMount_ensures (hb : BlobPath.parse r.path = .ok blob) :
    (c.submitMount login r).Ensures Profiles.Step p
      (fun scenes m p' => p' = p ∧ ∃ q, Sends login blob r p scenes q ∧
        ∃ major minor, m = { q with major, minor })
      fun scenes _ p' => p' = p ∧ (Scene.sent scenes = [] ∨ ∃ q, Sends login blob r p scenes q) := by
  unfold submitMount
  have hquiet : (r.validate login c.domain).Only fun e => e.isRequest = false :=
    Record.validate_only (fun _ => rfl) fun _ _ => rfl
  refine Action.ensures_bind.mpr (Action.ensures_always.mpr
    ((((Record.validate_ensures hb).and Record.validate_sound).and hquiet.ensures).mono ?_))
  rintro front ⟨q, verdict⟩ p₁ ⟨⟨⟨rfl, hheld⟩, hsound⟩, hquiet⟩
  have hfront : Scene.sent front = [] := Scene.sent_eq_nil hquiet
  refine Action.ensures_bind.mpr (Action.ensures_ofExcept.mpr
    ⟨fun _ hv => ?_, fun _ _ => ⟨rfl, .inl (by simp [hfront])⟩⟩)
  obtain ⟨b, host, ip, hfilled, hsound, hresolved⟩ := hsound hv
  dsimp only at hfilled hsound
  obtain rfl : b = blob := by
    have hpath := hsound.path
    rw [hfilled] at hpath
    exact Except.ok.inj (hpath.symm.trans hb)
  refine Action.ensures_bind.mpr (Action.ensures_ofExcept.mpr
    ⟨fun buffer hbuffer => ?_, fun _ _ => ⟨rfl, .inl (by simp [hfront])⟩⟩)
  have hsends : ∀ (answer : (Effect.submit .mount buffer).Answer) scenes,
      scenes = front ++ [⟨p₁, .submit .mount buffer, answer⟩] → Sends login b r p₁ scenes q := by
    rintro answer _ rfl
    refine ⟨⟨buffer, by simp [hfront], hbuffer⟩,
      ⟨host, ip, hfilled, ?_⟩, hsound, hheld hv⟩
    simp only [Scene.events, List.map_append, List.mem_append] at hresolved ⊢
    exact .inl hresolved
  refine Action.ensures_bind.mpr (Channel.ensures_exchangeBuffer.mpr
    ⟨fun detail p₂ h => ?_, fun reply p₂ h => ⟨fun payload _ => ?_, fun e _ => ?_⟩⟩)
  all_goals obtain rfl : p₂ = p₁ := h.eq_of_other nofun
  · exact ⟨rfl, .inr ⟨q, hsends (.error detail) _ (by simp)⟩⟩
  · refine Action.ensures_bind.mpr (Action.ensures_ofExcept.mpr ⟨fun mounted _ => ?_, fun e _ => ?_⟩)
    · exact ⟨rfl, q, hsends (.ok reply) _ (by simp), mounted.major, mounted.minor, rfl⟩
    · exact ⟨rfl, .inr ⟨q, hsends (.ok reply) _ (by simp)⟩⟩
  · exact ⟨rfl, .inr ⟨q, hsends (.ok reply) _ (by simp)⟩⟩

end Client

/-! ## What is true of a record that is sent -/

namespace Mount

/-- What was checked of a record when it was sent: its name, its key, the blob at its path and the lease
on it, the address of its host, and its sectors, which are those of the blob. -/
structure Vetted (p : Profiles) (events : List Event) (q : Record) (blob : BlobPath) (f : Profile) :
    Prop where
  name : ∃ first rest, q.name.toList = first :: rest ∧ first.isAlpha = true ∧
    ∀ c ∈ rest, c.isAlphanum = true
  name_le : q.name.utf8ByteSize ≤ 32
  accountKey : ∃ bytes, Base64.decode (Utf8.encode q.accountKey.toList) = .ok bytes
  path : BlobPath.parse q.path = .ok blob
  profile : p (q.accountName, blob) = some f
  kind : f.kind = .page
  lease : f.leaseId = some q.leaseId
  leaseId_ne : q.leaseId ≠ ""
  ip : ∃ ip : IpAddress, ⟨.resolve q.host, .ok ip⟩ ∈ events ∧ q.ip = ip.text
  sectors : Size.sectorsFor (Size.gbOfObject f.size) q.vhd = .ok q.sectorCount
  sectors_ne : q.sectorCount ≠ 0

/-- The scenes of a mount hold no request, and then it fails; or one, for a record that is vetted, and
then it can only answer that record with the numbers of its device and the size of its blob. -/
def Vets (scenes : List (Scene Profiles)) (v : Except Error Record) (p' : Profiles) : Prop :=
  (Scene.sent scenes = [] ∧ ∃ e, v = .error e) ∨
    ∃ p buffer q blob f, Scene.sent scenes = [⟨p, .mount, buffer⟩] ∧
      Record.ofText buffer.text = .ok q ∧ Vetted p (Scene.events scenes) q blob f ∧
      ∀ m, v = .ok m → p' = p ∧
        ∃ major minor, m = { q with major, minor, sizeGb := Size.gbOfObject f.size }

variable {login : Credentials} {blob : BlobPath} {r q : Record} {p p' : Profiles} {f : Profile}
  {scenes : List (Scene Profiles)} {v : Except Error Record}

theorem Vetted.mono {events events' : List Event} (h : Vetted p events q blob f)
    (hevents : ∀ e ∈ events, e ∈ events') : Vetted p events' q blob f := by
  obtain ⟨ip, hip, htext⟩ := h.ip
  exact { h with ip := ⟨ip, hevents _ hip, htext⟩ }

/-- Scenes without requests before change nothing. -/
theorem Vets.prepend (h : Vets scenes v p') (front : List (Scene Profiles))
    (hfront : Scene.sent front = []) : Vets (front ++ scenes) v p' := by
  rcases h with ⟨hsent, herror⟩ | ⟨p, buffer, q, blob, f, hsent, hq, hvetted, hok⟩
  · exact .inl ⟨by simp [hfront, hsent], herror⟩
  · refine .inr ⟨p, buffer, q, blob, f, by simp [hfront, hsent], hq, hvetted.mono fun e he => ?_, hok⟩
    rw [Scene.events, List.map_append]
    exact List.mem_append_right _ he

/-- Scenes without requests after change nothing. -/
theorem Vets.append (h : Vets scenes v p') (back : List (Scene Profiles))
    (hback : Scene.sent back = []) : Vets (scenes ++ back) v p' := by
  rcases h with ⟨hsent, herror⟩ | ⟨p, buffer, q, blob, f, hsent, hq, hvetted, hok⟩
  · exact .inl ⟨by simp [hback, hsent], herror⟩
  · refine .inr ⟨p, buffer, q, blob, f, by simp [hback, hsent], hq, hvetted.mono fun e he => ?_, hok⟩
    rw [Scene.events, List.map_append]
    exact List.mem_append_left _ he

/-- A failure after all says less than the outcome. -/
theorem Vets.fail (h : Vets scenes v p') (e : Error) (p'' : Profiles) : Vets scenes (.error e) p'' := by
  rcases h with ⟨hsent, -⟩ | ⟨p, buffer, q, blob, f, hsent, hq, hvetted, -⟩
  · exact .inl ⟨hsent, e, rfl⟩
  · exact .inr ⟨p, buffer, q, blob, f, hsent, hq, hvetted, nofun⟩

/-- A record that was filled in from the size of its blob is vetted when it is sent. -/
theorem Sends.vets (h : Sends login blob r p scenes q) (hr : r.accountName = login.account)
    (hf : p (login.account, blob) = some f) (hsize : r.sizeGb = Size.gbOfObject f.size)
    (hsectors : Size.sectorsFor r.sizeGb r.vhd = .ok r.sectorCount)
    (hv : ∀ m, v = .ok m → p' = p ∧ ∃ major minor, m = { q with major, minor }) : Vets scenes v p' := by
  obtain ⟨buffer, hsent, hrequest⟩ := h.sent
  obtain ⟨host, ip, rfl, hresolved⟩ := h.filled
  obtain ⟨f', hf', hkind, hlease⟩ := h.held
  obtain rfl : f' = f := Option.some.inj (hf'.symm.trans hf)
  obtain ⟨hname_le, hname⟩ := Rules.deviceName_eq_ok h.sound.name
  have hq := Record.ofText_request (Channel.mountRequest_text hrequest)
  refine .inr ⟨p, buffer, _, blob, f', hsent, hq, ⟨hname, hname_le, Rules.accountKey_eq_ok h.sound.accountKey,
    h.sound.path, ?_, hkind, hlease, h.sound.leaseId_ne, ⟨ip, hresolved, rfl⟩, hsize ▸ hsectors,
    h.sound.sectorCount_ne⟩, ?_⟩
  · exact hr ▸ hf
  · intro m hm
    obtain ⟨hp, major, minor, rfl⟩ := hv m hm
    exact ⟨hp, major, minor, by rw [← hsize]⟩

end Mount

open Mount (Vets)

/-- All that the action sends is vetted. -/
def Action.Vets (a : Action Record) (p : Profiles) : Prop :=
  a.Ensures Profiles.Step p (fun scenes m => Mount.Vets scenes (.ok m))
    fun scenes e => Mount.Vets scenes (.error e)

/-- What comes before a request may only leave the record as it should be. -/
theorem Action.vets_bind {α : Type} {a : Action α} {f : α → Action Record} {p : Profiles}
    (h : a.Ensures Profiles.Step p (fun front x p' => Scene.sent front = [] ∧ (f x).Vets p')
      fun front _ _ => Scene.sent front = []) : (a >>= f).Vets p := by
  refine Action.ensures_bind.mpr (h.mono ?_ fun front e _ hfront => .inl ⟨hfront, e, rfl⟩)
  rintro front x p' ⟨hfront, hf⟩
  exact hf.mono (fun _ _ _ hvets => hvets.prepend front hfront) fun _ _ _ hvets => hvets.prepend front hfront

theorem Channel.vets_withChannel {body : Action Record} {p : Profiles} (h : body.Vets p) :
    (withChannel body).Vets p := by
  refine ensures_withChannel_profiles (fun u => ?_) fun e => .inl ⟨rfl, e, rfl⟩
  refine h.mono (fun scenes m p' hvets => ?_) fun scenes e p' hvets => ?_
  all_goals exact (hvets.append [_] rfl).prepend [_] rfl

namespace Client

variable {c : Client} {login : Credentials} {blob : BlobPath} {r : Record} {p : Profiles} {f : Profile}

theorem submitMount_vets (hb : BlobPath.parse r.path = .ok blob) (hr : r.accountName = login.account)
    (hf : p (login.account, blob) = some f) (hsize : r.sizeGb = Size.gbOfObject f.size)
    (hsectors : Size.sectorsFor r.sizeGb r.vhd = .ok r.sectorCount) : (c.submitMount login r).Vets p := by
  refine (submitMount_ensures hb).mono ?_ ?_
  · rintro scenes m _ ⟨rfl, q, hsends, major, minor, rfl⟩
    refine hsends.vets hr hf hsize hsectors fun m hm => ?_
    cases hm
    exact ⟨rfl, major, minor, rfl⟩
  · rintro scenes e _ ⟨rfl, hsent | ⟨q, hsends⟩⟩
    · exact .inl ⟨hsent, e, rfl⟩
    · exact hsends.vets hr hf hsize hsectors nofun

theorem leaseAndSubmit_vets {o : LeaseOptions} (hb : BlobPath.parse r.path = .ok blob)
    (hr : r.accountName = login.account) (hf : p (login.account, blob) = some f)
    (hsize : r.sizeGb = Size.gbOfObject f.size)
    (hsectors : Size.sectorsFor r.sizeGb r.vhd = .ok r.sectorCount) :
    (c.leaseAndSubmit login blob r o).Vets p := by
  have hacquire : (Lease.acquire login blob o.breakLease).Only fun e => e.isRequest = false :=
    Lease.acquire_only fun _ => rfl
  have hbreak : (Lease.breakBestEffort login blob).Only fun e => e.isRequest = false :=
    Lease.breakBestEffort_only fun _ => rfl
  unfold leaseAndSubmit
  split
  · refine Action.vets_bind ((Lease.acquire_ensures.and hacquire.ensures).mono ?_
      fun _ _ _ h => Scene.sent_eq_nil h.2)
    rintro front id _ ⟨⟨-, -, rfl⟩, hquiet⟩
    refine ⟨Scene.sent_eq_nil hquiet, ?_⟩
    -- The lease is new, the blob is not.
    have hsubmit := submitMount_vets (c := c) (r := { r with leaseId := id })
      (p := p.setLease (login.account, blob) (some id)) (f := { f with leaseId := some id })
      hb hr (Profiles.setLease_self hf) hsize hsectors
    refine Action.ensures_bind.mpr (Action.ensures_always.mpr (Action.ensures_outcome.mpr
      (hsubmit.mono ?_ ?_)))
    · exact fun scenes m p' hvets => hvets.append _ rfl
    · intro scenes e p' hvets
      refine Action.ensures_bind.mpr (Action.ensures_always.mpr (hbreak.ensures.mono ?_))
      intro back _ p'' hquiet
      exact (hvets.fail e p'').append _ (by simp [Scene.sent_eq_nil hquiet])
  · exact submitMount_vets hb hr hf hsize hsectors

theorem fillSize_sizes {properties : Properties} {q : Record}
    (h : fillSize blob properties r = .ok q) :
    q.accountName = r.accountName ∧ q.sizeGb = Size.gbOfObject properties.contentLength ∧
      Size.sectorsFor q.sizeGb q.vhd = .ok q.sectorCount := by
  simp only [fillSize, guard_eq_ok, Record.setSizeGb, bind_eq_ok, pure_eq_ok] at h
  obtain ⟨-, sectors, hsectors, rfl⟩ := h
  exact ⟨rfl, rfl, hsectors⟩

theorem mountRecord_vets {o : LeaseOptions} : (c.mountRecord r o).Vets p := by
  unfold mountRecord
  refine Action.vets_bind (fillCredentials_only.idle.mono ?_ fun _ _ _ h => h.1 ▸ rfl)
  rintro _ r _ ⟨rfl, rfl⟩
  refine ⟨rfl, Channel.vets_withChannel ?_⟩
  refine Action.vets_bind (Action.ensures_connect.mpr ⟨fun _ p₁ h => ⟨rfl, ?_⟩, fun _ _ _ => rfl⟩)
  obtain rfl := h.eq_of_other nofun
  refine Action.vets_bind (Action.ensures_ofExcept.mpr ⟨fun blob hb => ⟨rfl, ?_⟩, fun _ _ => rfl⟩)
  have hlocate : (Lease.locate ⟨r.accountName, r.accountKey⟩ blob).Only fun e => e.isRequest = false :=
    Lease.locate_only fun _ _ => rfl
  refine Action.vets_bind ((Lease.locate_ensures.and hlocate.ensures).mono ?_
    fun _ _ _ h => Scene.sent_eq_nil h.2)
  rintro front properties _ ⟨⟨rfl, f, hf, hsize⟩, hquiet⟩
  refine ⟨Scene.sent_eq_nil hquiet, ?_⟩
  refine Action.vets_bind (Action.ensures_ofExcept.mpr ⟨fun q hq => ⟨rfl, ?_⟩, fun _ _ => rfl⟩)
  obtain ⟨haccount, hgb, hsectors⟩ := fillSize_sizes hq
  obtain ⟨hpath, -, -⟩ := fillSize_eq_ok hq
  exact leaseAndSubmit_vets (hpath ▸ hb) haccount hf (hsize ▸ hgb) hsectors

end Client

/-- Whatever calls fail and whatever the resolver and the device manager answer, the mount of a record
sends nothing and fails, or sends one request. That is to mount a record whose text was vetted in the
state in which it was sent; and where the mount succeeds, it answers that record in all fields of the
request, with the numbers of the device and the size of the blob. -/
theorem Mount.submits_vetted {c : Client} {r : Record} {o : LeaseOptions} {S S' : Stores}
    {scenes : List (Scene Stores)} {v : Except Error Record}
    (h : (c.mountRecord r o).run.RunsIn Stores.Step S scenes v S') :
    (Scene.sent scenes = [] ∧ ∃ e, v = .error e) ∨
      ∃ stores buffer q blob f, Scene.sent scenes = [⟨stores, .mount, buffer⟩] ∧
        Record.ofText buffer.text = .ok q ∧ Vetted stores.profiles (Scene.events scenes) q blob f ∧
        ∀ m, v = .ok m →
          ∃ major minor, m = { q with major, minor, sizeGb := Size.gbOfObject f.size } := by
  have hvets : Vets (scenes.map (Scene.map Stores.profiles)) v S'.profiles := by
    have hvets := Program.ensures_iff.mp (Client.mountRecord_vets (c := c)) _ _ _ h.profiles
    cases v <;> exact hvets
  rcases hvets with ⟨hsent, herror⟩ | ⟨p, buffer, q, blob, f, hsent, hq, hvetted, hok⟩
  · rw [Scene.sent_map, List.map_eq_nil_iff] at hsent
    exact .inl ⟨hsent, herror⟩
  · rw [Scene.sent_map, List.map_eq_singleton_iff] at hsent
    obtain ⟨⟨stores, command, buffer⟩, hsent, hsub⟩ := hsent
    cases hsub
    rw [Scene.events_map] at hvetted
    exact .inr ⟨stores, buffer, q, blob, f, hsent, hq, hvetted, fun m hm => (hok m hm).2⟩

namespace Sample

variable {α : Type}

theorem exists_of_isOk {v : Except Error α} (h : v.isOk = true) : ∃ a, v = .ok a := by
  cases v with
  | ok a => exact ⟨a, rfl⟩
  | error e => cases h

theorem exists_of_not_isOk {v : Except Error α} (h : v.isOk = false) : ∃ e, v = .error e := by
  cases v with
  | ok a => cases h
  | error e => exact ⟨e, rfl⟩

/-- The run of an action on a host where no call fails and whose device manager answers with the text. -/
def staged (text : String) (a : Action α) : List (Scene Stores) × Except Error α × Stores :=
  a.run.scenes (Stores.handle (answers text) "lease") fun _ => store 1

theorem staged_runs (text : String) (a : Action α) : a.run.RunsIn Stores.Step (fun _ => store 1)
    (staged text a).1 (staged text a).2.1 (staged text a).2.2 := by
  unfold staged
  exact Program.runsIn_scenes (fun e S _ => Stores.step_handle (answers text) "lease" e S) _ _
    fun _ _ => trivial

end Sample

/-- A mount that succeeds. -/
theorem Mount.submits_vetted_once : ∃ scenes m S',
    (Sample.client.mountRecord Sample.record { autoLease := true }).run.RunsIn Stores.Step
      (fun _ => Sample.store 1) scenes (.ok m) S' ∧
    ∃ stores buffer q blob f, Scene.sent scenes = [⟨stores, .mount, buffer⟩] ∧
      Record.ofText buffer.text = .ok q ∧ Vetted stores.profiles (Scene.events scenes) q blob f ∧
      ∃ major minor, m = { q with major, minor, sizeGb := Size.gbOfObject f.size } := by
  have hruns := Sample.staged_runs Sample.accepted
    (Sample.client.mountRecord Sample.record { autoLease := true })
  have hok : (Sample.staged Sample.accepted
      (Sample.client.mountRecord Sample.record { autoLease := true })).2.1.isOk = true := by
    decide +kernel
  obtain ⟨m, hm⟩ := Sample.exists_of_isOk hok
  rw [hm] at hruns
  rcases submits_vetted hruns with ⟨-, e, he⟩ | ⟨stores, buffer, q, blob, f, hsent, hq, hvetted, hm⟩
  · cases he
  · exact ⟨_, m, _, hruns, stores, buffer, q, blob, f, hsent, hq, hvetted, hm m rfl⟩

end BlobDisk
