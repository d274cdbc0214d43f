import BlobDisk.Proofs.Device.Calm
import BlobDisk.Proofs.Mount.Failure
import BlobDisk.Proofs.Record.Interchange

/-!
# Disks that are detached and attached again

A record that a mount has answered is written down without its sectors, its host and its address, and the
device is removed. What was written down is enough to mount the disk again: the sectors are counted again
from the blob, the host is that of the account, the address that of the host, and the lease is still live.

* `Record.Attachable`: what a mount leaves true of the record that it answers;
* `Client.mountRecord_attachable`, `Client.mount_attachable`: that it does;
* `Client.unmount_frees`: an unmount leaves it true, and the name is free;
* `Client.mountRecord_attached`: a record of which it is true is mounted as it was;
* `Client.reattaches`: a mount, an unmount, and a mount of what was written down.
-/

namespace BlobDisk

open Contents (Survives)

namespace Record

variable {r : Record} {blob : BlobPath} {x x' : Contents}
  {resolver : String → Except Error IpAddress}

/-- The blob of a record is there, and the record has its size. -/
structure Located (r : Record) (blob : BlobPath) (x : Contents) : Prop where
  container : blob.container ∈ x.containers r.accountName
  size : ∃ s, x.blobs (r.accountName, blob) = some s ∧ Size.gbOfObject s.size = r.sizeGb
  sectors : Size.sectorsFor r.sizeGb r.vhd = .ok r.sectorCount

theorem Located.survives {target : String × BlobPath → Prop} (h : r.Located blob x)
    (hx : Survives target x x') : r.Located blob x' := by
  obtain ⟨s, hs, hsize⟩ := h.size
  have htouched := hx.touched (r.accountName, blob)
  rw [hs] at htouched
  generalize hs' : x'.blobs (r.accountName, blob) = v at htouched
  cases htouched with
  | some htouched => exact ⟨hx.containers ▸ h.container, ⟨_, hs', htouched.size ▸ hsize⟩, h.sectors⟩

/-- The record has passed every check: the rules, the resolver, and the proof of its lease. -/
structure Passed (resolver : String → Except Error IpAddress) (r : Record) (blob : BlobPath) (x : Contents) :
    Prop where
  identity : r.checkIdentity = .ok blob
  placement : r.checkPlacement = .ok ()
  address : ∃ ip : IpAddress, resolver r.host = .ok ip ∧ r.ip = ip.text
  ip_le : r.ip.utf8ByteSize ≤ ipLimit
  held : ∃ s, x.blobs (r.accountName, blob) = some s ∧ s.kind = .page ∧ s.leaseId = some r.leaseId

/-- What a mount leaves true of the record that it answers. -/
structure Attachable (resolver : String → Except Error IpAddress) (r : Record) (blob : BlobPath)
    (x : Contents) : Prop extends r.Located blob x, r.Passed resolver blob x where
  request : ∃ buffer, Channel.mountRequest r = .ok buffer

/-- The numbers of a device make no difference. -/
theorem Attachable.numbered (h : r.Attachable resolver blob x) (major minor : Int64) :
    { r with major, minor }.Attachable resolver blob x := by
  obtain ⟨buffer, hbuffer⟩ := h.request
  exact { container := h.container, size := h.size, sectors := h.sectors, identity := h.identity,
          placement := h.placement, address := h.address, ip_le := h.ip_le, held := h.held,
          request := ⟨buffer, Channel.mountRequest_numbered hbuffer major minor⟩ }

/-- The device manager can show the record under any numbers. -/
theorem Attachable.listed (h : r.Attachable resolver blob x) (major minor : Int64) :
    Record.Listed { r with major, minor } := by
  obtain ⟨hname, -⟩ := checkIdentity_eq_ok.mp h.identity
  obtain ⟨buffer, hbuffer⟩ := h.request
  have htext := Channel.mountRequest_text hbuffer
  exact ⟨hname, ⟨_, Layout.toText_response (r := { r with sizeGb := 0 }) htext major minor⟩,
    Size.gbOfSectors_sectorsFor h.sectors⟩

variable {login : Credentials} {domain : String} {s : Site}

theorem validate_passed (hlogin : login.account = r.accountName) :
    (r.validate login domain).Ensures (Site.Prompt resolver) s fun _ v s' => v.2 = .ok () →
      (∃ host ip, v.1 = { r with host, ip }) ∧ ∃ blob, v.1.Passed resolver blob s'.stores.contents := by
  unfold validate
  cases hcheck : r.checkFields domain with
  | mk q verdict =>
    cases verdict with
    | error e => exact nofun
    | ok blob =>
      obtain ⟨hidentity, rfl, hplacement⟩ := checkFields_iff.mp hcheck
      obtain ⟨host, hhost⟩ := r.fillHost_eq domain
      obtain ⟨-, hlease, -⟩ := checkPlacement_eq_ok.mp hplacement
      rw [hhost] at hplacement hlease ⊢
      unfold resolveHost
      refine Program.ensures_bind.mpr (Action.ensures_outcome.mpr (Action.ensures_bind.mpr
        (Action.ensures_resolve.mpr ⟨?_, fun _ _ _ => nofun⟩)))
      rintro ip _ ⟨⟨hip, rfl⟩, -⟩
      refine Action.ensures_guard.mpr ⟨fun _ => nofun, fun hle => ?_⟩
      refine Program.ensures_bind.mpr (Action.ensures_outcome.mpr
        ((Site.ensures_of_contents (Lease.verifyWritable_held hlease)).mono ?_ fun _ _ _ _ => nofun))
      intro _ _ s' hheld _
      rw [hlogin] at hheld
      exact ⟨⟨host, ip.text, rfl⟩, blob, (checkIdentity_placed r host ip.text).trans hidentity,
        (checkPlacement_addressed { r with host } ip.text).trans hplacement, ⟨ip, hip.symm, rfl⟩,
        Nat.le_of_not_lt hle, hheld⟩

end Record

/-! ## Mounts -/

namespace Client

variable {c : Client} {login : Credentials} {blob : BlobPath} {r : Record} {o : LeaseOptions} {s : Site}
  {resolver : String → Except Error IpAddress}

theorem submitMount_attachable (hlogin : login.account = r.accountName)
    (hb : BlobPath.parse r.path = .ok blob) (hr : r.Located blob s.stores.contents) :
    (c.submitMount login r).Ensures (Site.Prompt resolver) s
      (fun _ m s' => ∃ blob, m.Attachable resolver blob s'.stores.contents) fun _ _ _ => True := by
  have hpreserves : (r.validate login c.domain).Preserves fun _ => True := Record.validate_preserves hb trivial
  have hsurvives := (hpreserves s.stores.contents).comap (W := Site.Prompt resolver)
    fun _ _ _ hstep => hstep.contents
  unfold submitMount
  refine Action.ensures_bind.mpr (Action.ensures_always.mpr
    (((Record.validate_passed hlogin).and hsurvives).mono ?_))
  rintro _ ⟨q, verdict⟩ s₁ ⟨hpassed, hsurvives⟩
  refine Action.ensures_bind.mpr (Action.ensures_ofExcept.mpr ⟨fun _ hv => ?_, fun _ _ => trivial⟩)
  obtain ⟨⟨host, ip, hq⟩, b, hpassed⟩ := hpassed hv
  dsimp only at hq hpassed
  have hb' : b = blob := by
    obtain ⟨-, -, -, -, -, hpath⟩ := Record.checkIdentity_eq_ok.mp hpassed.identity
    rw [hq] at hpath
    exact Except.ok.inj (hpath.symm.trans hb)
  subst hb'
  have hlocated : q.Located b s₁.stores.contents := by
    obtain ⟨hcontainer, hsize, hsectors⟩ := hr.survives hsurvives
    rw [hq]
    exact ⟨hcontainer, hsize, hsectors⟩
  refine Action.ensures_bind.mpr (Action.ensures_ofExcept.mpr ⟨fun buffer hbuffer => ?_, fun _ _ => trivial⟩)
  have hattachable : q.Attachable resolver b s₁.stores.contents :=
    { hlocated, hpassed with request := ⟨buffer, hbuffer⟩ }
  -- The request leaves the stores alone.
  have hquiet : (Channel.exchangeBuffer .mount buffer).Only fun e => e.onlyReads = true :=
    Channel.exchangeBuffer_only rfl
  refine Action.ensures_bind.mpr ((Site.ensures_of_contents (hquiet.frame
    fun _ _ _ hstep he => hstep.eq_of_onlyReads he)).mono ?_ fun _ _ _ _ => trivial)
  intro _ payload s₂ hs₂
  refine Action.ensures_bind.mpr (Action.ensures_ofExcept.mpr ⟨fun mounted _ => ?_, fun _ _ => trivial⟩)
  exact ⟨b, hs₂ ▸ hattachable.numbered mounted.major mounted.minor⟩

theorem leaseAndSubmit_attachable (hlogin : login.account = r.accountName)
    (hb : BlobPath.parse r.path = .ok blob) (hr : r.Located blob s.stores.contents) :
    (c.leaseAndSubmit login blob r o).Ensures (Site.Prompt resolver) s
      (fun _ m s' => ∃ blob, m.Attachable resolver blob s'.stores.contents) fun _ _ _ => True := by
  unfold leaseAndSubmit
  split
  · have hpreserves : (Lease.acquire login blob o.breakLease).Preserves fun _ => True :=
      Lease.acquire_preserves trivial
    refine Action.ensures_bind.mpr ((Site.ensures_of_contents (hpreserves s.stores.contents)).mono ?_
      fun _ _ _ _ => trivial)
    intro _ leaseId s₁ hsurvives
    obtain ⟨hcontainer, hsize, hsectors⟩ := hr.survives hsurvives
    refine Action.ensures_bind.mpr (Action.ensures_always.mpr (Action.ensures_outcome.mpr
      ((submitMount_attachable (r := { r with leaseId }) hlogin hb ⟨hcontainer, hsize, hsectors⟩).mono
        (fun _ _ _ h => h) ?_)))
    exact fun _ _ _ _ => Action.ensures_bind.mpr (Action.ensures_of_forall (fun _ _ _ => trivial)
      fun _ _ _ => trivial)
  · exact submitMount_attachable hlogin hb hr

theorem mountRecord_attachable : (c.mountRecord r o).Ensures (Site.Prompt resolver) s
    (fun _ m s' => ∃ blob, m.Attachable resolver blob s'.stores.contents) fun _ _ _ => True := by
  unfold mountRecord
  refine Action.ensures_bind.mpr (Action.ensures_of_forall (fun _ r s => ?_) fun _ _ _ => trivial)
  refine Site.ensures_withChannel ?_
  refine Action.ensures_bind.mpr (Action.ensures_of_forall (fun _ _ s => ?_) fun _ _ _ => trivial)
  refine Action.ensures_bind.mpr (Action.ensures_ofExcept.mpr ⟨fun blob hb => ?_, fun _ _ => trivial⟩)
  refine Action.ensures_bind.mpr ((Site.ensures_of_contents Lease.locate_found).mono ?_ fun _ _ _ _ => trivial)
  rintro _ properties s₁ ⟨hs₁, hcontainer, b, hblob, rfl⟩
  rw [← hs₁] at hcontainer hblob
  refine Action.ensures_bind.mpr (Action.ensures_ofExcept.mpr ⟨fun q hq => ?_, fun _ _ => trivial⟩)
  obtain ⟨hpath, -, -⟩ := fillSize_eq_ok hq
  obtain ⟨haccount, hsize, hsectors⟩ := fillSize_sizes hq
  refine leaseAndSubmit_attachable haccount.symm (hpath ▸ hb) ⟨?_, ⟨b, ?_, hsize.symm⟩, hsectors⟩
  · rw [haccount]
    exact hcontainer
  · rw [haccount]
    exact hblob

theorem mount_attachable {q : MountRequest} : (c.mount q).Ensures (Site.Prompt resolver) s
    (fun _ m s' => ∃ blob, m.Attachable resolver blob s'.stores.contents) fun _ _ _ => True :=
  mount_ensures fun _ _ _ => mountRecord_attachable

end Client

/-! ## Unmounts -/

namespace DeviceTable

variable {t : DeviceTable} {m : Record}

theorem remove_append {rs : List Record} (h : ∀ r ∈ rs, r.name ≠ m.name) :
    remove m.name (rs ++ [m]) = rs := by
  induction rs with
  | nil => rw [List.nil_append, remove, if_pos rfl]
  | cons r rs ih =>
    rw [List.cons_append, remove, if_neg (h r List.mem_cons_self),
      ih fun r hr => h r (List.mem_cons_of_mem _ hr)]

/-- The device that was mounted last is taken out of the table. -/
theorem unmount_add (h : t.find? m.name = none) :
    (t.add m).unmount m.name = ("OK\n", { t with nextMinor := t.nextMinor + 16 }) := by
  have hnames : ∀ r ∈ t.records, r.name ≠ m.name := by simpa [find?] using h
  rw [unmount, find?_add h]
  exact congrArg (fun rs => ("OK\n", DeviceTable.mk rs (t.nextMinor + 16)))
    (remove_append (m := m.unsized) hnames)

end DeviceTable

namespace Client

variable {s : Site} {m : Record} {t : DeviceTable} {resolver : String → Except Error IpAddress}

/-- The device that was mounted last is unmounted without fail. Its name is free then, and all stores are
as they were. -/
theorem unmount_frees (hm : Rules.deviceName m.name = .ok ()) (hfree : t.find? m.name = none)
    (ht : s.table = t.add m) : (Client.unmount m.name false).Ensures (Site.Calm resolver) s
      (fun _ v s' => v = .ofWarning? none ∧ s'.table.find? m.name = none ∧ s'.stores = s.stores)
      fun _ _ _ => False := by
  have hname := Rules.lookupName_of_deviceName hm
  obtain ⟨buffer, hbuffer, htext⟩ := Channel.nameRequest_text hname
  have hanswer : s.table.answer .unmount buffer.text =
      ("OK\n", { t with nextMinor := t.nextMinor + 16 }) := by
    rw [DeviceTable.answer, htext, ht, DeviceTable.unmount_add hfree]
  obtain ⟨reply, hreply⟩ : ∃ reply, Testbed.World.written "OK\n" = .ok reply := ⟨_, rfl⟩
  have hsaid : (Envelope.ofBuffer reply.buffer reply.length).result = .ok "" :=
    (DeviceTable.said_of_written hreply).trans DeviceTable.said_removed
  have hremove : (removeDevice m.name false).Ensures (Site.Calm resolver) s
      (fun _ v s' => v = none ∧ s'.table.find? m.name = none ∧ s'.stores = s.stores)
      fun _ _ _ => False := by
    change Action.Ensures _ (do
      let _ ← Channel.exchange .unmount (Envelope.nameRequest m.name)
      return none) _ _ _
    rw [Channel.exchange_eq hbuffer]
    refine Action.ensures_bind.mpr (Channel.ensures_exchangeBuffer.mpr ⟨?_, ?_⟩)
    · rintro detail _ ⟨hdetail, -⟩
      rw [hanswer, hreply] at hdetail
      cases hdetail
    · rintro reply' _ ⟨hreply', rfl⟩
      rw [hanswer, hreply] at hreply'
      obtain rfl := Except.ok.inj hreply'
      rw [hsaid]
      refine ⟨fun _ _ => ⟨rfl, ?_, rfl⟩, ?_⟩
      · rw [Site.asked, hanswer]
        exact hfree
      · rintro _ ⟨⟩
  unfold unmount
  rw [hname]
  refine Action.ensures_bind.mpr (Action.ensures_bind.mpr (Channel.ensures_withChannel.mpr ⟨?_, ?_⟩))
  · rintro _ _ ⟨-, rfl⟩
    refine hremove.mono ?_ fun _ _ _ h => h.elim
    rintro _ _ s' ⟨rfl, hs'⟩ _ rfl
    exact ⟨rfl, hs'⟩
  · rintro e _ ⟨he, -⟩
    cases he

end Client

/-! ## Mounts of what was written down -/

namespace Record

variable {r : Record} {blob : BlobPath} {s : Site} {resolver : String → Except Error IpAddress}
  {domain : String}

/-- The host and the address are filled in again, and the lease is still live. -/
theorem validate_again (h : r.Passed resolver blob s.stores.contents)
    (hhost : r.host = r.accountName ++ "." ++ domain) :
    ({ r with host := "", ip := "" }.validate ⟨r.accountName, r.accountKey⟩ domain).Ensures
      (Site.Prompt resolver) s fun _ v s' => v = (r, Except.ok ()) ∧ s'.table = s.table := by
  obtain ⟨ip, hresolved, hip⟩ := h.address
  obtain ⟨b, hblob, hkind, hlease⟩ := h.held
  obtain ⟨-, hid, -⟩ := checkPlacement_eq_ok.mp h.placement
  have hfill : { r with host := "", ip := "" }.fillHost domain = { r with ip := "" } := by
    rw [fillHost, if_pos rfl, ← hhost]
  have hcheck : { r with host := "", ip := "" }.checkFields domain = ({ r with ip := "" }, .ok blob) :=
    checkFields_iff.mpr ⟨(checkIdentity_placed r "" "").trans h.identity, hfill.symm,
      (checkPlacement_addressed r "").trans h.placement⟩
  unfold validate resolveHost
  rw [hcheck]
  refine Program.ensures_bind.mpr (Action.ensures_outcome.mpr (Action.ensures_bind.mpr
    (Action.ensures_resolve.mpr ⟨?_, ?_⟩)))
  · rintro ip' _ ⟨⟨hip', rfl⟩, -⟩
    obtain rfl : ip' = ip := Except.ok.inj (hip'.trans hresolved)
    refine Action.ensures_guard.mpr ⟨fun hlong => ?_, fun _ => ?_⟩
    · exact absurd (hip ▸ h.ip_le) (Nat.not_le_of_lt hlong)
    · refine Program.ensures_bind.mpr (Action.ensures_outcome.mpr
        ((Lease.verifyWritable_calm hid hblob hkind hlease).mono ?_ fun _ _ _ h => h.elim))
      intro _ _ s' hs'
      rw [← hip]
      exact ⟨rfl, hs'⟩
  · rintro e _ ⟨⟨he, -⟩, -⟩
    cases he.trans hresolved

end Record

namespace Client

variable {c : Client} {r : Record} {blob : BlobPath} {s : Site} {resolver : String → Except Error IpAddress}

theorem submitMount_attached (h : r.Attachable resolver blob s.stores.contents)
    (hhost : r.host = r.accountName ++ "." ++ c.domain) (hfree : s.table.find? r.name = none) :
    (c.submitMount ⟨r.accountName, r.accountKey⟩ { r with host := "", ip := "" }).Ensures
      (Site.Prompt resolver) s (fun _ m _ => ∃ major minor, m = { r with major, minor })
      fun _ _ _ => False := by
  obtain ⟨buffer, hbuffer⟩ := h.request
  have hanswer := DeviceTable.answer_mount_of_eq_none (Channel.mountRequest_text hbuffer) hfree
  obtain ⟨payload, hsaid, hmounted⟩ := (h.listed DeviceTable.major s.table.nextMinor).said_shown
  have hshown : DeviceTable.said (s.table.answer .mount buffer.text).1 = .ok payload := by
    rw [hanswer]
    exact hsaid
  unfold submitMount
  refine Action.ensures_bind.mpr (Action.ensures_always.mpr ((Record.validate_again h.toPassed hhost).mono ?_))
  rintro _ _ s₁ ⟨rfl, htable⟩
  dsimp only
  rw [hbuffer]
  have hexchange : (Channel.exchangeBuffer .mount buffer).Ensures DeviceTable.Step s₁.table
      (fun _ p _ => p = payload) fun _ _ _ => False :=
    DeviceTable.ensures_exchangeBuffer_ok (htable ▸ hshown) rfl
  refine Action.ensures_bind.mpr (Action.ensures_bind.mpr (Action.ensures_bind.mpr
    ((Site.ensures_of_table hexchange).mono ?_ fun _ _ _ h => h)))
  rintro _ _ s₂ rfl
  rw [hmounted]
  exact ⟨_, _, rfl⟩

/-- A record is mounted as it was, without its sectors, its host and its address, where its blob is as it
left it and its name is free. -/
theorem mountRecord_attached (h : r.Attachable resolver blob s.stores.contents)
    (hhost : r.host = r.accountName ++ "." ++ c.domain) (hfree : s.table.find? r.name = none) :
    (c.mountRecord { r with sectorCount := 0, host := "", ip := "" } {}).Ensures
      (Site.Prompt resolver) s (fun _ m _ => ∃ major minor, m = { r with major, minor })
      fun _ _ _ => False := by
  obtain ⟨-, -, -, ⟨haccount, -⟩, hkey, hpath⟩ := Record.checkIdentity_eq_ok.mp h.identity
  obtain ⟨-, hid, -⟩ := Record.checkPlacement_eq_ok.mp h.placement
  obtain ⟨bytes, hbytes⟩ := Rules.keyBytes_of_accountKey hkey
  obtain ⟨b, hblob, hsize⟩ := h.size
  have hfill : c.fillCredentials { r with sectorCount := 0, host := "", ip := "" } =
      pure { r with sectorCount := 0, host := "", ip := "" } :=
    if_neg (not_or_intro haccount (Rules.ne_of_accountKey hkey))
  have hsized : fillSize blob b.properties { r with sectorCount := 0, host := "", ip := "" } =
      .ok { r with host := "", ip := "" } := by
    have hgb : Size.gbOfObject b.properties.contentLength = r.sizeGb := hsize
    rw [fillSize, hgb, if_neg (by simp), Record.setSizeGb, h.sectors]
    rfl
  have hleased : c.leaseAndSubmit ⟨r.accountName, r.accountKey⟩ blob { r with host := "", ip := "" } {} =
      c.submitMount ⟨r.accountName, r.accountKey⟩ { r with host := "", ip := "" } :=
    if_neg fun hleased => hid hleased.1
  unfold mountRecord
  rw [hfill, pure_bind]
  refine Site.ensures_withChannel (Action.ensures_bind.mpr (Action.ensures_connect.mpr ⟨?_, ?_⟩))
  · rintro _ _ ⟨⟨-, rfl⟩, -⟩
    rw [hpath]
    refine Action.ensures_bind.mpr (Action.ensures_bind.mpr
      ((Lease.locate_calm h.container hblob).mono ?_ fun _ _ _ h => h))
    rintro _ _ s ⟨rfl, rfl⟩
    rw [hsized]
    refine Action.ensures_bind.mpr (Action.ensures_ofExcept.mpr ⟨?_, ?_⟩)
    · rintro _ ⟨⟩
      rw [hleased]
      exact submitMount_attached h hhost hfree
    · rintro _ ⟨⟩
  · rintro e _ ⟨⟨he, -⟩, -⟩
    rw [hbytes] at he
    cases he

/-! ## Attached again -/

/-- Where nothing fails and answers fit the buffer, a disk that was mounted under the host of its account in a
domain can be detached and attached again, under the same domain, from what was written down of it: it is
unmounted without fail, what was written down is read, and every mount of that takes and breaks no lease and
answers the record as it was, but for the numbers of its device. -/
theorem reattaches {c c' : Client} {a : Action Record}
    (ha : (∃ q, a = c.mount q) ∨ ∃ q o, a = c.mountRecord q o)
    {resolver : String → Except Error IpAddress} {s s₁ s₂ : Site} {before between : List (Scene Site)}
    {r : Record} {u : Except Error Outcome}
    (hmount : a.run.RunsIn (Site.Calm resolver) s before (.ok r) s₁)
    (hfits : ∀ e ∈ Scene.events before, e.unanswered = false)
    (hhost : r.host = r.accountName ++ "." ++ c'.domain)
    (hunmount : (Client.unmount r.name false).run.RunsIn (Site.Calm resolver) s₁ between u s₂) :
    u = .ok (.ofWarning? none) ∧
    ∃ q, Record.ofJsonBytes (Utf8.encode r.jsonText.toList) = .ok q ∧
      (∃ scenes v s₃, (c'.mountRecord q {}).run.RunsIn (Site.Calm resolver) s₂ scenes v s₃) ∧
      ∀ scenes v s₃, (c'.mountRecord q {}).run.RunsIn (Site.Calm resolver) s₂ scenes v s₃ →
        (∀ e ∈ Scene.events scenes, ∀ login call, e.effect = .store login call → call.movesLease = false) ∧
        ((∀ e ∈ Scene.events scenes, e.unanswered = false) →
          ∃ major minor, v = .ok { r with major, minor }) := by
  have hprompt : a.run.RunsIn (Site.Prompt resolver) s before (.ok r) s₁ := hmount.restrict hfits
  have hadds : a.Adds s.table := by
    obtain ⟨q, rfl⟩ | ⟨q, o, rfl⟩ := ha
    · exact mount_adds
    · exact mountRecord_adds
  have hattachable : a.Ensures (Site.Prompt resolver) s
      (fun _ m s' => ∃ blob, m.Attachable resolver blob s'.stores.contents) fun _ _ _ => True := by
    obtain ⟨q, rfl⟩ | ⟨q, o, rfl⟩ := ha
    · exact mount_attachable
    · exact mountRecord_attachable
  obtain ⟨hlisted, hfree, htable⟩ := Program.ensures_iff.mp hadds _ _ _ (hprompt.map fun _ _ _ h => h.table)
  obtain ⟨blob, hattachable⟩ := Program.ensures_iff.mp hattachable _ _ _ hprompt
  have hfreed := Program.ensures_iff.mp (unmount_frees hlisted.name hfree htable) _ _ _ hunmount
  cases u with
  | error e => exact hfreed.elim
  | ok o =>
    obtain ⟨rfl, hfree, hstores⟩ := hfreed
    rw [← hstores] at hattachable
    obtain ⟨-, hlease, -⟩ := Record.checkPlacement_eq_ok.mp hattachable.placement
    refine ⟨rfl, _, Record.ofJsonBytes_jsonText r, Site.exists_run resolver _ s₂, fun scenes v s₃ hrun => ⟨?_, ?_⟩⟩
    · have hgiven := mountRecord_given (c := c') (r := { r with sectorCount := 0, host := "", ip := "" })
        (o := {}) hlease
      exact Program.Only.runs hgiven hrun.1
    · intro hfits
      have hattached := Program.ensures_iff.mp (mountRecord_attached hattachable hhost hfree) _ _ _
        (hrun.restrict hfits)
      cases v with
      | ok m =>
        obtain ⟨major, minor, rfl⟩ := hattached
        exact ⟨major, minor, rfl⟩
      | error e => exact hattached.elim

/-- A disk is mounted under a new lease, detached and attached again. -/
theorem reattaches_leased : ∃ before s₁ between s₂ q scenes s₃ major minor,
    (Sample.client.mountRecord Sample.record { autoLease := true }).run.RunsIn (Site.Calm Sample.address)
      Sample.site before (.ok Sample.mounted) s₁ ∧
    (Client.unmount "disk" false).run.RunsIn (Site.Calm Sample.address) s₁ between
      (.ok (.ofWarning? none)) s₂ ∧
    Record.ofJsonBytes (Utf8.encode Sample.mounted.jsonText.toList) = .ok q ∧
    (Sample.client.mountRecord q {}).run.RunsIn (Site.Calm Sample.address) s₂ scenes
      (.ok { Sample.mounted with major, minor }) s₃ := by
  have hmount := Sample.calm_runs Sample.site (Sample.client.mountRecord Sample.record { autoLease := true })
  generalize hfirst : Sample.calm Sample.site (Sample.client.mountRecord Sample.record { autoLease := true }) =
    first at hmount
  have hvalue : (∀ e ∈ Scene.events first.1, e.unanswered = false) ∧
      first.2.1.toOption = some Sample.mounted := by
    rw [← hfirst]
    decide +kernel
  rw [Sample.eq_ok_of_toOption hvalue.2] at hmount
  have hunmount := Sample.calm_runs first.2.2 (Client.unmount "disk" false)
  generalize hsecond : Sample.calm first.2.2 (Client.unmount "disk" false) = second at hunmount
  have hhost : Sample.mounted.host = Sample.mounted.accountName ++ "." ++ Sample.client.domain := by
    decide +kernel
  obtain ⟨hu, q, hq, -, hmounts⟩ := reattaches (.inr ⟨_, _, rfl⟩) hmount hvalue.1 hhost hunmount
  rw [hu] at hunmount
  have hagain := Sample.calm_runs second.2.2 (Sample.client.mountRecord q {})
  have hfits : ∀ e ∈ Scene.events (Sample.calm second.2.2 (Sample.client.mountRecord q {})).1,
      e.unanswered = false := by
    obtain rfl := Except.ok.inj (hq.symm.trans (Record.ofJsonBytes_jsonText Sample.mounted))
    rw [← hsecond, ← hfirst]
    decide +kernel
  obtain ⟨major, minor, hm⟩ := (hmounts _ _ _ hagain).2 hfits
  rw [hm] at hagain
  exact ⟨_, _, _, _, _, _, _, major, minor, hmount, hunmount, hq, hagain⟩

end Client

end BlobDisk
