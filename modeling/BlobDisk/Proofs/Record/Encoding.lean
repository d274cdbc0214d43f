import BlobDisk.Proofs.Channel.MountRequest
import BlobDisk.Proofs.Conduct
import BlobDisk.Proofs.Record.Rules
import BlobDisk.Proofs.Schedule
import BlobDisk.Proofs.Text.Base64
import BlobDisk.Proofs.Text.Spelling
import BlobDisk.Record.Validate

/-!
# Records that pass and records that can be sent

A record that is validated has texts within the limits of the device manager. That is not all that a
request to mount asks for: four of the texts may hold the end of a line, and texts that are all as long
as they may be do not fit the buffer together.

* `Record.Checked`, `Record.validate_checked`: what validation makes sure of;
* `Record.Checked.fits_iff`: the fields of such a record fit their lines but for line breaks in four texts;
* `Record.sent_iff_of_validated`: when exactly a record that was validated can be sent;
* `Record.unsent_line_break`, `Record.unsent_overfull`: records that were validated and cannot be sent.
-/

namespace BlobDisk

/-! ## Validation -/

/-- A monitor that allows everything and notes nothing. -/
def Monitor.lenient : Monitor Unit where
  allows _ _ := True
  next s _ _ := s

/-- What holds of every value holds in the end. -/
theorem Program.obeys_lenient {α : Type} {p : Program α} {post : α → Unit → Prop} (h : ∀ a, post a ()) :
    p.Obeys .lenient () post := by
  induction p with
  | done a => exact h a
  | ask e next ih => exact ⟨trivial, fun answer => ih answer⟩

namespace Record

variable {q r : Record} {blob : BlobPath} {domain : String} {login : Credentials} {b : Buffer} {c : Char}

/-- The record keeps the rules for its texts, and has the address of a host. -/
structure Checked (r : Record) : Prop where
  name : Rules.deviceName r.name = .ok ()
  accountName : r.accountName.utf8ByteSize ≤ accountNameLimit
  accountKey : Rules.accountKey r.accountKey = .ok ()
  path : ∃ blob, BlobPath.parse r.path = .ok blob
  host : r.host.utf8ByteSize ≤ hostLimit
  address : ∃ ip : IpAddress, r.ip = ip.text
  ip : r.ip.utf8ByteSize ≤ ipLimit
  leaseId : r.leaseId.utf8ByteSize ≤ leaseIdLimit

/-- Only an address is missing from a record that passes. -/
theorem checkFields_checked (h : q.checkFields domain = (r, .ok blob)) {ip : IpAddress}
    (hip : ip.text.utf8ByteSize ≤ ipLimit) : { r with ip := ip.text }.Checked := by
  obtain ⟨host, hhost⟩ := q.fillHost_eq domain
  unfold checkFields at h
  cases hi : q.checkIdentity with
  | error e => simp [hi] at h
  | ok b =>
    simp only [hi, hhost, Prod.mk.injEq, map_eq_ok] at h
    obtain ⟨rfl, ⟨⟩, hplace, rfl⟩ := h
    obtain ⟨hname, -, -, ⟨-, haccount⟩, hkey, hpath⟩ := checkIdentity_eq_ok.mp hi
    obtain ⟨hhost, -, hlease⟩ := checkPlacement_eq_ok.mp hplace
    exact ⟨hname, haccount, hkey, ⟨b, hpath⟩, hhost, ⟨ip, rfl⟩, hip, hlease⟩

/-- For all that the outside world can answer, a record that is validated is a checked one. -/
theorem validate_checked : (q.validate login domain).Obeys .lenient () fun v _ =>
    v.2 = .ok () → v.1.Checked := by
  unfold validate
  cases hcheck : q.checkFields domain with
  | mk q₁ verdict =>
    cases verdict with
    | error e => exact nofun
    | ok blob =>
      have hresolve : q₁.resolveHost.Obeys .lenient () (fun r _ => r.Checked) fun _ _ => True := by
        unfold resolveHost
        refine Action.obeys_bind.mpr (Action.obeys_resolve.mpr ⟨trivial, fun ip => ?_, fun _ => trivial⟩)
        refine Action.obeys_guard.mpr ⟨fun _ => trivial, fun hip => ?_⟩
        exact checkFields_checked hcheck (Nat.le_of_not_lt hip)
      refine Program.obeys_bind.mpr (Action.obeys_outcome.mpr (hresolve.mono ?_ fun _ _ _ => nofun))
      intro r _ hr
      exact Program.obeys_bind.mpr (Program.obeys_lenient fun _ _ => hr)

/-- Answers of a world in which every blob is one of pages under the lease that is asked about. -/
def obliging : (e : Effect) → Unit → e.Answer × Unit
  | .store _ (.properties ..), _ => (Except.ok ⟨0, some .page, .leased, []⟩, ())
  | .store _ (.setMetadata ..), _ => (Except.ok (), ())
  | e, _ => (Sample.answers "" e, ())

/-- Whatever passes the rules can be validated, if its host has an address and its lease is live. -/
theorem exists_validated (login : Credentials) (h : q.checkFields domain = (r, .ok blob)) (ip : IpAddress)
    (hip : ip.text.utf8ByteSize ≤ ipLimit) :
    ∃ events, (q.validate login domain).Runs events ({ r with ip := ip.text }, .ok ()) := by
  have hresolve : r.resolveHost.outcome.Runs [⟨.resolve r.host, Except.ok ip⟩]
      (.ok { r with ip := ip.text }) := by
    refine .ask (e := .resolve r.host) (Except.ok ip) ?_
    change Program.Runs (ExceptT.run (if _ then _ else _)) _ _
    rw [if_neg (Nat.not_lt.mpr hip)]
    exact .done _
  have hlease := Program.runs_trace obliging (Lease.verifyWritable login blob r.leaseId r.mode).outcome ()
  have hlive : ((Lease.verifyWritable login blob r.leaseId r.mode).outcome.trace obliging ()).2 =
      .ok ⟨0, some .page, .leased, []⟩ := by
    cases r.mode <;> rfl
  rw [hlive] at hlease
  unfold validate
  rw [h]
  exact ⟨_, Program.Runs.bind hresolve (Program.Runs.bind hlease (.done _))⟩

/-! ## Lines -/

theorem breaksLine_eq_false {text : String} (h : ∀ c, c = '\n' ∨ c = '\x00' → c ∉ text.toList) :
    Field.breaksLine text = false := by
  simp only [Field.breaksLine, List.any_eq_false, Bool.or_eq_true, decide_eq_true_eq]
  exact fun c hc hbreak => h c hbreak hc

theorem breaksLine_deviceName {name : String} (h : Rules.deviceName name = .ok ()) :
    Field.breaksLine name = false := by
  have hlookup := Rules.lookupName_of_deviceName h
  refine breaksLine_eq_false fun c hc => Rules.notMem_of_lookupName hlookup ?_ ?_ <;>
  · rcases hc with rfl | rfl <;> decide

theorem breaksLine_accountKey {key : String} (h : Rules.accountKey key = .ok ()) :
    Field.breaksLine key = false := by
  obtain ⟨bytes, hbytes⟩ := Rules.accountKey_eq_ok h
  refine breaksLine_eq_false fun c hc hmem => ?_
  -- The end of a line or of the text is one byte, and none that can be seen.
  have hbyte : ∀ b ∈ String.utf8EncodeChar c, 33 ≤ b.toNat ∧ b.toNat < 127 := fun b hb => by
    have hkey : b ∈ Utf8.encode key.toList := List.mem_flatMap.mpr ⟨c, hmem, hb⟩
    exact Base64.visible_encode b (Base64.decode_eq_ok.mp hbytes ▸ hkey)
  rcases hc with rfl | rfl <;> revert hbyte <;> decide

theorem breaksLine_address (ip : IpAddress) : Field.breaksLine ip.text = false := by
  refine breaksLine_eq_false fun c hc hmem => ?_
  have hsymbol := IpAddress.spelled_text ip c hmem
  rcases hc with rfl | rfl <;> revert hsymbol <;> decide

/-- The fields that may hold any character. -/
def freeTexts : List Field := [.accountName, .path, .host, .leaseId]

namespace Checked

/-- No line of a checked record breaks off in the middle but that of a free text. -/
theorem unbroken (h : r.Checked) {f : Field} (hf : f ∈ Layout.request.fields) (hfree : f ∉ freeTexts) :
    Field.breaksLine (f.value r) = false := by
  cases f with
  | accountName | path | host | leaseId => exact absurd (by decide) hfree
  | major | minor => exact absurd hf (by decide)
  | mode => cases hmode : r.mode <;> rw [Field.value, hmode] <;> decide
  | vhd => cases hvhd : r.vhd <;> rw [Field.value, hvhd] <;> decide
  | name => exact breaksLine_deviceName h.name
  | sectorCount =>
    exact breaksLine_eq_false fun c hc => Decimal.notMem_toString (by rcases hc with rfl | rfl <;> decide) _
  | accountKey => exact breaksLine_accountKey h.accountKey
  | ip =>
    obtain ⟨ip, hip⟩ := h.address
    rw [Field.value, hip]
    exact breaksLine_address ip

/-- The texts of a checked record are within the limits of the device manager. -/
theorem within (h : r.Checked) {f : Field} {limit : Nat} (hlimit : f.limit? = some limit) :
    (f.value r).utf8ByteSize ≤ limit := by
  cases f with
  | mode | sectorCount | major | minor | vhd => cases hlimit
  | name => cases hlimit; exact (Rules.deviceName_eq_ok h.name).1
  | accountName => cases hlimit; exact h.accountName
  | accountKey =>
    cases hlimit
    have hkey := h.accountKey
    simp only [Rules.accountKey, check_eq_ok, Rules.length_eq_ok] at hkey
    exact hkey.1.2
  | path =>
    cases hlimit
    obtain ⟨blob, hblob⟩ := h.path
    unfold BlobPath.parse at hblob
    split at hblob
    · cases hblob
    · rename_i hpath
      exact Nat.le_of_not_lt fun hlong => hpath (.inr hlong)
  | host => cases hlimit; exact h.host
  | ip => cases hlimit; exact h.ip
  | leaseId => cases hlimit; exact h.leaseId

theorem fits_iff (h : r.Checked) : (∀ f ∈ Layout.request.fields, f.Fits r) ↔
    ∀ f ∈ freeTexts, Field.breaksLine (f.value r) = false := by
  constructor
  · have hsub : ∀ f ∈ freeTexts, f ∈ Layout.request.fields := by decide
    exact fun hfits f hf => (hfits f (hsub f hf)).unbroken
  · intro hfree f hf
    refine ⟨?_, fun limit => h.within⟩
    by_cases hf' : f ∈ freeTexts
    · exact hfree f hf'
    · exact h.unbroken hf hf'

end Checked

/-! ## Requests -/

/-- A record that was validated can be sent just if no free text of it holds the end of a line or of the
text, and its lines fit the buffer together. If it can be sent, the device manager reads all its fields
as they were; if not, it is refused as one that cannot be encoded. -/
theorem sent_iff_of_validated {events : List Event}
    (hrun : (q.validate login domain).Runs events (r, .ok ())) :
    ((∃ b, Channel.mountRequest r = .ok b) ↔
      (∀ f ∈ freeTexts, Field.breaksLine (f.value r) = false) ∧
        (Layout.request.render r).utf8ByteSize ≤ Buffer.capacity) ∧
    (∀ b, Channel.mountRequest r = .ok b →
      ofText b.text = .ok { r with major := 0, minor := 0, sizeGb := 0 }) ∧
    ∀ e, Channel.mountRequest r = .error e → ∃ detail, e = .encode detail := by
  have hchecked : r.Checked := validate_checked.runs hrun rfl
  refine ⟨?_, fun b hb => ofText_request (Channel.mountRequest_text hb),
    fun e => Channel.encode_of_mountRequest_error⟩
  simp only [Channel.mountRequest_eq_ok, hchecked.fits_iff, exists_and_left, exists_eq, and_true]

/-- The sample on a blob of a given name, with sectors and a lease. -/
def leasedAt (name : String) : Record :=
  { Sample.record with path := "/dysks/" ++ name, sectorCount := 2097152, leaseId := "lease" }

/-- A store with nothing but that blob, under the lease. -/
def leasedStore (name : String) : MemoryStore where
  containers := ["dysks"]
  blobs := [(⟨"dysks", name⟩,
    { StoredBlob.fresh 1073741824 .page with leaseId := some "lease", leaseState := .leased })]

/-- The validation of the one on the other. -/
def validation (name : String) : List Event × Record × Except Error Unit :=
  ((leasedAt name).validate ⟨"account", "a2V5"⟩ defaultDomain).trace (Sample.handle "") (leasedStore name)

theorem sent_iff_of_validated_sample :
    (validation "disk").2.2 = .ok () ∧ (∃ b, Channel.mountRequest (validation "disk").2.1 = .ok b) ∧
      ∀ b, Channel.mountRequest (validation "disk").2.1 = .ok b →
        ofText b.text = .ok { (validation "disk").2.1 with major := 0, minor := 0, sizeGb := 0 } := by
  have hok : (validation "disk").2 = ((validation "disk").2.1, .ok ()) := rfl
  have hrun := Program.runs_trace (Sample.handle "")
    ((leasedAt "disk").validate ⟨"account", "a2V5"⟩ defaultDomain) (leasedStore "disk")
  change Program.Runs _ _ (validation "disk").2 at hrun
  rw [hok] at hrun
  obtain ⟨hsent, hread, -⟩ := sent_iff_of_validated hrun
  exact ⟨congrArg Prod.snd hok, hsent.mpr ⟨by decide +kernel, by decide +kernel⟩, hread⟩

/-- A record on a blob with a line break or a zero in its name is validated, under a live lease and with
the probe for writing, and cannot be sent. -/
theorem unsent_line_break :
    ((validation "di\nsk").2.2 = .ok () ∧ Channel.mountRequest (validation "di\nsk").2.1 =
        .error (.encode "path contains a line break or NUL byte")) ∧
      (validation "di\x00sk").2.2 = .ok () ∧ Channel.mountRequest (validation "di\x00sk").2.1 =
        .error (.encode "path contains a line break or NUL byte") := ⟨⟨rfl, rfl⟩, rfl, rfl⟩

/-! ## Texts at their limits -/

theorem length_replicate {limit n : Nat} {c : Char} (v : Violation) (h : 0 < n * c.utf8Size)
    (hn : n * c.utf8Size ≤ limit) :
    Rules.length limit (String.ofList (List.replicate n c)) v = .ok () := by
  rw [Rules.length, Utf8.utf8ByteSize_replicate, if_neg (by omega)]

theorem accountKey_of_isOk {key : String} (hlength : Rules.length accountKeyLimit key .keyLength = .ok ())
    (h : (Base64.decode (Utf8.encode key.toList)).isOk = true) : Rules.accountKey key = .ok () := by
  rw [Rules.accountKey, check_eq_ok]
  refine ⟨hlength, ?_⟩
  unfold Rules.keyBytes
  cases hd : Base64.decode (Utf8.encode key.toList) with
  | ok bytes => rfl
  | error fault =>
    rw [hd] at h
    cases h

/-- A record with texts as long as they may be. -/
def overfull : Record where
  name := String.ofList (List.replicate 32 'n')
  sectorCount := 2097152
  accountName := String.ofList (List.replicate 256 'a')
  accountKey := String.ofList (List.replicate 128 'A')
  path := "/c/" ++ String.ofList (List.replicate 1021 'p')
  host := String.ofList (List.replicate 512 'h')
  ip := "100.100.100.100"
  leaseId := String.ofList (List.replicate 64 'e')

theorem overfull_path : overfull.path.toList = '/' :: 'c' :: '/' :: List.replicate 1021 'p' := by
  rw [overfull, String.toList_append, String.toList_ofList, String.toList_ofList]
  rfl

theorem overfull_checkFields : overfull.checkFields defaultDomain =
    (overfull, .ok ⟨"c", String.ofList (List.replicate 1021 'p')⟩) := by
  have hname : Rules.deviceName overfull.name = .ok () := by
    rw [Rules.deviceName, check_eq_ok]
    refine ⟨length_replicate _ (by decide) (by decide), ?_⟩
    rw [overfull, String.toList_ofList]
    rfl
  have haccount : Rules.length accountNameLimit overfull.accountName .accountName = .ok () :=
    length_replicate _ (by decide) (by decide)
  have hkey : Rules.accountKey overfull.accountKey = .ok () := by
    refine accountKey_of_isOk (length_replicate _ (by decide) (by decide)) ?_
    rw [overfull, String.toList_ofList]
    decide +kernel
  have hpath : BlobPath.parse overfull.path = .ok ⟨"c", String.ofList (List.replicate 1021 'p')⟩ := by
    have hsize : overfull.path.utf8ByteSize = 1024 := by
      rw [overfull, String.utf8ByteSize_append, Utf8.utf8ByteSize_replicate]
      rfl
    have hsplit : Pieces.split '/' ('/' :: 'c' :: '/' :: List.replicate 1021 'p')
        = [[], ['c'], List.replicate 1021 'p'] := by decide +kernel
    have hpath : ¬ (overfull.path.isEmpty = true ∨ pathLimit < overfull.path.utf8ByteSize) := by
      rw [String.isEmpty_iff_utf8ByteSize_eq_zero, hsize]
      decide
    rw [BlobPath.parse, if_neg hpath, overfull_path, hsplit]
    rfl
  have hidentity : overfull.checkIdentity = .ok ⟨"c", String.ofList (List.replicate 1021 'p')⟩ :=
    checkIdentity_eq_ok.mpr ⟨hname, by decide, fun hsize => absurd rfl hsize, Rules.length_eq_ok.mp haccount, hkey, hpath⟩
  have hplacement : overfull.checkPlacement = .ok () := by
    have hlease : Rules.length leaseIdLimit overfull.leaseId .leaseId = .ok () :=
      length_replicate _ (by decide) (by decide)
    refine checkPlacement_eq_ok.mpr ⟨?_, Rules.length_eq_ok.mp hlease⟩
    rw [overfull, Utf8.utf8ByteSize_replicate]
    decide
  have hhost : overfull.fillHost defaultDomain = overfull := by
    have hhost : overfull.host ≠ "" := by
      rw [ne_eq, ← String.utf8ByteSize_eq_zero_iff, overfull, Utf8.utf8ByteSize_replicate]
      decide
    exact if_neg hhost
  rw [checkFields, hidentity]
  simp only [hhost, hplacement]
  rfl

theorem overfull_render : (Layout.request.render overfull).utf8ByteSize = 2051 := by
  simp only [Layout.utf8ByteSize_render, Layout.request, List.map_cons, List.map_nil, List.sum_cons,
    List.sum_nil, Field.value, overfull, String.utf8ByteSize_append, Utf8.utf8ByteSize_replicate]
  decide +kernel

/-- Texts that are each within their limit and break off nowhere can be too long for the buffer together. -/
theorem unsent_overfull : ∃ events, (overfull.validate login defaultDomain).Runs events (overfull, .ok ()) ∧
    (∀ f ∈ freeTexts, Field.breaksLine (f.value overfull) = false) ∧
    Channel.mountRequest overfull =
      .error (.encode "request is 2051 bytes, control buffer holds 2048") := by
  have hip : (IpAddress.v4 100 100 100 100).text = overfull.ip := rfl
  obtain ⟨events, hrun⟩ := exists_validated login overfull_checkFields (.v4 100 100 100 100)
    (by decide +kernel)
  rw [hip] at hrun
  have hfree : ∀ f ∈ freeTexts, Field.breaksLine (f.value overfull) = false := by
    simp only [freeTexts, List.forall_mem_cons]
    refine ⟨?_, ?_, ?_, ?_, nofun⟩
    · exact (Field.fits_replicate rfl (by decide) (by decide)).unbroken
    · rw [Field.value, Field.breaksLine, overfull_path, List.any_cons, List.any_cons, List.any_cons,
        List.any_replicate]
      decide
    · exact (Field.fits_replicate rfl (by decide) (by decide)).unbroken
    · exact (Field.fits_replicate rfl (by decide) (by decide)).unbroken
  have hchecked : overfull.Checked := validate_checked.runs hrun rfl
  refine ⟨events, hrun, hfree, ?_⟩
  rw [Channel.mountRequest_of_capacity_lt (hchecked.fits_iff.mpr hfree)] <;> rw [overfull_render]
  · rfl
  · decide

end Record

end BlobDisk
