import BlobDisk.Provision
import BlobDisk.Proofs.Schedule
import BlobDisk.Proofs.Sizes
import BlobDisk.Proofs.Store.Bytes
import BlobDisk.Proofs.Store.Contents
import BlobDisk.Proofs.Vhd.Footer

/-!
# The blob that is made

A blob is made in up to four calls, each of which can fail. What it is in the end does not depend on what
was at its place before.

* `ByteRange.slice_overwrite_self`, `ByteRange.slice_overwrite_before`: what a write leaves to be read;
* `Provision.made`: the blob that is made, and `Provision.made_holds`: its bytes;
* `Provision.create_contents`: what making a blob does to the contents of stores;
* `Provision.Made`, `Provision.create_made`: a blob that was made, seen by who reads it, and what is left
  where making one fails.
-/

namespace BlobDisk

/-! ## Reading beside a write -/

namespace ByteRange

variable {r window : ByteRange} {data bytes : List UInt8}

/-- What was written is read. -/
theorem slice_overwrite_self (h : r.Filled data bytes.length) : r.slice (r.overwrite data bytes) = data := by
  apply List.ext_getElem?
  intro i
  have hdata := h.length
  rw [length] at hdata
  rw [getElem?_slice, getElem?_overwrite h, length]
  by_cases hi : i < r.last + 1 - r.first
  · rw [if_pos hi, if_pos (by omega), Nat.add_sub_cancel_left]
  · rw [if_neg hi, List.getElem?_eq_none (by omega)]

/-- What lies before a write is read as it was. -/
theorem slice_overwrite_before (h : r.Filled data bytes.length) (hwindow : window.last < r.first) :
    window.slice (r.overwrite data bytes) = window.slice bytes := by
  apply List.ext_getElem?
  intro i
  rw [getElem?_slice, getElem?_slice, getElem?_overwrite h]
  refine if_ctx_congr Iff.rfl (fun hi => ?_) fun _ => rfl
  rw [length] at hi
  exact if_neg (by omega)

theorem slice_replicate {n : Nat} {b : UInt8} (hwindow : window.last < n) :
    window.slice (List.replicate n b) = List.replicate window.length b := by
  rw [slice, List.drop_replicate, List.take_replicate, Nat.min_eq_left]
  rw [length]
  omega

/-- A tail is filled by as many bytes as it has. -/
theorem filled_tail {size : Nat} (hdata : 0 < data.length) (hsize : data.length ≤ size) :
    (tail size data.length).Filled data size where
  nonempty := by
    simp only [tail]
    omega
  within := by
    simp only [tail]
    omega
  length := by
    simp only [tail, length]
    omega

end ByteRange

theorem Size.check_eq_ok {gb : UInt64} : Size.check gb = .ok () ↔ 0 < gb.toNat ∧ gb.toNat ≤ Size.maxGb := by
  rw [Size.check]
  split
  · simp only [reduceCtorEq, false_iff]
    omega
  · simp only [true_iff]
    omega

namespace Provision

open StoredBlob (Holds)

variable {login : Credentials} {gb size payload : UInt64} {container name : String} {vhd lease : Bool}
  {footer : Option (List UInt8)} {leaseId : Option String} {x x' : Contents}

/-! ## The new blob -/

/-- A blob of `size` bytes with the footer and the lease, if there are any. -/
def made (size : UInt64) (footer : Option (List UInt8)) (leaseId : Option String) : StoredBlob where
  size
  kind := .page
  writes := (footer.map fun data => (ByteRange.tail size.toNat Size.trailerBytes, data)).toList
  metadata := []
  leaseId
  leaseState := if leaseId.isSome then .leased else .available

/-- The bytes of a blob with a footer, if there is one, after zeros. -/
def bytes (size : Nat) : Option (List UInt8) → List UInt8
  | none => List.replicate size 0
  | some data => (ByteRange.tail size Size.trailerBytes).overwrite data (List.replicate size 0)

theorem made_holds (hfilled : ∀ data, footer = some data →
      (ByteRange.tail size.toNat Size.trailerBytes).Filled data size.toNat) :
    (made size footer leaseId).Holds (bytes size.toNat footer) := by
  have hzeros := StoredBlob.holds_fresh size .page
  cases footer with
  | none => exact hzeros.congr rfl rfl
  | some data => exact (hzeros.write (hfilled data rfl)).congr rfl rfl

/-! ## Making it -/

/-- The lease on a blob that has none is taken, or nothing happens. -/
theorem acquire_contents {blob : BlobPath} : (Lease.acquire login blob false).Ensures Contents.Step x
    (fun _ id x' => ∃ s, x.blobs (login.account, blob) = some s ∧ s.leaseId = none ∧
      x' = x.put (login.account, blob) { s with leaseId := some id, leaseState := .leased })
    fun _ _ x' => x' = x := by
  unfold Lease.acquire
  refine Action.ensures_bind.mpr (Action.ensures_always.mpr (Action.ensures_outcome.mpr
    (Action.ensures_store.mpr ⟨fun id x₁ h => h, fun e x₁ h => ?_⟩)))
  obtain rfl := h
  cases e <;> exact rfl

/-- The parts of a disk that is made: the size of its object, and a footer if one is asked for. -/
structure Parts (gb : UInt64) (vhd : Bool) (size : UInt64) (footer : Option (List UInt8)) : Prop where
  small : 0 < gb.toNat ∧ gb.toNat ≤ Size.maxGb
  size_eq : size.toNat = gb.toNat * Size.gib
  isSome_footer : footer.isSome = vhd
  built : ∀ data, footer = some data → ∃ payload stamp, data = Vhd.Footer.build payload stamp ∧
    payload.toNat = gb.toNat * Size.gib - Size.trailerBytes

/-- A footer fills the tail of the object. -/
theorem Parts.filled (h : Parts gb vhd size footer) {data : List UInt8} (hdata : footer = some data) :
    (ByteRange.tail size.toNat Size.trailerBytes).Filled data size.toNat := by
  obtain ⟨payload, stamp, rfl, -⟩ := h.built data hdata
  have hlength : (Vhd.Footer.build payload stamp).length = Size.trailerBytes :=
    Vhd.Footer.length_build payload stamp
  have hbig : Size.trailerBytes ≤ size.toNat := by
    have hpos := h.small.1
    rw [h.size_eq]
    simp only [Size.trailerBytes, Size.gib]
    omega
  rw [← hlength] at hbig ⊢
  exact ByteRange.filled_tail (hlength ▸ by decide) hbig

/-- The blob at a place is new, in place of none that was leased, and all others are as they were. -/
def Placed (k : String × BlobPath) (s : StoredBlob) (x x' : Contents) : Prop :=
  (∀ t, x.blobs k = some t → t.leaseId = none) ∧ x'.blobs = Function.update x.blobs k (some s)

/-- Nothing has changed but for one blob, which is new and has no lease, if it is. -/
def Left (k : String × BlobPath) (x x' : Contents) : Prop :=
  x'.blobs = x.blobs ∨ ∃ s, s.leaseId = none ∧ Placed k s x x'

/-- What is made of a blob so far is made in place of the same one. -/
theorem Placed.put {k : String × BlobPath} {s t : StoredBlob} (h : Placed k s x x') :
    Placed k t x (x'.put k t) :=
  ⟨h.1, by rw [Contents.put, h.2, Function.update_idem]⟩

theorem Placed.blobs_self {k : String × BlobPath} {s : StoredBlob} (h : Placed k s x x') :
    x'.blobs k = some s := by
  rw [h.2, Function.update_self]

/-- The lease comes last, on a blob that is new. -/
theorem lease_contents {blob : BlobPath} {size : UInt64} (h : Placed (login.account, blob) (made size footer none) x x') :
    Action.Ensures Contents.Step (do
      let leaseId ← if lease then some <$> Lease.acquire login blob false else pure none
      return (⟨blob, gb, vhd, leaseId⟩ : CreatedBlob)) x'
      (fun _ created x'' => ∃ leaseId, created = ⟨blob, gb, vhd, leaseId⟩ ∧ leaseId.isSome = lease ∧
        Placed (login.account, blob) (made size footer leaseId) x x'')
      fun _ _ x'' => Left (login.account, blob) x x'' := by
  cases lease with
  | false => exact ⟨none, rfl, rfl, h⟩
  | true =>
    refine Action.ensures_bind.mpr (Action.ensures_map.mpr (acquire_contents.mono ?_ ?_))
    · rintro _ id _ ⟨s, hs, -, rfl⟩
      obtain rfl : made size footer none = s := Option.some.inj (h.blobs_self.symm.trans hs)
      exact ⟨some id, rfl, rfl, h.put⟩
    · rintro _ e _ rfl
      exact .inr ⟨_, rfl, h⟩

theorem writeFooter_contents {blob : BlobPath} (h : Placed (login.account, blob) (made size none none) x x') :
    (writeFooter login blob size payload).Ensures Contents.Step x'
      (fun _ _ x'' => ∃ stamp, Placed (login.account, blob)
        (made size (some (Vhd.Footer.build payload stamp)) none) x x'')
      fun _ _ x'' => x'' = x' := by
  unfold writeFooter
  refine Action.ensures_bind.mpr (Action.ensures_always.mpr (Program.ensures_perform.mpr fun stamp x₁ hstep => ?_))
  obtain rfl := hstep
  refine Action.ensures_store.mpr ⟨?_, fun _ _ hstep => hstep⟩
  rintro _ _ ⟨s, hs, -, rfl⟩
  obtain rfl : made size none none = s := Option.some.inj (h.blobs_self.symm.trans hs)
  exact ⟨stamp, h.put⟩

theorem create_contents : (create login gb container name vhd lease).Ensures Contents.Step x
    (fun _ created x' => ∃ size footer leaseId, Parts gb vhd size footer ∧
      created = ⟨⟨container, blobName name vhd⟩, gb, vhd, leaseId⟩ ∧ leaseId.isSome = lease ∧
      Placed (login.account, created.blob) (made size footer leaseId) x x')
    fun _ _ x' => Left (login.account, ⟨container, blobName name vhd⟩) x x' := by
  unfold create
  refine Action.ensures_bind.mpr (Action.ensures_ofExcept.mpr ⟨fun _ hsmall => ?_, fun _ _ => .inl rfl⟩)
  refine Action.ensures_bind.mpr (Action.ensures_ofExcept.mpr ⟨fun size hsize => ?_, fun _ _ => .inl rfl⟩)
  have hsmall := Size.check_eq_ok.mp hsmall
  have hsize := Size.objectBytes_eq_ok.mp hsize
  refine Action.ensures_bind.mpr (Action.ensures_store.mpr ⟨fun _ x₁ hstep => ?_, fun _ x₁ hstep => ?_⟩)
  · have hblobs : x₁.blobs = x.blobs := by
      obtain rfl := hstep
      exact Contents.blobs_addContainer
    refine Action.ensures_bind.mpr (Action.ensures_store.mpr ⟨?_, fun _ x₂ hstep => ?_⟩)
    · rintro _ _ ⟨hnone, rfl⟩
      have hplaced : Placed (login.account, ⟨container, blobName name vhd⟩) (made size none none) x
          (x₁.put (login.account, ⟨container, blobName name vhd⟩) (.fresh size .page)) :=
        ⟨hblobs ▸ hnone, by rw [Contents.put, hblobs]; rfl⟩
      cases vhd with
      | false =>
        refine (lease_contents hplaced).mono ?_ fun _ _ _ h => h
        rintro _ _ _ ⟨leaseId, rfl, hlease, h⟩
        refine ⟨size, none, leaseId, ⟨hsmall, hsize, rfl, ?_⟩, rfl, hlease, h⟩
        rintro _ ⟨⟩
      | true =>
        refine Action.ensures_bind.mpr (Action.ensures_ofExcept.mpr
          ⟨fun payload hpayload => ?_, fun _ _ => .inr ⟨_, rfl, hplaced⟩⟩)
        obtain ⟨-, hpayload⟩ := Size.payloadBytes_eq_ok.mp hpayload
        refine Action.ensures_bind.mpr ((writeFooter_contents hplaced).mono ?_ ?_)
        · rintro _ _ _ ⟨stamp, hwritten⟩
          refine (lease_contents hwritten).mono ?_ fun _ _ _ h => h
          rintro _ _ _ ⟨leaseId, rfl, hlease, h⟩
          refine ⟨size, _, leaseId, ⟨hsmall, hsize, rfl, ?_⟩, rfl, hlease, h⟩
          rintro _ ⟨⟩
          exact ⟨payload, stamp, rfl, hpayload⟩
        · rintro _ _ _ rfl
          exact .inr ⟨_, rfl, hplaced⟩
    · obtain rfl := hstep
      exact .inl hblobs
  · obtain rfl := hstep
    exact .inl rfl

/-! ## What is seen of it -/

/-- A blob that was made in a store: a page blob of the size, with zeros that end in a footer if one was
asked for, and with the lease that is answered, which is one just if one was asked for. -/
structure Made (m : MemoryStore) (gb : UInt64) (vhd lease : Bool) (created : CreatedBlob) : Prop where
  blob : ∃ s, m.blob? created.blob = some s ∧ s.kind = .page ∧ s.size.toNat = gb.toNat * Size.gib ∧
    s.leaseId = created.leaseId ∧ s.leaseState = if lease then .leased else .available
  leased : created.leaseId.isSome = lease
  footer : vhd = true → ∃ footer,
    m.readRange created.blob (.tail (gb.toNat * Size.gib) Size.trailerBytes) none = .ok footer ∧
    Vhd.Footer.isValid footer = true ∧
    (Vhd.Footer.diskSize footer).toNat = gb.toNat * Size.gib - Size.trailerBytes
  zeros : ∀ range : ByteRange, range.first ≤ range.last →
    range.last < gb.toNat * Size.gib - Size.footerShare vhd →
    m.readRange created.blob range none = .ok (List.replicate range.length 0)

theorem Parts.made {m : MemoryStore} {blob : BlobPath} (h : Parts gb vhd size footer)
    (hlease : leaseId.isSome = lease) (hm : m.blob? blob = some (made size footer leaseId)) :
    Made m gb vhd lease ⟨blob, gb, vhd, leaseId⟩ := by
  have hread : ∀ range : ByteRange, range.first ≤ range.last → range.last < size.toNat →
      m.readRange blob range none = .ok (range.slice (bytes size.toNat footer)) :=
    fun range hrange hin =>
      MemoryStore.readRange_of_holds hm (made_holds fun _ => h.filled) hrange hin (.inl rfl)
  have hfilled : ∀ data, footer = some data → (ByteRange.tail size.toNat Size.trailerBytes).Filled data
      (List.replicate size.toNat (0 : UInt8)).length := by
    intro data hdata
    rw [List.length_replicate]
    exact h.filled hdata
  refine ⟨⟨_, hm, rfl, h.size_eq, rfl, hlease ▸ rfl⟩, hlease, fun hvhd => ?_, fun range hrange hin => ?_⟩
  · obtain ⟨data, rfl⟩ := Option.isSome_iff_exists.mp (h.isSome_footer.trans hvhd)
    obtain ⟨payload, stamp, rfl, hpayload⟩ := h.built data rfl
    have htail := h.filled rfl
    refine ⟨_, ?_, Vhd.Footer.isValid_build payload stamp, by rw [Vhd.Footer.diskSize_build, hpayload]⟩
    rw [← h.size_eq, hread _ htail.nonempty htail.within, bytes, ByteRange.slice_overwrite_self (hfilled _ rfl)]
  · rw [← h.size_eq] at hin
    rw [hread range hrange (by omega)]
    cases footer with
    | none => rw [bytes, ByteRange.slice_replicate (by omega)]
    | some data =>
      obtain rfl : vhd = true := h.isSome_footer.symm
      rw [bytes, ByteRange.slice_overwrite_before (hfilled data rfl) hin, ByteRange.slice_replicate (by omega)]

theorem Placed.blobs_of_ne {k k' : String × BlobPath} {s : StoredBlob} (h : Placed k s x x') (hk : k' ≠ k) :
    x'.blobs k' = x.blobs k' := by
  rw [h.2, Function.update_of_ne hk]

theorem Left.blobs_of_ne {k k' : String × BlobPath} (h : Left k x x') (hk : k' ≠ k) :
    x'.blobs k' = x.blobs k' := by
  rcases h with hsame | ⟨s, -, hplaced⟩
  · rw [hsame]
  · exact hplaced.blobs_of_ne hk

/-- What is left of a failure has the leases that there were, at most. -/
theorem Left.blobs_of_leased {k k' : String × BlobPath} {s : StoredBlob} {id : String} (h : Left k x x')
    (hs : x'.blobs k' = some s) (hid : s.leaseId = some id) : x.blobs k' = some s := by
  rcases h with hsame | ⟨t, ht, hplaced⟩
  · rw [← hsame, hs]
  · by_cases hk : k' = k
    · subst hk
      obtain rfl : t = s := Option.some.inj (hplaced.blobs_self.symm.trans hs)
      rw [ht] at hid
      cases hid
    · rw [← hplaced.blobs_of_ne hk, hs]

/-- A size that is out of bounds is refused at once. -/
theorem create_of_size (h : gb.toNat = 0 ∨ Size.maxGb < gb.toNat) :
    (create login gb container name vhd lease).run =
      .done (.error (.validation "Invalid size. Must be between 1 and 8192 GB")) := by
  have hcheck : Size.check gb = .error (.validation "Invalid size. Must be between 1 and 8192 GB") := by
    rw [Size.check, if_pos h]
    rfl
  rw [create, hcheck]
  rfl

/-- Whatever calls fail, and whatever was in the stores, a blob that is answered is made as it was asked
for, in place of one that was not leased at most, and no other blob has changed. Where no blob is answered,
no lease is left that was not there before. A size that is out of bounds is refused before any call. -/
theorem create_made {S S' : Stores} {scenes : List (Scene Stores)} {v : Except Error CreatedBlob}
    (h : (create login gb container name vhd lease).run.RunsIn Stores.Step S scenes v S') :
    (∀ created, v = .ok created → created.blob = ⟨container, blobName name vhd⟩ ∧
      created.sizeGb = gb ∧ created.vhd = vhd ∧ Made (S' login.account) gb vhd lease created) ∧
    (∀ e, v = .error e → ∀ account b id,
      (S' account).lease? b = some id → (S account).lease? b = some id) ∧
    (∀ account b, (account, b) ≠ (login.account, ⟨container, blobName name vhd⟩) →
      (S' account).blob? b = (S account).blob? b) ∧
    (gb = 0 ∨ 8192 < gb.toNat →
      scenes = [] ∧ v = .error (.validation "Invalid size. Must be between 1 and 8192 GB")) := by
  have hcontents := Program.ensures_iff.mp create_contents _ _ _ h.contents
  refine ⟨?_, ?_, fun account b hb => ?_, fun hgb => ?_⟩
  · rintro created rfl
    obtain ⟨size, footer, leaseId, hparts, rfl, hlease, hplaced⟩ := hcontents
    exact ⟨rfl, rfl, rfl, hparts.made hlease hplaced.blobs_self⟩
  · rintro e rfl account b id hid
    obtain ⟨s, hs, hid⟩ := Option.bind_eq_some_iff.mp hid
    have hs : S'.contents.blobs (account, b) = some s := hs
    have hold : (S account).blob? b = some s := Left.blobs_of_leased hcontents hs hid
    rw [MemoryStore.lease?, hold]
    exact hid
  · cases v with
    | ok created =>
      obtain ⟨size, footer, leaseId, -, rfl, -, hplaced⟩ := hcontents
      exact hplaced.blobs_of_ne hb
    | error e => exact Left.blobs_of_ne hcontents hb
  · have hsize : gb.toNat = 0 ∨ Size.maxGb < gb.toNat := hgb.imp_left (congrArg UInt64.toNat)
    obtain ⟨hruns, -⟩ := h
    rw [create_of_size hsize] at hruns
    generalize hevents : Scene.events scenes = events at hruns
    cases hruns
    exact ⟨List.map_eq_nil_iff.mp hevents, rfl⟩

/-- A store with an older blob that is not empty. -/
def older : MemoryStore :=
  (Sample.store 1).put ⟨"dysks", "disk.vhd"⟩
    { StoredBlob.fresh 4096 .page with writes := [(⟨0, 511⟩, List.replicate 512 7)] }

/-- A blob with a footer and a lease takes the place of the older one. -/
theorem create_made_leased : ∃ scenes S,
    (create ⟨"account", "a2V5"⟩ 1 "dysks" "disk" true true).run.RunsIn Stores.Step (fun _ => older) scenes
      (.ok ⟨⟨"dysks", "disk.vhd"⟩, 1, true, some "lease"⟩) S ∧
    Made (S "account") 1 true true ⟨⟨"dysks", "disk.vhd"⟩, 1, true, some "lease"⟩ := by
  generalize hrun : (create ⟨"account", "a2V5"⟩ 1 "dysks" "disk" true true).run.scenes
    (Stores.handle (Sample.answers "") "lease") (fun _ => older) = run
  have hruns : (create ⟨"account", "a2V5"⟩ 1 "dysks" "disk" true true).run.RunsIn Stores.Step
      (fun _ => older) run.1 run.2.1 run.2.2 :=
    hrun ▸ Program.runsIn_scenes (fun e S _ => Stores.step_handle (Sample.answers "") "lease" e S) _ _
      fun _ _ => trivial
  have hvalue : run.2.1.toOption = some ⟨⟨"dysks", "disk.vhd"⟩, 1, true, some "lease"⟩ := by
    rw [← hrun]
    decide +kernel
  rw [Sample.eq_ok_of_toOption hvalue] at hruns
  exact ⟨_, _, hruns, ((create_made hruns).1 _ rfl).2.2.2⟩

end Provision

end BlobDisk
