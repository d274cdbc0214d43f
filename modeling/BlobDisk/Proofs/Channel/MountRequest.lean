import BlobDisk.Proofs.Record.Lines
import Mathlib.Algebra.Ring.Nat

/-!
# A request to mount, byte by byte

The buffer that asks to mount a record holds the lines of its ten fields, and zeros behind them.

* `Channel.mountRequest_eq_ok`: which records fit the buffer, and what is in it then;
* `Channel.encode_of_mountRequest_error`: how any other record is refused;
* `Channel.beforeZero_mountRequest`: the bytes up to the first zero are those of the lines;
* `Record.reads_back`: what was written is read as it was, and the buffer tells all ten fields.
-/

namespace BlobDisk

/-- A character many times over. -/
theorem Utf8.utf8ByteSize_replicate (n : Nat) (c : Char) :
    (String.ofList (List.replicate n c)).utf8ByteSize = n * c.utf8Size := by
  rw [← length_encode, String.toList_ofList]
  induction n with
  | zero => rw [Nat.zero_mul]; rfl
  | succ n ih =>
    rw [List.replicate_succ, encode_cons, List.length_append, ih, String.length_utf8EncodeChar,
      Nat.succ_mul, Nat.add_comm]

namespace Field

variable {f : Field} {r : Record} {e : Error}

/-- A character that ends no line fits its line until it is there too often. -/
theorem fits_replicate {n : Nat} {c : Char} (hvalue : f.value r = String.ofList (List.replicate n c))
    (hc : c ≠ '\n' ∧ c ≠ '\x00') (hn : ∀ limit ∈ f.limit?, n * c.utf8Size ≤ limit) : f.Fits r := by
  refine ⟨?_, fun limit hlimit => ?_⟩
  · rw [hvalue, breaksLine, String.toList_ofList, List.any_replicate]
    simp [hc]
  · rw [hvalue, Utf8.utf8ByteSize_replicate]
    exact hn limit hlimit

theorem line_eq_error (h : f.line r = .error e) : ∃ detail, e = .encode detail := by
  simp only [line] at h
  split at h
  · exact ⟨_, (Except.error.inj h).symm⟩
  · split at h
    · split at h
      · exact ⟨_, (Except.error.inj h).symm⟩
      · cases h
    · cases h

end Field

namespace Layout

variable {layout : Layout} {r : Record} {e : Error}

/-- Each line has its value and an end. -/
theorem utf8ByteSize_render (layout : Layout) (r : Record) :
    (layout.render r).utf8ByteSize = (layout.fields.map fun f => (f.value r).utf8ByteSize + 1).sum := by
  rw [render]
  induction layout.fields with
  | nil => rfl
  | cons f fields ih =>
    rw [List.map_cons, List.map_cons, List.sum_cons, String.join_cons, String.utf8ByteSize_append,
      String.utf8ByteSize_append, ih]
    rfl

theorem mapM_line_eq_error {fields : List Field} (h : fields.mapM (·.line r) = .error e) :
    ∃ detail, e = .encode detail := by
  induction fields with
  | nil => cases h
  | cons f fields ih =>
    rw [List.mapM_cons, bind_eq_error] at h
    rcases h with hline | ⟨line, -, h⟩
    · exact Field.line_eq_error hline
    · rcases bind_eq_error.mp h with hrest | ⟨lines, -, h⟩
      · exact ih hrest
      · cases h

theorem toText_eq_error (h : layout.toText r = .error e) : ∃ detail, e = .encode detail := by
  rcases bind_eq_error.mp h with hlines | ⟨lines, -, h⟩
  · exact mapM_line_eq_error hlines
  · cases h

end Layout

namespace Channel

variable {r : Record} {b : Buffer} {e : Error}

/-- A record can be sent just if its fields fit their lines and the lines fit the buffer. -/
theorem mountRequest_eq_ok : mountRequest r = .ok b ↔
    (∀ f ∈ Layout.request.fields, f.Fits r) ∧
      (Layout.request.render r).utf8ByteSize ≤ Buffer.capacity ∧
      b = Buffer.zero.overwrite (Utf8.encode (Layout.request.render r).toList) := by
  simp only [mountRequest, bind_eq_ok, Layout.toText_eq_ok, Buffer.ofText_eq_ok, Utf8.length_encode]
  constructor
  · rintro ⟨_, ⟨hfits, rfl⟩, hcapacity, hb⟩
    exact ⟨hfits, hcapacity, hb⟩
  · rintro ⟨hfits, hcapacity, hb⟩
    exact ⟨_, ⟨hfits, rfl⟩, hcapacity, hb⟩

/-- Lines that fit one by one and not together are refused with their length. -/
theorem mountRequest_of_capacity_lt (hfits : ∀ f ∈ Layout.request.fields, f.Fits r)
    (h : Buffer.capacity < (Layout.request.render r).utf8ByteSize) :
    mountRequest r = .error (.encode ("request is " ++ toString (Layout.request.render r).utf8ByteSize
      ++ " bytes, control buffer holds " ++ toString Buffer.capacity)) := by
  have htext : Layout.request.toText r = .ok (Layout.request.render r) :=
    Layout.toText_eq_ok.mpr ⟨hfits, rfl⟩
  refine bind_eq_error.mpr (.inr ⟨_, htext, ?_⟩)
  simp only [Buffer.ofText, Utf8.length_encode]
  exact if_pos h

/-- A record that cannot be sent is refused as one that cannot be encoded. -/
theorem encode_of_mountRequest_error (h : mountRequest r = .error e) : ∃ detail, e = .encode detail := by
  rcases bind_eq_error.mp h with htext | ⟨text, -, hbuffer⟩
  · exact Layout.toText_eq_error htext
  · simp only [Buffer.ofText] at hbuffer
    split at hbuffer
    · exact ⟨_, (Except.error.inj hbuffer).symm⟩
    · cases hbuffer

/-- The lines of the record are all that comes before the first zero byte, or before the end. -/
theorem beforeZero_mountRequest (h : mountRequest r = .ok b) :
    Buffer.beforeZero b.bytes = Utf8.encode (Layout.request.render r).toList := by
  obtain ⟨hfits, hcapacity, rfl⟩ := mountRequest_eq_ok.mp h
  rw [← Utf8.length_encode] at hcapacity
  rw [Buffer.bytes_overwrite hcapacity, Buffer.beforeZero_encode,
    Buffer.untilNul_of_notMem (Layout.notMem_render hfits)]

end Channel

namespace Record

/-- A record that was written in either layout is read as it was, but for what the layout leaves out. The
buffer of a request holds exactly the text of the record up to the first zero byte, so no two records
that differ in one of the ten fields have the same buffer. -/
theorem reads_back (r : Record) :
    (∀ text, Layout.request.toText r = .ok text →
      ofText text = .ok { r with major := 0, minor := 0, sizeGb := 0 }) ∧
    (∀ text, Layout.response.toText r = .ok text → ofText text = .ok { r with sizeGb := 0 }) ∧
    ∀ b, Channel.mountRequest r = .ok b →
      (∃ text, Layout.request.toText r = .ok text ∧ Buffer.beforeZero b.bytes = Utf8.encode text.toList) ∧
      ∀ r', Channel.mountRequest r' = .ok b →
        { r' with major := 0, minor := 0, sizeGb := 0 }
          = { r with major := 0, minor := 0, sizeGb := 0 } := by
  refine ⟨fun text => ofText_request, fun text => ofText_response, fun b hb => ⟨?_, fun r' hb' => ?_⟩⟩
  · obtain ⟨hfits, -⟩ := Channel.mountRequest_eq_ok.mp hb
    exact ⟨_, Layout.toText_eq_ok.mpr ⟨hfits, rfl⟩, Channel.beforeZero_mountRequest hb⟩
  · have hread := ofText_request (Channel.mountRequest_text hb)
    have hread' := ofText_request (Channel.mountRequest_text hb')
    exact Except.ok.inj (hread'.symm.trans hread)

/-- A record whose lines fill the buffer to the last byte, with a device's numbers and a size that a
request leaves out. -/
def fullest : Record where
  name := String.ofList (List.replicate 32 'n')
  sectorCount := 2097152
  accountName := String.ofList (List.replicate 256 'a')
  accountKey := String.ofList (List.replicate 128 'A')
  path := String.ofList (List.replicate 1024 'p')
  host := String.ofList (List.replicate 512 'h')
  ip := "10.100.100.1"
  leaseId := String.ofList (List.replicate 64 'e')
  major := -1
  minor := 7
  sizeGb := 1

theorem fits_fullest : ∀ f ∈ Layout.response.fields, f.Fits fullest := by
  intro f _
  cases f with
  | major => exact Field.fits_major
  | minor => exact Field.fits_minor
  | mode | sectorCount | vhd => exact ⟨by decide +kernel, nofun⟩
  | ip =>
    refine ⟨by decide +kernel, fun limit hlimit => ?_⟩
    cases hlimit
    decide +kernel
  | name | accountName | accountKey | path | host | leaseId =>
    exact Field.fits_replicate rfl (by decide) (by decide)

theorem utf8ByteSize_fullest : (Layout.request.render fullest).utf8ByteSize = Buffer.capacity := by
  simp only [Layout.utf8ByteSize_render, Layout.request, List.map_cons, List.map_nil, List.sum_cons,
    List.sum_nil, Field.value, fullest, Utf8.utf8ByteSize_replicate]
  decide +kernel

theorem reads_back_fullest : ∃ text full b, Layout.request.toText fullest = .ok text ∧
    Layout.response.toText fullest = .ok full ∧ Channel.mountRequest fullest = .ok b ∧
    ofText text = .ok { fullest with major := 0, minor := 0, sizeGb := 0 } ∧
    ofText full = .ok { fullest with sizeGb := 0 } ∧
    ∃ text, Layout.request.toText fullest = .ok text ∧
      Buffer.beforeZero b.bytes = Utf8.encode text.toList := by
  have hsub : ∀ f ∈ Layout.request.fields, f ∈ Layout.response.fields := by decide
  have hfits : ∀ f ∈ Layout.request.fields, f.Fits fullest := fun f hf => fits_fullest f (hsub f hf)
  have htext := Layout.toText_eq_ok.mpr ⟨hfits, rfl⟩
  have hfull := Layout.toText_eq_ok.mpr ⟨fits_fullest, rfl⟩
  have hb := Channel.mountRequest_eq_ok.mpr ⟨hfits, Nat.le_of_eq utf8ByteSize_fullest, rfl⟩
  exact ⟨_, _, _, htext, hfull, hb, (reads_back fullest).1 _ htext, (reads_back fullest).2.1 _ hfull,
    ((reads_back fullest).2.2 _ hb).1⟩

end Record

end BlobDisk
