import BlobDisk.Proofs.Channel.Answers
import BlobDisk.Proofs.Channel.MountRequest
import BlobDisk.Proofs.Device.Table

/-!
# Room for an answer

A request to mount may fill the buffer to the last byte. The answer to it is longer: it has the lines of
the request behind a first line of its own, and two more lines for the numbers of the device. So a
record can be mounted whose device no answer can show.

* `Decimal.utf8ByteSize_toString_le`: how long the number of a device can be;
* `Layout.utf8ByteSize_response`: how much longer than the request the lines of an answer are;
* `Reply.exists_bytes_iff`: a text is the text of an answer just if it fits the buffer;
* `Channel.answered_iff`: when exactly a record that was sent can be shown, for given numbers and for all;
* `Channel.unanswered_fullest`: a record that is mounted and cannot be shown.
-/

namespace BlobDisk

/-! ## Numbers -/

/-- The most bytes that a number of a device takes: a sign and nineteen digits. -/
def Decimal.widest : Nat := 20

theorem Decimal.utf8ByteSize_toString (n : Int) :
    (toString n).utf8ByteSize = (toString n).toList.length := by
  have hascii : ∀ c ∈ (toString n).toList, c.toNat < 128 := by
    have hdigit : ∀ c : Char, c.isDigit = true → c.toNat < 128 := by
      intro c hc
      simp only [Char.isDigit, Bool.and_eq_true, decide_eq_true_eq, UInt32.le_iff_toNat_le] at hc
      exact Nat.lt_of_le_of_lt hc.2 (by decide)
    intro c hc
    by_cases hsign : c = '-'
    · subst hsign
      decide
    · refine hdigit c ?_
      by_contra h
      exact notMem_toString_int (Bool.eq_false_iff.mpr h) hsign n hc
  rw [← Utf8.length_encode, Utf8.encode_of_ascii hascii, List.length_map]

theorem Decimal.utf8ByteSize_toString_le (w : Int64) : (toString w.toInt).utf8ByteSize ≤ widest := by
  have hlow := w.le_toInt
  have hhigh := w.toInt_lt
  have hdigits : ∀ m : Nat, m < 10 ^ 19 → (Nat.toDigits 10 m).length ≤ 19 := fun m hm =>
    (Nat.length_toDigits_le_iff (by decide) (by decide)).mpr hm
  rw [utf8ByteSize_toString]
  cases hw : w.toInt with
  | ofNat m =>
    rw [hw] at hhigh
    have hm : m < 2 ^ 63 := Int.ofNat_lt.mp hhigh
    have hlength := hdigits m (by omega)
    change (toString m).toList.length ≤ widest
    rw [toList_toString]
    exact Nat.le_succ_of_le hlength
  | negSucc m =>
    have hlength := hdigits (m + 1) (by omega)
    rw [toList_negSucc, List.length_cons]
    exact Nat.succ_le_succ hlength

/-- The number that is written longest. -/
theorem Decimal.utf8ByteSize_toString_minValue : (toString Int64.minValue.toInt).utf8ByteSize = widest := by
  decide +kernel

/-! ## Lines -/

/-- A path stands in one line only. -/
theorem Field.value_path {f : Field} (h : f ≠ .path) (r : Record) (path : String) :
    f.value { r with path } = f.value r := by
  cases f with
  | path => exact absurd rfl h
  | _ => rfl

/-- An answer has the lines of a request, and one for each number of the device. -/
theorem Layout.utf8ByteSize_response (r : Record) (major minor : Int64) :
    (response.render { r with major, minor }).utf8ByteSize = (request.render r).utf8ByteSize +
      (toString major.toInt).utf8ByteSize + (toString minor.toInt).utf8ByteSize + 2 := by
  simp only [utf8ByteSize_render, response, request, List.map_cons, List.map_nil, List.sum_cons,
    List.sum_nil, Field.value]
  omega

/-! ## Answers -/

namespace Reply

variable {text : String}

/-- A text without zeros is that of an answer just if it fits the buffer. -/
theorem exists_bytes_iff (h : '\x00' ∉ text.toList) :
    (∃ reply : Reply, reply.bytes = Utf8.encode text.toList) ↔ text.utf8ByteSize ≤ Buffer.capacity := by
  constructor
  · rintro ⟨reply, hbytes⟩
    have hlength := reply.length_bytes_le
    rwa [hbytes, Utf8.length_encode] at hlength
  · intro hfits
    refine ⟨⟨.holding text, 0⟩, ?_⟩
    have hlength : (Utf8.encode text.toList).length ≤ Buffer.capacity := by
      rwa [Utf8.length_encode]
    rw [bytes, if_pos (.inl rfl)]
    change Buffer.beforeZero (Buffer.zero.overwrite (Utf8.encode text.toList)).bytes = _
    rw [Buffer.bytes_overwrite hlength, Buffer.beforeZero_encode, Buffer.untilNul_of_notMem h]

end Reply

namespace Channel

variable {r : Record} {b : Buffer}

/-- The bytes of an answer around the lines of a request: the line of a success, and the ends of the lines
of two numbers. -/
def surround : Nat := 5

/-- What was sent can be shown, in a text that is longer by its first line and the device's numbers. -/
theorem shown_eq (h : mountRequest r = .ok b) (major minor : Int64) :
    ∃ text, Layout.response.toText { r with major, minor } = .ok text ∧
      DeviceTable.shown { r with major, minor } = "OK\n" ++ text ∧ '\x00' ∉ ("OK\n" ++ text).toList ∧
      ("OK\n" ++ text).utf8ByteSize = (Buffer.beforeZero b.bytes).length +
        (toString major.toInt).utf8ByteSize + (toString minor.toInt).utf8ByteSize + surround := by
  have htext := Layout.toText_response (mountRequest_text h) major minor
  obtain ⟨hfits, -⟩ := Layout.toText_eq_ok.mp htext
  refine ⟨_, htext, by rw [DeviceTable.shown, htext], ?_, ?_⟩
  · rw [String.toList_append, List.mem_append, not_or]
    exact ⟨by decide, Layout.notMem_render hfits⟩
  · have hfront : "OK\n".utf8ByteSize = 3 := by decide
    rw [String.utf8ByteSize_append, Layout.utf8ByteSize_response, beforeZero_mountRequest h,
      Utf8.length_encode, hfront, surround]
    omega

/-- A record that was sent can be shown with the numbers of its device just if there is room for them
behind its lines: an answer that says so exists if and only if the lines of the request, the two
numbers and five bytes more fit the buffer, and then the record is read back from any such answer.
There is room for all numbers if and only if the request leaves 45 bytes of the buffer. -/
theorem answered_iff (h : mountRequest r = .ok b) :
    (∀ major minor : Int64, ∃ text, Layout.response.toText { r with major, minor } = .ok text ∧
      DeviceTable.shown { r with major, minor } = "OK\n" ++ text ∧
      ("OK\n" ++ text).utf8ByteSize = (Buffer.beforeZero b.bytes).length +
        (toString major.toInt).utf8ByteSize + (toString minor.toInt).utf8ByteSize + surround ∧
      ((∃ reply : Reply, reply.bytes = Utf8.encode ("OK\n" ++ text).toList) ↔
        ("OK\n" ++ text).utf8ByteSize ≤ Buffer.capacity) ∧
      ∀ reply : Reply, reply.bytes = Utf8.encode ("OK\n" ++ text).toList →
        record (.ok reply) = .ok { r with major, minor, sizeGb := 0 }) ∧
    ((∀ major minor : Int64, (DeviceTable.shown { r with major, minor }).utf8ByteSize ≤ Buffer.capacity) ↔
      (Buffer.beforeZero b.bytes).length + 2 * Decimal.widest + surround ≤ Buffer.capacity) := by
  refine ⟨fun major minor => ?_, fun hall => ?_, fun hroom major minor => ?_⟩
  · obtain ⟨text, htext, hshown, hnul, hsize⟩ := shown_eq h major minor
    refine ⟨text, htext, hshown, hsize, Reply.exists_bytes_iff hnul, fun reply hbytes => ?_⟩
    have hpayload : payload (.ok reply) = .ok text := by
      rw [Reply.payload_eq, hbytes, Utf8.decodeLossy_encode, ← Buffer.untilNul_of_notMem hnul]
      refine DeviceTable.said_success text fun hmem => hnul ?_
      rw [String.toList_append]
      exact List.mem_append_right _ hmem
    rw [record, hpayload]
    exact Record.ofText_response htext
  · obtain ⟨text, -, hshown, -, hsize⟩ := shown_eq h Int64.minValue Int64.minValue
    have hfits := hall Int64.minValue Int64.minValue
    rw [hshown, hsize, Decimal.utf8ByteSize_toString_minValue] at hfits
    omega
  · obtain ⟨text, -, hshown, -, hsize⟩ := shown_eq h major minor
    have hmajor := Decimal.utf8ByteSize_toString_le major
    have hminor := Decimal.utf8ByteSize_toString_le minor
    rw [hshown, hsize]
    omega

/-- The fullest record with a path that is shorter by 45 bytes. -/
def roomy : Record := { Record.fullest with path := String.ofList (List.replicate 979 'p') }

theorem fits_roomy : ∀ f ∈ Layout.request.fields, f.Fits roomy := by
  have hsub : ∀ f ∈ Layout.request.fields, f ∈ Layout.response.fields := by decide
  intro f hf
  by_cases hpath : f = .path
  · subst hpath
    exact Field.fits_replicate rfl (by decide) (by decide)
  · have hfits := Record.fits_fullest f (hsub f hf)
    have hvalue : f.value roomy = f.value Record.fullest := Field.value_path hpath Record.fullest _
    exact ⟨by rw [hvalue]; exact hfits.unbroken, by rw [hvalue]; exact hfits.within⟩

theorem utf8ByteSize_roomy :
    (Layout.request.render roomy).utf8ByteSize + 2 * Decimal.widest + surround = Buffer.capacity := by
  simp only [Layout.utf8ByteSize_render, Layout.request, List.map_cons, List.map_nil, List.sum_cons,
    List.sum_nil, Field.value, roomy, Record.fullest, Utf8.utf8ByteSize_replicate]
  decide +kernel

/-- The most room that an answer can need is just there. -/
theorem answered_roomy : ∃ b, mountRequest roomy = .ok b ∧
    (Buffer.beforeZero b.bytes).length + 2 * Decimal.widest + surround = Buffer.capacity ∧
    ∀ major minor : Int64, ∃ reply : Reply,
      record (.ok reply) = .ok { roomy with major, minor, sizeGb := 0 } := by
  have hroom := utf8ByteSize_roomy
  have hb : mountRequest roomy = .ok _ := mountRequest_eq_ok.mpr ⟨fits_roomy, by omega, rfl⟩
  obtain ⟨hshown, hall⟩ := answered_iff hb
  have hlength : (Buffer.beforeZero (Buffer.zero.overwrite
      (Utf8.encode (Layout.request.render roomy).toList)).bytes).length + 2 * Decimal.widest + surround =
      Buffer.capacity := by
    rw [beforeZero_mountRequest hb, Utf8.length_encode]
    exact hroom
  refine ⟨_, hb, hlength, fun major minor => ?_⟩
  obtain ⟨text, -, htext, -, hexists, hread⟩ := hshown major minor
  have hfits := hall.mpr (Nat.le_of_eq hlength) major minor
  rw [htext] at hfits
  obtain ⟨reply, hreply⟩ := hexists.mpr hfits
  exact ⟨reply, hread reply hreply⟩

/-- A record that fills the buffer can be sent, and no answer can show it. -/
theorem unanswered_fullest : ∃ b text, mountRequest Record.fullest = .ok b ∧
    Layout.response.toText { Record.fullest with major := 252, minor := 0 } = .ok text ∧
    ¬ ("OK\n" ++ text).utf8ByteSize ≤ Buffer.capacity ∧
    ¬ ∃ reply : Reply, reply.bytes = Utf8.encode ("OK\n" ++ text).toList := by
  have hsub : ∀ f ∈ Layout.request.fields, f ∈ Layout.response.fields := by decide
  have hfull := Record.utf8ByteSize_fullest
  have hb : mountRequest Record.fullest = .ok _ :=
    mountRequest_eq_ok.mpr ⟨fun f hf => Record.fits_fullest f (hsub f hf), Nat.le_of_eq hfull, rfl⟩
  obtain ⟨text, htext, -, hnul, hsize⟩ := shown_eq hb 252 0
  rw [beforeZero_mountRequest hb, Utf8.length_encode, hfull] at hsize
  have hlong : ¬ ("OK\n" ++ text).utf8ByteSize ≤ Buffer.capacity := by
    rw [hsize, surround]
    omega
  exact ⟨_, text, hb, htext, hlong, fun hreply => hlong ((Reply.exists_bytes_iff hnul).mp hreply)⟩

end Channel

namespace DeviceTable

variable {t : DeviceTable} {r : Record} {b : Buffer}

/-- A record without room for its answer is mounted all the same. The mount is not answered, and nor is
any request for the record afterwards. -/
theorem mounted_unanswered (h : Channel.mountRequest r = .ok b) (hfree : t.find? r.name = none)
    (hlong : Buffer.capacity <
      (shown { r with major := major, minor := t.nextMinor, sizeGb := 0 }).utf8ByteSize) :
    (t.answer .mount b.text).2 = t.add { r with major := major, minor := t.nextMinor } ∧
      Testbed.World.written (t.answer .mount b.text).1 = .error "response too large" ∧
      Testbed.World.written ((t.answer .mount b.text).2.get r.name) = .error "response too large" := by
  have hwritten : ∀ text : String, Buffer.capacity < text.utf8ByteSize →
      Testbed.World.written text = .error "response too large" := by
    intro text htext
    rw [← Utf8.length_encode] at htext
    exact if_pos htext
  rw [answer_mount_of_eq_none (Channel.mountRequest_text h) hfree]
  have hfind := find?_add (m := { r with major := major, minor := t.nextMinor }) hfree
  refine ⟨rfl, hwritten _ hlong, ?_⟩
  rw [get, hfind]
  exact hwritten _ hlong

end DeviceTable

end BlobDisk
