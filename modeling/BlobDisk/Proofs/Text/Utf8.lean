import BlobDisk.Channel.Envelope

/-!
# Text in a buffer and back

What one side writes into the control buffer as UTF-8 the other side reads, up to the first zero byte.

* `Utf8.step_utf8EncodeChar`: the part at the front of an encoded text is its first character;
* `Utf8.decodeLossy_encode`, `Utf8.decode?_encode`: decoding undoes encoding, and replaces nothing;
* `Utf8.encode_inj`: no two texts have the same bytes;
* `Utf8.length_encode`, `Utf8.length_le_utf8ByteSize`: the number of bytes, at least that of characters;
* `Utf8.forall_ascii`: what holds of the characters of ASCII, checked one by one;
* `Utf8.encode_of_ascii`, `Utf8.mem_of_mem_encode`: the characters of ASCII are bytes, and no other character
  has such bytes;
* `Buffer.beforeZero_encode`: only the character zero is encoded with a zero byte;
* `Buffer.text_ofText`, `Envelope.ofBuffer_overwrite`: what is read of a request and of an answer.
-/

namespace BlobDisk

namespace Utf8

/-! ## Bytes by number -/

theorem toNat_byte {n : Nat} (h : n < 256) : (UInt8.ofNat n).toNat = n := by
  rw [UInt8.toNat_ofNat']
  exact Nat.mod_eq_of_lt h

theorem toNat_ofNat {n : Nat} (h : n < 128) : (Char.ofNat n).toNat = n := by
  have hvalid : n.isValidChar := .inl (by omega)
  rw [Char.ofNat, dif_pos hvalid]
  rfl

/-- What holds of the numbers below 128 holds of the characters of ASCII. -/
theorem forall_ascii {P : Char → Prop} (h : ∀ n < 128, P (Char.ofNat n)) {c : Char} (hc : c.toNat < 128) :
    P c := by
  have hchar := h c.toNat hc
  rwa [Char.ofNat_toNat] at hchar

theorem isContinuation_byte {n : Nat} (h : n < 64) : isContinuation (UInt8.ofNat (n + 128)) = true := by
  have hn : (UInt8.ofNat (n + 128)).toNat = n + 128 := toNat_byte (by omega)
  simp only [isContinuation, UInt8.le_iff_toNat_le, hn, UInt8.reduceToNat, Bool.and_eq_true,
    decide_eq_true_eq]
  omega

theorem low_byte {n : Nat} (h : n < 64) : low (UInt8.ofNat (n + 128)) = n := by
  rw [low, toNat_byte (by omega)]
  omega

/-- A bound that depends on the lead byte. -/
theorem toNat_bound {n : Nat} (h : n < 256) (lead a b : UInt8) :
    (if UInt8.ofNat n = lead then a else b).toNat = if n = lead.toNat then a.toNat else b.toNat := by
  have heq : UInt8.ofNat n = lead ↔ n = lead.toNat := by rw [← UInt8.toNat_inj, toNat_byte h]
  simp only [heq, apply_ite UInt8.toNat]

/-! ## One character

The length of a character follows from its number, and each length has a lead of its own. -/

variable {c : Char} {v : Nat}

theorem step_one (hv : c.val.toNat = v) (h : v ≤ 127) (rest : List UInt8) :
    step (UInt8.ofNat v) rest = ⟨some c, 1⟩ := by
  have hn : (UInt8.ofNat v).toNat = v := toNat_byte (by omega)
  have hc : Char.ofNat v = c := hv ▸ Char.ofNat_toNat c
  unfold step
  simp only [UInt8.lt_iff_toNat_lt, hn, UInt8.reduceToNat, show v < 128 by omega, if_true, hc]

theorem step_two (hv : c.val.toNat = v) (h₁ : 127 < v) (h₂ : v ≤ 2047) (rest : List UInt8) :
    step (UInt8.ofNat (v / 64 % 32 + 192)) (UInt8.ofNat (v % 64 + 128) :: rest) = ⟨some c, 2⟩ := by
  have hlead : (UInt8.ofNat (v / 64 % 32 + 192)).toNat = v / 64 % 32 + 192 := toNat_byte (by omega)
  have hmod : v % 64 < 64 := Nat.mod_lt _ (by decide)
  have hc : Char.ofNat ((v / 64 % 32 + 192) % 32 * 64 + v % 64) = c := by
    rw [show (v / 64 % 32 + 192) % 32 * 64 + v % 64 = v by omega]
    exact hv ▸ Char.ofNat_toNat c
  unfold step
  simp only [UInt8.lt_iff_toNat_lt, UInt8.le_iff_toNat_le, hlead, UInt8.reduceToNat,
    show ¬ v / 64 % 32 + 192 < 128 by omega,
    show 194 ≤ v / 64 % 32 + 192 ∧ v / 64 % 32 + 192 ≤ 223 by omega, if_false, if_true,
    isContinuation_byte hmod, low_byte hmod, hc, and_self]

theorem step_three (hv : c.val.toNat = v) (h₁ : 2047 < v) (h₂ : v ≤ 65535) (rest : List UInt8) :
    step (UInt8.ofNat (v / 4096 % 16 + 224))
      (UInt8.ofNat (v / 64 % 64 + 128) :: UInt8.ofNat (v % 64 + 128) :: rest) = ⟨some c, 3⟩ := by
  have hvalid : v < 0xD800 ∨ 0xDFFF < v ∧ v < 0x110000 := hv ▸ c.valid
  have hlead : (UInt8.ofNat (v / 4096 % 16 + 224)).toNat = v / 4096 % 16 + 224 := toNat_byte (by omega)
  have hsecond : (UInt8.ofNat (v / 64 % 64 + 128)).toNat = v / 64 % 64 + 128 := toNat_byte (by omega)
  have hmod : v / 64 % 64 < 64 := Nat.mod_lt _ (by decide)
  have hmod' : v % 64 < 64 := Nat.mod_lt _ (by decide)
  have hc : Char.ofNat ((v / 4096 % 16 + 224) % 16 * 4096 + v / 64 % 64 * 64 + v % 64) = c := by
    rw [show (v / 4096 % 16 + 224) % 16 * 4096 + v / 64 % 64 * 64 + v % 64 = v by omega]
    exact hv ▸ Char.ofNat_toNat c
  -- The bounds exclude what has two bytes and the surrogates, which are no characters.
  have hlo : (if v / 4096 % 16 + 224 = 224 then 160 else 128) ≤ v / 64 % 64 + 128 := by
    split <;> omega
  have hhi : v / 64 % 64 + 128 ≤ (if v / 4096 % 16 + 224 = 237 then 159 else 191) := by
    split <;> omega
  unfold step threeBytes
  simp only [UInt8.lt_iff_toNat_lt, UInt8.le_iff_toNat_le, hlead, hsecond,
    toNat_bound (show v / 4096 % 16 + 224 < 256 by omega), UInt8.reduceToNat, hlo, hhi,
    show ¬ v / 4096 % 16 + 224 < 128 by omega,
    show ¬ (194 ≤ v / 4096 % 16 + 224 ∧ v / 4096 % 16 + 224 ≤ 223) by omega,
    show 224 ≤ v / 4096 % 16 + 224 ∧ v / 4096 % 16 + 224 ≤ 239 by omega, if_false, if_true,
    isContinuation_byte hmod', low_byte hmod, low_byte hmod', hc, and_self]

theorem step_four (hv : c.val.toNat = v) (h : 65535 < v) (rest : List UInt8) :
    step (UInt8.ofNat (v / 262144 % 8 + 240)) (UInt8.ofNat (v / 4096 % 64 + 128) ::
      UInt8.ofNat (v / 64 % 64 + 128) :: UInt8.ofNat (v % 64 + 128) :: rest) = ⟨some c, 4⟩ := by
  have hvalid : v < 0xD800 ∨ 0xDFFF < v ∧ v < 0x110000 := hv ▸ c.valid
  have hlead : (UInt8.ofNat (v / 262144 % 8 + 240)).toNat = v / 262144 % 8 + 240 :=
    toNat_byte (by omega)
  have hsecond : (UInt8.ofNat (v / 4096 % 64 + 128)).toNat = v / 4096 % 64 + 128 :=
    toNat_byte (by omega)
  have hmod : v / 4096 % 64 < 64 := Nat.mod_lt _ (by decide)
  have hmod' : v / 64 % 64 < 64 := Nat.mod_lt _ (by decide)
  have hmod'' : v % 64 < 64 := Nat.mod_lt _ (by decide)
  have hc : Char.ofNat ((v / 262144 % 8 + 240) % 8 * 262144 + v / 4096 % 64 * 4096 + v / 64 % 64 * 64
      + v % 64) = c := by
    rw [show (v / 262144 % 8 + 240) % 8 * 262144 + v / 4096 % 64 * 4096 + v / 64 % 64 * 64 + v % 64 = v
      by omega]
    exact hv ▸ Char.ofNat_toNat c
  -- The bounds exclude what has three bytes and numbers above those of characters.
  have hlo : (if v / 262144 % 8 + 240 = 240 then 144 else 128) ≤ v / 4096 % 64 + 128 := by
    split <;> omega
  have hhi : v / 4096 % 64 + 128 ≤ (if v / 262144 % 8 + 240 = 244 then 143 else 191) := by
    split <;> omega
  unfold step fourBytes
  simp only [UInt8.lt_iff_toNat_lt, UInt8.le_iff_toNat_le, hlead, hsecond,
    toNat_bound (show v / 262144 % 8 + 240 < 256 by omega), UInt8.reduceToNat, hlo, hhi,
    show ¬ v / 262144 % 8 + 240 < 128 by omega,
    show ¬ (194 ≤ v / 262144 % 8 + 240 ∧ v / 262144 % 8 + 240 ≤ 223) by omega,
    show ¬ (224 ≤ v / 262144 % 8 + 240 ∧ v / 262144 % 8 + 240 ≤ 239) by omega,
    show 240 ≤ v / 262144 % 8 + 240 ∧ v / 262144 % 8 + 240 ≤ 244 by omega, if_false, if_true,
    isContinuation_byte hmod', isContinuation_byte hmod'', low_byte hmod, low_byte hmod',
    low_byte hmod'', hc, and_self]

theorem step_utf8EncodeChar (c : Char) (rest : List UInt8) :
    ∃ first more, String.utf8EncodeChar c = first :: more ∧
      step first (more ++ rest) = ⟨some c, more.length + 1⟩ := by
  unfold String.utf8EncodeChar
  dsimp only
  split
  · exact ⟨_, _, rfl, step_one rfl ‹_› rest⟩
  split
  · exact ⟨_, _, rfl, step_two rfl (by omega) ‹_› rest⟩
  split
  · exact ⟨_, _, rfl, step_three rfl (by omega) ‹_› rest⟩
  · exact ⟨_, _, rfl, step_four rfl (by omega) rest⟩

/-! ## Texts -/

theorem encode_cons (c : Char) (text : List Char) :
    encode (c :: text) = String.utf8EncodeChar c ++ encode text := rfl

theorem encode_append (front back : List Char) : encode (front ++ back) = encode front ++ encode back :=
  List.flatMap_append

theorem parts_encode (text : List Char) : parts (encode text) = text.map some := by
  induction text with
  | nil => rw [encode, List.flatMap_nil, parts, List.map_nil]
  | cons c text ih =>
    obtain ⟨first, more, hchar, hstep⟩ := step_utf8EncodeChar c (encode text)
    rw [encode_cons, hchar, List.cons_append, parts, hstep]
    simp only [Nat.add_sub_cancel, List.drop_left, ih, List.map_cons]

/-- Text that was encoded is read as it was. -/
theorem decodeLossy_encode (text : List Char) : decodeLossy (encode text) = text := by
  rw [decodeLossy, parts_encode, List.map_map]
  exact List.map_id text

/-- All of it is text. -/
theorem decode?_encode (text : List Char) : decode? (encode text) = some text := by
  rw [decode?, parts_encode]
  induction text with
  | nil => rfl
  | cons c text ih =>
    rw [List.map_cons, List.mapM_cons, ih]
    rfl

/-- No two texts have the same bytes. -/
theorem encode_inj {a b : List Char} (h : encode a = encode b) : a = b := by
  rw [← decodeLossy_encode a, h, decodeLossy_encode]

theorem length_encode (text : String) : (encode text.toList).length = text.utf8ByteSize := by
  conv => rhs; rw [← String.ofList_toList (s := text)]
  exact List.size_toByteArray.symm

/-- A text has at least as many bytes as characters. -/
theorem length_le_utf8ByteSize (text : String) : text.toList.length ≤ text.utf8ByteSize := by
  rw [← length_encode]
  induction text.toList with
  | nil => exact Nat.le_refl 0
  | cons c rest ih =>
    have hc := c.utf8Size_pos
    rw [encode, List.flatMap_cons, List.length_append, String.length_utf8EncodeChar, List.length_cons, ← encode]
    omega

/-! ## ASCII -/

/-- The characters of ASCII are bytes. -/
theorem utf8EncodeChar_of_lt {c : Char} (h : c.toNat < 128) :
    String.utf8EncodeChar c = [UInt8.ofNat c.toNat] :=
  if_pos (Nat.le_of_lt_succ h)

/-- No byte of any other character is in ASCII. -/
theorem le_of_mem_utf8EncodeChar {c : Char} (h : 128 ≤ c.toNat) :
    ∀ b ∈ String.utf8EncodeChar c, 128 ≤ b.toNat := by
  have hc : ¬ c.val.toNat ≤ 127 := Nat.not_le.mpr h
  unfold String.utf8EncodeChar
  dsimp only
  rw [if_neg hc]
  repeat' split
  all_goals
    simp only [List.forall_mem_cons, List.not_mem_nil, false_implies, implies_true, and_true]
    repeat' apply And.intro
    all_goals
      rw [toNat_byte (by omega)]
      omega

/-- A byte of ASCII in an encoded text is a character of the text. -/
theorem mem_of_mem_encode {b : UInt8} {text : List Char} (hb : b ∈ encode text) (hlow : b.toNat < 128) :
    Char.ofNat b.toNat ∈ text := by
  obtain ⟨c, hc, hbc⟩ := List.mem_flatMap.mp hb
  by_cases hascii : c.toNat < 128
  · rw [utf8EncodeChar_of_lt hascii, List.mem_singleton] at hbc
    rwa [hbc, toNat_byte (by omega), Char.ofNat_toNat]
  · exact absurd (le_of_mem_utf8EncodeChar (Nat.le_of_not_lt hascii) b hbc) (by omega)

theorem length_le_encode (text : List Char) : text.length ≤ (encode text).length := by
  induction text with
  | nil => exact Nat.le_refl _
  | cons c text ih =>
    obtain ⟨first, more, hchar, -⟩ := step_utf8EncodeChar c []
    rw [encode_cons, hchar, List.length_append, List.length_cons, List.length_cons]
    omega

theorem encode_of_ascii {text : List Char} (h : ∀ c ∈ text, c.toNat < 128) :
    encode text = text.map fun c => UInt8.ofNat c.toNat := by
  induction text with
  | nil => rfl
  | cons c text ih =>
    rw [encode_cons, utf8EncodeChar_of_lt (h c List.mem_cons_self),
      ih fun d hd => h d (List.mem_cons_of_mem _ hd)]
    rfl

end Utf8

namespace Buffer

open Utf8

theorem zero_ne_byte {n : Nat} (hpos : 0 < n) (h : n < 256) : 0 ≠ UInt8.ofNat n := by
  intro e
  have := congrArg UInt8.toNat e
  rw [toNat_byte h] at this
  simp only [UInt8.reduceToNat] at this
  omega

/-- Only the character zero has a zero byte. -/
theorem zero_notMem_utf8EncodeChar {c : Char} (h : c ≠ '\x00') : 0 ∉ String.utf8EncodeChar c := by
  have hc : c.val.toNat ≠ 0 := fun e => h (Char.ext (UInt32.toNat_inj.mp e))
  unfold String.utf8EncodeChar
  dsimp only
  repeat' split
  all_goals
    simp only [List.mem_cons, List.not_mem_nil, or_false, not_or]
    repeat' apply And.intro
    all_goals exact zero_ne_byte (by omega) (by omega)

/-- The text up to the first character zero. -/
def untilNul (text : List Char) : List Char := text.takeWhile (· ≠ '\x00')

theorem beforeZero_append {front back : List UInt8} (h : 0 ∉ front) :
    beforeZero (front ++ back) = front ++ beforeZero back := by
  unfold beforeZero
  rw [List.takeWhile_append_of_pos]
  intro b hb
  exact decide_eq_true fun e => h (e ▸ hb)

/-- The bytes before the first zero are those of the text before the first character zero, also if the
text is padded with zeros. -/
theorem beforeZero_encode (text : List Char) (n : Nat) :
    beforeZero (encode text ++ List.replicate n 0) = encode (untilNul text) := by
  induction text with
  | nil => cases n <;> simp [encode, untilNul, beforeZero, List.replicate_succ]
  | cons c text ih =>
    by_cases hc : c = '\x00'
    · subst hc
      rfl
    · rw [encode_cons, List.append_assoc, beforeZero_append (zero_notMem_utf8EncodeChar hc), ih]
      simp [untilNul, hc, encode_cons]

theorem bytes_overwrite {front : List UInt8} (h : front.length ≤ capacity) :
    (zero.overwrite front).bytes = front ++ List.replicate (capacity - front.length) 0 := by
  change (front ++ (List.replicate 2048 0).drop front.length).take 2048 = _
  rw [List.drop_replicate, List.take_of_length_le]
  · rfl
  · simp only [List.length_append, List.length_replicate, capacity] at h ⊢
    omega

theorem ofText_eq_ok {text : String} {b : Buffer} : ofText text = .ok b ↔
    (encode text.toList).length ≤ capacity ∧ b = zero.overwrite (encode text.toList) := by
  unfold ofText
  dsimp only
  split
  · simp only [reduceCtorEq, false_iff, not_and]
    omega
  · rw [Except.ok.injEq, eq_comm, iff_and_self]
    omega

/-- The other side reads the request, up to a character zero. -/
theorem text_ofText {text : String} {b : Buffer} (h : ofText text = .ok b) :
    b.text = String.ofList (untilNul text.toList) := by
  obtain ⟨hlength, rfl⟩ := ofText_eq_ok.mp h
  rw [Buffer.text, bytes_overwrite hlength, beforeZero_encode, decodeLossy_encode]

theorem untilNul_of_notMem {text : List Char} (h : '\x00' ∉ text) : untilNul text = text := by
  rw [untilNul, ← List.append_nil text, List.takeWhile_append_of_pos]
  · rfl
  · exact fun c hc => decide_eq_true fun e => h (e ▸ hc)

end Buffer

/-- An answer that was written into an empty buffer is read up to a character zero. -/
theorem Envelope.ofBuffer_overwrite {text : List Char}
    (h : (Utf8.encode text).length ≤ Buffer.capacity) :
    ofBuffer (Buffer.zero.overwrite (Utf8.encode text)) (Utf8.encode text).length
      = ofText (Buffer.untilNul text) := by
  have hbytes : ∀ n, ofBytes (Utf8.encode text ++ List.replicate n 0) = ofText (Buffer.untilNul text) := by
    intro n
    rw [ofBytes, Buffer.beforeZero_encode, Utf8.decodeLossy_encode]
  unfold ofBuffer
  rw [Buffer.bytes_overwrite h]
  split
  · exact hbytes _
  · rw [List.take_left]
    simpa using hbytes 0

end BlobDisk
