import BlobDisk.Proofs.Text.Utf8
import BlobDisk.Url.Percent

/-!
# Encoding that can be undone

A percent sign stands for itself in an encoded text, so a text that has a sign and two digits of its own is
encoded as another text is. All other texts are read back.

* `Percent.Reversible`: the sets whose encoding can be read back;
* `Percent.notMem_encode`: what an encoded text does not hold;
* `Percent.decode_encode`: a text in which nothing is to be decoded is read back;
* `Percent.encode_inj`: no two such texts are encoded alike.
-/

namespace BlobDisk.Percent

variable {set : UInt8 → Bool} {b h l : UInt8} {bytes rest : List UInt8} {text : List Char} {c : Char}

/-- The set holds the bytes beyond ASCII. -/
def Reversible (set : UInt8 → Bool) : Prop := ∀ b : UInt8, 128 ≤ b.toNat → set b = true

theorem Reversible.lt (hset : Reversible set) (hb : set b = false) : b.toNat < 128 := by
  refine Nat.lt_of_not_le fun hle => ?_
  rw [hset b hle] at hb
  cases hb

theorem isControl_of_le (h : 128 ≤ b.toNat) : isControl b = true := by
  have hb : 0x7F ≤ b := UInt8.le_iff_toNat_le.mpr (by simp only [UInt8.reduceToNat]; omega)
  rw [isControl, decide_eq_true hb, Bool.or_true]

theorem reversible_pathSet : Reversible pathSet := fun b hb => by
  rw [pathSet, fragmentSet, isControl_of_le hb, Bool.true_or, Bool.true_or]

theorem reversible_userSet : Reversible userSet := fun b hb => by
  rw [userSet, reversible_pathSet b hb, Bool.true_or]

theorem reversible_specialQuerySet : Reversible specialQuerySet := fun b hb => by
  rw [specialQuerySet, querySet, isControl_of_le hb, Bool.true_or, Bool.true_or]

/-! ## Characters -/

theorem encode_append (set : UInt8 → Bool) (front back : List Char) :
    encode set (front ++ back) = encode set front ++ encode set back := by
  rw [encode, Utf8.encode_append, encodeBytes, List.flatMap_append]
  rfl

theorem mem_encodeBytes (hc : c ∈ encodeBytes set bytes) :
    (c = '%' ∨ ∃ n < 16, c = hexDigit n) ∨ ∃ b ∈ bytes, set b = false ∧ c = Char.ofNat b.toNat := by
  obtain ⟨b, hb, hcb⟩ := List.mem_flatMap.mp hc
  cases hset : set b with
  | true =>
    have hlt : b.toNat < 256 := b.toNat_lt
    rw [hset, if_pos rfl, triplet] at hcb
    simp only [List.mem_cons, List.not_mem_nil, or_false] at hcb
    rcases hcb with rfl | rfl | rfl
    · exact .inl (.inl rfl)
    · exact .inl (.inr ⟨_, Nat.div_lt_of_lt_mul hlt, rfl⟩)
    · exact .inl (.inr ⟨_, Nat.mod_lt _ (by decide), rfl⟩)
  | false =>
    rw [hset, if_neg Bool.false_ne_true, List.mem_singleton] at hcb
    exact .inr ⟨b, hb, hset, hcb⟩

/-- A mark that is no percent sign and no digit is not in an encoded text, if it is encoded or was not there
before. -/
theorem notMem_encode (hset : Reversible set) (hmark : c ≠ '%' ∧ ∀ n < 16, c ≠ hexDigit n)
    (h : set (UInt8.ofNat c.toNat) = true ∨ c ∉ text) : c ∉ encode set text := by
  intro hc
  rcases mem_encodeBytes hc with (hc | ⟨n, hn, hc⟩) | ⟨b, hb, hb', hc⟩
  · exact hmark.1 hc
  · exact hmark.2 n hn hc
  · have hlow := hset.lt hb'
    rcases h with h | h
    · rw [hc, Utf8.toNat_ofNat hlow, UInt8.ofNat_toNat, hb'] at h
      cases h
    · exact h (hc ▸ Utf8.mem_of_mem_encode hb hlow)

/-! ## Bytes -/

/-- The byte of a digit in base sixteen. -/
def digitByte (n : Nat) : UInt8 := UInt8.ofNat (hexDigit n).toNat

theorem hexValue?_digitByte : ∀ n < 16, hexValue? (digitByte n) = some n := by decide

theorem ascii_hexDigit : ∀ n < 16, (hexDigit n).toNat < 128 := by decide

/-- The bytes of an encoded byte. -/
def writtenByte (set : UInt8 → Bool) (b : UInt8) : List UInt8 :=
  if set b then [37, digitByte (b.toNat / 16), digitByte (b.toNat % 16)] else [b]

/-- The bytes of an encoded text. -/
def written (set : UInt8 → Bool) (bytes : List UInt8) : List UInt8 := bytes.flatMap (writtenByte set)

theorem written_cons : written set (b :: rest) = writtenByte set b ++ written set rest := List.flatMap_cons

theorem encode_triplet (b : UInt8) :
    Utf8.encode (triplet b) = [37, digitByte (b.toNat / 16), digitByte (b.toNat % 16)] := by
  have hascii : ∀ c ∈ triplet b, c.toNat < 128 := by
    simp only [triplet, List.forall_mem_cons]
    exact ⟨by decide, ascii_hexDigit _ (Nat.div_lt_of_lt_mul b.toNat_lt),
      ascii_hexDigit _ (Nat.mod_lt _ (by decide)), List.forall_mem_nil _⟩
  exact Utf8.encode_of_ascii hascii

theorem encode_encodeBytes (hset : Reversible set) : Utf8.encode (encodeBytes set bytes) = written set bytes := by
  induction bytes with
  | nil => rfl
  | cons b rest ih =>
    have hsplit : encodeBytes set (b :: rest) =
        (if set b then triplet b else [Char.ofNat b.toNat]) ++ encodeBytes set rest := List.flatMap_cons
    rw [hsplit, Utf8.encode_append, ih, written_cons, writtenByte]
    congr 1
    cases hb : set b with
    | true => exact encode_triplet b
    | false =>
      have hnat : (Char.ofNat b.toNat).toNat = b.toNat := Utf8.toNat_ofNat (hset.lt hb)
      have hascii : ∀ c ∈ [Char.ofNat b.toNat], c.toNat < 128 := by
        rw [List.forall_mem_singleton, hnat]
        exact hset.lt hb
      rw [if_neg Bool.false_ne_true, if_neg Bool.false_ne_true, Utf8.encode_of_ascii hascii, List.map_singleton, hnat,
        UInt8.ofNat_toNat]

/-! ## Reading -/

/-- Whether bytes would be decoded after a percent sign. -/
def isEscape : List UInt8 → Bool
  | h :: l :: _ => (hexValue? h).isSome && (hexValue? l).isSome
  | _ => false

theorem isEscape_cons (hb : hexValue? b = none) : isEscape (b :: rest) = false := by
  cases rest with
  | nil => rfl
  | cons l rest => rw [isEscape, hb, Option.isSome_none, Bool.false_and]

theorem isEscape_cons_cons (hl : hexValue? l = none) : isEscape (h :: l :: rest) = false := by
  rw [isEscape, hl, Option.isSome_none, Bool.and_false]

theorem decodeBytes_cons (hb : b ≠ 37) : decodeBytes (b :: rest) = b :: decodeBytes rest := by
  rw [decodeBytes]
  exact fun h l rest' heq => (hb heq).elim

theorem decodeBytes_escape {x y : Nat} (hx : hexValue? h = some x) (hy : hexValue? l = some y) :
    decodeBytes (37 :: h :: l :: rest) = UInt8.ofNat (x * 16 + y) :: decodeBytes rest := by
  rw [decodeBytes, hx, hy]

theorem decodeBytes_percent (hescape : isEscape rest = false) :
    decodeBytes (37 :: rest) = 37 :: decodeBytes rest := by
  match rest, hescape with
  | [], _ => rfl
  | [h], _ =>
    rw [decodeBytes]
    exact nofun
  | h :: l :: rest, hescape =>
    rw [decodeBytes]
    cases hx : hexValue? h with
    | none => rfl
    | some x =>
      cases hy : hexValue? l with
      | none => rfl
      | some y =>
        rw [isEscape, hx, hy] at hescape
        cases hescape

theorem length_decodeBytes_le (bytes : List UInt8) : (decodeBytes bytes).length ≤ bytes.length := by
  induction bytes using decodeBytes.induct with
  | case1 h l rest x y hy hx ih =>
    rw [decodeBytes_escape hx hy]
    simp only [List.length_cons]
    omega
  | case2 h l rest hnot ih =>
    have hescape : isEscape (h :: l :: rest) = false := by
      cases hx : hexValue? h with
      | none => exact isEscape_cons hx
      | some x =>
        cases hy : hexValue? l with
        | none => exact isEscape_cons_cons hy
        | some y => exact (hnot x y hx hy).elim
    rw [decodeBytes_percent hescape]
    exact Nat.succ_le_succ ih
  | case3 b rest hnot ih =>
    rw [decodeBytes]
    · exact Nat.succ_le_succ ih
    · exact hnot
  | case4 => exact Nat.le_refl _

/-- In bytes that are read as they are nothing after a percent sign would be decoded. -/
theorem decodeBytes_eq_cons (hfixed : decodeBytes (b :: rest) = b :: rest) :
    decodeBytes rest = rest ∧ (b = 37 → isEscape rest = false) := by
  by_cases hb : b = 37
  · subst hb
    cases hescape : isEscape rest with
    | false =>
      rw [decodeBytes_percent hescape] at hfixed
      exact ⟨(List.cons.inj hfixed).2, fun _ => rfl⟩
    | true =>
      match rest, hescape with
      | h :: l :: rest, hescape =>
        rw [isEscape, Bool.and_eq_true] at hescape
        obtain ⟨x, hx⟩ := Option.isSome_iff_exists.mp hescape.1
        obtain ⟨y, hy⟩ := Option.isSome_iff_exists.mp hescape.2
        rw [decodeBytes_escape hx hy] at hfixed
        have hlength := length_decodeBytes_le rest
        rw [(List.cons.inj hfixed).2] at hlength
        simp only [List.length_cons] at hlength
        omega
  · rw [decodeBytes_cons hb] at hfixed
    exact ⟨(List.cons.inj hfixed).2, fun h => (hb h).elim⟩

/-- Encoding puts no digits behind a percent sign that stands for itself. -/
theorem isEscape_written (hescape : isEscape bytes = false) : isEscape (written set bytes) = false := by
  cases bytes with
  | nil => rfl
  | cons h rest =>
    rw [written_cons, writtenByte]
    cases set h with
    | true => exact isEscape_cons (by decide)
    | false =>
      rw [if_neg Bool.false_ne_true, List.singleton_append]
      cases rest with
      | nil => rfl
      | cons l rest =>
        rw [written_cons, writtenByte]
        cases set l with
        | true => exact isEscape_cons_cons (by decide)
        | false => exact hescape

theorem decodeBytes_written (hfixed : decodeBytes bytes = bytes) : decodeBytes (written set bytes) = bytes := by
  induction bytes with
  | nil => rfl
  | cons b rest ih =>
    obtain ⟨hrest, hescape⟩ := decodeBytes_eq_cons hfixed
    rw [written_cons, writtenByte]
    cases set b with
    | true =>
      rw [if_pos rfl, List.cons_append, List.cons_append, List.singleton_append,
        decodeBytes_escape (hexValue?_digitByte _ (Nat.div_lt_of_lt_mul b.toNat_lt))
          (hexValue?_digitByte _ (Nat.mod_lt _ (by decide))), ih hrest, Nat.div_add_mod', UInt8.ofNat_toNat]
    | false =>
      rw [if_neg Bool.false_ne_true, List.singleton_append]
      by_cases hpercent : b = 37
      · rw [hpercent, decodeBytes_percent (isEscape_written (hescape hpercent)), ih hrest]
      · rw [decodeBytes_cons hpercent, ih hrest]

/-- A text in which nothing is to be decoded is encoded so that it is read back. -/
theorem decode_encode (hset : Reversible set) (hfixed : decode text = Utf8.encode text) :
    decode (encode set text) = Utf8.encode text := by
  rw [decode, encode, encode_encodeBytes hset]
  exact decodeBytes_written hfixed

/-- No two texts in which nothing is to be decoded are encoded alike. -/
theorem encode_inj (hset : Reversible set) {a b : List Char} (ha : decode a = Utf8.encode a)
    (hb : decode b = Utf8.encode b) (h : encode set a = encode set b) : a = b := by
  refine Utf8.encode_inj ?_
  rw [← decode_encode hset ha, h, decode_encode hset hb]

end BlobDisk.Percent
