import BlobDisk.Json.Reader
import BlobDisk.Json.Writer
import BlobDisk.Proofs.Text.Decimal
import BlobDisk.Proofs.Text.Utf8

/-!
# Strings and numbers in JSON

What is written of a string or of a whole number is read as it was.

* `Json.Spells`: bytes of a string that stand for others, and `Json.spells_escapeChar`;
* `Json.string?_quote`: a string between quotes;
* `Json.Ends`: what can come after a value;
* `Json.number?_toString`: a number in front of it.
-/

namespace BlobDisk.Json

/-! ## Strings -/

/-- The bytes `written` in a string stand for the bytes `meant`, whatever comes after them. -/
def Spells (written meant : List UInt8) : Prop :=
  ∃ ps, (∀ more qs after, parts? more = some (qs, after) → parts? (written ++ more) = some (ps ++ qs, after)) ∧
    ∀ qs bytes, bytes? qs = some bytes → bytes? (ps ++ qs) = some (meant ++ bytes)

theorem Spells.nil : Spells [] [] := ⟨[], fun _ _ _ h => h, fun _ _ h => h⟩

theorem Spells.append {written meant written' meant' : List UInt8} (h : Spells written meant)
    (h' : Spells written' meant') : Spells (written ++ written') (meant ++ meant') := by
  obtain ⟨ps, hread, hbytes⟩ := h
  obtain ⟨ps', hread', hbytes'⟩ := h'
  refine ⟨ps ++ ps', fun more qs after hmore => ?_, fun qs bytes hqs => ?_⟩
  · rw [List.append_assoc, List.append_assoc]
    exact hread _ _ _ (hread' _ _ _ hmore)
  · rw [List.append_assoc, List.append_assoc]
    exact hbytes _ _ (hbytes' _ _ hqs)

theorem spells_byte {b : UInt8} (hquote : b ≠ 34) (hslash : b ≠ 92) (hcontrol : ¬ b < 32) :
    Spells [b] [b] := by
  refine ⟨[.byte b], fun more qs after hmore => ?_, fun qs bytes hqs => ?_⟩
  · rw [List.singleton_append, parts?.eq_4 _ _ (fun _ _ _ _ _ h _ => hslash h) (fun _ _ h _ => hslash h)]
    rw [if_neg hquote, if_neg (by simp [hslash, hcontrol]), hmore]
    rfl
  · rw [List.singleton_append, bytes?, hqs]
    rfl

theorem spells_bytes {bytes : List UInt8} (h : ∀ b ∈ bytes, b ≠ 34 ∧ b ≠ 92 ∧ ¬ b < 32) :
    Spells bytes bytes := by
  induction bytes with
  | nil => exact .nil
  | cons b bytes ih =>
    obtain ⟨hquote, hslash, hcontrol⟩ := h b List.mem_cons_self
    exact (spells_byte hquote hslash hcontrol).append (ih fun d hd => h d (List.mem_cons_of_mem _ hd))

theorem spells_escape {e b : UInt8} (h : escape? e = some b) (he : e ≠ 117) : Spells [92, e] [b] := by
  refine ⟨[.byte b], fun more qs after hmore => ?_, fun qs bytes hqs => ?_⟩
  · change parts? (92 :: e :: more) = _
    rw [parts?.eq_3 _ _ (fun _ _ _ _ _ h _ => he h), h, hmore]
    rfl
  · rw [List.singleton_append, bytes?, hqs]
    rfl

theorem encode_hexDigit : ∀ n < 16, Utf8.encode [hexDigit n] = [UInt8.ofNat (hexDigit n).toNat] := by
  decide

theorem hex?_hexDigit : ∀ n < 16, hex? (UInt8.ofNat (hexDigit n).toNat) = some n := by
  decide

theorem spells_code {n : Nat} (h : n < 32) :
    Spells (Utf8.encode ['\\', 'u', '0', '0', hexDigit (n / 16), hexDigit (n % 16)])
      (Utf8.encode [Char.ofNat n]) := by
  have hhigh : n / 16 < 16 := by omega
  have hlow : n % 16 < 16 := by omega
  have hcode : hex4? 48 48 (UInt8.ofNat (hexDigit (n / 16)).toNat) (UInt8.ofNat (hexDigit (n % 16)).toNat)
      = some n := by
    have hzero : hex? 48 = some 0 := rfl
    simp only [hex4?, hzero, hex?_hexDigit _ hhigh, hex?_hexDigit _ hlow]
    change some _ = _
    rw [Option.some.injEq]
    omega
  have hwritten : Utf8.encode ['\\', 'u', '0', '0', hexDigit (n / 16), hexDigit (n % 16)] =
      [92, 117, 48, 48, UInt8.ofNat (hexDigit (n / 16)).toNat, UInt8.ofNat (hexDigit (n % 16)).toNat] := by
    rw [show ['\\', 'u', '0', '0', hexDigit (n / 16), hexDigit (n % 16)] =
      ['\\', 'u', '0', '0'] ++ [hexDigit (n / 16)] ++ [hexDigit (n % 16)] from rfl,
      Utf8.encode_append, Utf8.encode_append, encode_hexDigit _ hhigh, encode_hexDigit _ hlow]
    rfl
  refine ⟨[.code n], fun more qs after hmore => ?_, fun qs bytes hqs => ?_⟩
  · rw [hwritten]
    change parts? (92 :: 117 :: 48 :: 48 :: _ :: _ :: more) = _
    rw [parts?, hcode, hmore]
    rfl
  · rw [List.singleton_append, bytes?.eq_def]
    dsimp only
    rw [if_neg (by omega), if_neg (by omega), hqs]
    rfl

theorem spells_escapeChar (c : Char) : Spells (Utf8.encode (escapeChar c)) (Utf8.encode [c]) := by
  have hc : ∀ n, c.toNat = n → c = Char.ofNat n := fun n hn => hn ▸ (Char.ofNat_toNat c).symm
  unfold escapeChar
  -- Five characters have an escape of their own.
  iterate 5
    split
    · subst c
      exact spells_escape rfl (by decide)
  split
  · obtain rfl := hc 8 ‹_›
    exact spells_escape rfl (by decide)
  split
  · obtain rfl := hc 12 ‹_›
    exact spells_escape rfl (by decide)
  split
  · rename_i h
    have hspells := spells_code h
    rwa [Char.ofNat_toNat] at hspells
  · rename_i hquote hslash _ _ _ _ _ hcontrol
    have hquote : c.toNat ≠ 34 := fun h => hquote (hc 34 h)
    have hslash : c.toNat ≠ 92 := fun h => hslash (hc 92 h)
    refine spells_bytes fun b hb => ?_
    rw [Utf8.encode, List.flatMap_singleton] at hb
    -- A character of ASCII is one byte with its number; all bytes of others have greater numbers.
    have hb : b.toNat = c.toNat ∨ 128 ≤ b.toNat := by
      by_cases hascii : c.toNat < 128
      · rw [Utf8.utf8EncodeChar_of_lt hascii, List.mem_singleton] at hb
        rw [hb, Utf8.toNat_byte (by omega)]
        exact .inl rfl
      · exact .inr (Utf8.le_of_mem_utf8EncodeChar (by omega) b hb)
    simp only [ne_eq, ← UInt8.toNat_inj, UInt8.lt_iff_toNat_lt, UInt8.reduceToNat]
    omega

/-- A string between quotes is read as it was written. -/
theorem string?_quote (text : String) (rest : List UInt8) : ∃ start,
    Utf8.encode (quote (some text)) ++ rest = 34 :: start ∧ string? start = some (some text, rest) := by
  have hspells : ∀ cs : List Char, Spells (Utf8.encode (cs.flatMap escapeChar)) (Utf8.encode cs) := by
    intro cs
    induction cs with
    | nil => exact .nil
    | cons c cs ih =>
      rw [List.flatMap_cons, Utf8.encode_append, show c :: cs = [c] ++ cs from rfl, Utf8.encode_append]
      exact (spells_escapeChar c).append ih
  obtain ⟨ps, hread, hbytes⟩ := hspells text.toList
  refine ⟨Utf8.encode (text.toList.flatMap escapeChar) ++ 34 :: rest, ?_, ?_⟩
  · rw [quote, Option.getD_some, Utf8.encode_cons, Utf8.encode_append]
    simp only [List.append_assoc]
    rfl
  · have htext : text? ps = some text := by
      have hend := hbytes [] [] rfl
      rw [List.append_nil, List.append_nil] at hend
      rw [text?, hend]
      simp only [Option.bind_eq_bind, Option.bind_some, Utf8.decode?_encode]
      rw [String.ofList_toList]
      rfl
    rw [string?, hread (34 :: rest) [] rest rfl, List.append_nil, ← htext]
    rfl


/-! ## Numbers -/

/-- What can come after a value: nothing, a comma, or the end of a line. -/
def Ends (rest : List UInt8) : Prop := ∀ b ∈ rest.head?, b = 44 ∨ b = 10

theorem Ends.isDigit {rest : List UInt8} (h : Ends rest) : ∀ b ∈ rest.head?, isDigit b = false := by
  intro b hb
  rcases h b hb with rfl | rfl <;> rfl

/-- Digits in front of what comes after a value. -/
theorem digits_append {ds rest : List UInt8} (hds : ∀ b ∈ ds, isDigit b = true) (hrest : Ends rest) :
    digits (ds ++ rest) = (ds, rest) := by
  have hstop : rest.takeWhile isDigit = [] ∧ rest.dropWhile isDigit = rest := by
    cases rest with
    | nil => exact ⟨rfl, rfl⟩
    | cons b rest =>
      have hb := hrest.isDigit b rfl
      exact ⟨List.takeWhile_cons_of_neg (by simp [hb]), List.dropWhile_cons_of_neg (by simp [hb])⟩
  rw [digits, List.takeWhile_append_of_pos hds, List.dropWhile_append_of_pos hds, hstop.1, hstop.2,
    List.append_nil]

theorem skipFraction?_ends {rest : List UInt8} (h : Ends rest) : skipFraction? rest = some (false, rest) := by
  unfold skipFraction?
  split
  · rcases h 46 rfl with h | h <;> cases h
  · rfl

theorem skipExponent?_ends {rest : List UInt8} (h : Ends rest) : skipExponent? rest = some (false, rest) := by
  cases rest with
  | nil => rfl
  | cons b rest =>
    rcases h b rfl with rfl | rfl <;> rfl

/-- The bytes of the digits of a number. -/
def digitBytes (n : Nat) : List UInt8 := (Nat.toDigits 10 n).map fun c => UInt8.ofNat c.toNat

theorem toNat_lt_of_digit {c : Char} (h : c.isDigit = true) : 48 ≤ c.toNat ∧ c.toNat ≤ 57 := by
  simpa [Char.isDigit, UInt32.le_iff_toNat_le] using h

theorem encode_toDigits (n : Nat) : Utf8.encode (Nat.toDigits 10 n) = digitBytes n := by
  refine Utf8.encode_of_ascii fun c hc => ?_
  have := toNat_lt_of_digit (Decimal.isDigit_of_mem hc)
  omega

theorem isDigit_of_mem_digitBytes {n : Nat} : ∀ b ∈ digitBytes n, isDigit b = true := by
  intro b hb
  obtain ⟨c, hc, rfl⟩ := List.mem_map.mp hb
  have hdigit := toNat_lt_of_digit (Decimal.isDigit_of_mem hc)
  have htoNat : (UInt8.ofNat c.toNat).toNat = c.toNat := Utf8.toNat_byte (by omega)
  simp only [isDigit, Bool.and_eq_true, decide_eq_true_eq, UInt8.le_iff_toNat_le, htoNat, UInt8.reduceToNat]
  exact hdigit

theorem digitBytes_ne_nil (n : Nat) : digitBytes n ≠ [] := fun h =>
  Nat.toDigits_ne_nil (List.map_eq_nil_iff.mp h)

/-- Digits as they are written have no zeros in front. -/
theorem digitBytes_zero {n : Nat} (h : (digitBytes n).head? = some 48) : (digitBytes n).length = 1 := by
  rw [digitBytes, List.head?_map, Option.map_eq_some_iff] at h
  obtain ⟨c, hc, hcode⟩ := h
  have hdigit := toNat_lt_of_digit (Decimal.isDigit_of_mem (List.mem_of_mem_head? hc))
  have hzero : c = '0' := by
    rw [← UInt8.toNat_inj, Utf8.toNat_byte (by omega)] at hcode
    exact Char.toNat_inj.mp hcode
  obtain rfl := Decimal.eq_zero_of_head? (hzero ▸ hc)
  rfl

theorem ofDigitChars_digitBytes (n : Nat) :
    Nat.ofDigitChars 10 ((digitBytes n).map fun b => Char.ofNat b.toNat) 0 = n := by
  have hchars : (digitBytes n).map (fun b => Char.ofNat b.toNat) = Nat.toDigits 10 n := by
    rw [digitBytes, List.map_map]
    refine (List.map_congr_left fun c hc => ?_).trans (List.map_id _)
    have hdigit := toNat_lt_of_digit (Decimal.isDigit_of_mem hc)
    rw [Function.comp_apply, Utf8.toNat_byte (by omega), Char.ofNat_toNat]
    rfl
  rw [hchars, Nat.ofDigitChars_ten_toDigits]

/-- A number is read as it was written. -/
theorem number?_toString (n : Int) {rest : List UInt8} (h : Ends rest) :
    number? (Utf8.encode (toString n).toList ++ rest) = some (.int n, rest) := by
  have hdigits : ∀ m, digits (digitBytes m ++ rest) = (digitBytes m, rest) :=
    fun m => digits_append isDigit_of_mem_digitBytes h
  have hform : ∀ m, ¬ ((digitBytes m).isEmpty = true ∨
      (digitBytes m).head? = some 48 ∧ 1 < (digitBytes m).length) := by
    rintro m (hempty | ⟨hzero, hlong⟩)
    · exact digitBytes_ne_nil m (List.isEmpty_iff.mp hempty)
    · have := digitBytes_zero hzero
      omega
  cases n with
  | ofNat m =>
    have hsign : ∀ more, digitBytes m ++ rest ≠ 45 :: more := by
      intro more heq
      obtain ⟨b, bs, hb⟩ := List.exists_cons_of_ne_nil (digitBytes_ne_nil m)
      rw [hb] at heq
      obtain ⟨rfl, -⟩ := List.cons.inj heq
      have := isDigit_of_mem_digitBytes 45 (hb ▸ List.mem_cons_self)
      cases this
    change number? (Utf8.encode (toString m).toList ++ rest) = _
    rw [Decimal.toList_toString, encode_toDigits]
    unfold number?
    split
    · rename_i heq
      split at heq
      · exact (hsign _ ‹_›).elim
      · cases heq
        simp only [hdigits, if_neg (hform m), skipFraction?_ends h, skipExponent?_ends h,
          ofDigitChars_digitBytes, Option.bind_eq_bind, Option.bind_some]
        rfl
  | negSucc m =>
    rw [Decimal.toList_negSucc, Utf8.encode_cons, encode_toDigits]
    change number? (45 :: (digitBytes (m + 1) ++ rest)) = _
    unfold number?
    simp only [hdigits, if_neg (hform (m + 1)), skipFraction?_ends h, skipExponent?_ends h,
      ofDigitChars_digitBytes, Option.bind_eq_bind, Option.bind_some]
    rfl

end BlobDisk.Json
