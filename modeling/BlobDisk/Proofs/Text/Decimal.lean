import BlobDisk.Text.Decimal

/-!
# Words written and read

* `Decimal.Unsigned`, `Decimal.Signed`: the texts that denote a number;
* `Decimal.word?_eq_some`, `Decimal.signedWord?_eq_some`: the words that are read are those that a text
  denotes;
* `Decimal.word?_toString`, `Decimal.signedWord?_toString`: a word that is written in digits is read as
  it was;
* `Decimal.notMem_toString`: what is written holds only digits and a sign;
* `Decimal.eq_zero_of_head?`: it has no zeros in front.
-/

namespace BlobDisk.Decimal

theorem toList_toString (n : Nat) : (toString n).toList = Nat.toDigits 10 n := by
  change n.repr.toList = _
  rw [Nat.repr, String.toList_ofList]

theorem toList_negSucc (m : Nat) :
    (toString (Int.negSucc m)).toList = '-' :: Nat.toDigits 10 (m + 1) := by
  change ("-" ++ (m + 1).repr).toList = _
  rw [String.toList_append, ← toList_toString]
  rfl

theorem isDigit_of_mem {n : Nat} {c : Char} (h : c ∈ Nat.toDigits 10 n) : c.isDigit = true :=
  Nat.isDigit_of_mem_toDigits (by decide) (by decide) h

/-- Only the digits of zero start with a zero. -/
theorem eq_zero_of_head? {n : Nat} (h : (Nat.toDigits 10 n).head? = some '0') : n = 0 := by
  induction n using Nat.strongRecOn with
  | ind n ih =>
    by_cases hn : n < 10
    · rw [Nat.toDigits_of_lt_base hn, List.head?_cons, Option.some.injEq] at h
      have hzero : ∀ d < 10, Nat.digitChar d = '0' → d = 0 := by decide
      exact hzero n hn h
    · rw [Nat.toDigits_of_base_le (by decide) (by omega),
        List.head?_append] at h
      cases hfront : Nat.toDigits 10 (n / 10) with
      | nil => exact (Nat.toDigits_ne_nil hfront).elim
      | cons c front =>
        rw [hfront] at h
        have := ih (n / 10) (by omega) (by rw [hfront]; exact h)
        omega

/-! ## The texts that denote a number -/

/-- Digits that denote a number, with any number of zeros in front. -/
structure Digits (text : List Char) (n : Nat) : Prop where
  ne_nil : text ≠ []
  digit : ∀ c ∈ text, c.isDigit = true
  value : n = Nat.ofDigitChars 10 text 0

/-- Digits with an optional plus. -/
inductive Unsigned : List Char → Nat → Prop
  | plain {text : List Char} {n : Nat} (h : Digits text n) : Unsigned text n
  | plus {text : List Char} {n : Nat} (h : Digits text n) : Unsigned ('+' :: text) n

/-- Digits with an optional sign. -/
inductive Signed : List Char → Int → Prop
  | unsigned {text : List Char} {n : Nat} (h : Unsigned text n) : Signed text n
  | minus {text : List Char} {n : Nat} (h : Digits text n) : Signed ('-' :: text) (-n)

variable {text : List Char} {n : Nat}

theorem digits_toDigits (n : Nat) : Digits (Nat.toDigits 10 n) n :=
  ⟨Nat.toDigits_ne_nil, fun _ => isDigit_of_mem, Nat.ofDigitChars_ten_toDigits.symm⟩

/-- Digits do not start with a sign. -/
theorem not_digits_cons {c : Char} (hc : c.isDigit = false) : ¬ Digits (c :: text) n := by
  intro h
  rw [h.digit c List.mem_cons_self] at hc
  cases hc

theorem not_unsigned_minus : ¬ Unsigned ('-' :: text) n
  | .plain h => not_digits_cons rfl h

theorem digits?_eq_some : digits? text = some n ↔ Digits text n := by
  unfold digits?
  split
  · rename_i h
    rw [Option.some.injEq]
    exact ⟨fun hn => ⟨h.1, List.all_eq_true.mp h.2, hn.symm⟩, fun h => h.value.symm⟩
  · rename_i hnot
    exact ⟨nofun, fun h => (hnot ⟨h.ne_nil, List.all_eq_true.mpr h.digit⟩).elim⟩

theorem digits_dropPlus : Digits (dropPlus text) n ↔ Unsigned text n := by
  unfold dropPlus
  split
  · exact ⟨.plus, fun h => match h with
      | .plus h => h
      | .plain h => (not_digits_cons rfl h).elim⟩
  · rename_i hplus
    exact ⟨.plain, fun h => match h with
      | .plus _ => (hplus _ rfl).elim
      | .plain h => h⟩

theorem unsigned?_eq_some {bound : Nat} :
    unsigned? bound text = some n ↔ Unsigned text n ∧ n < bound := by
  rw [unsigned?, Option.filter_eq_some_iff, digits?_eq_some, digits_dropPlus, decide_eq_true_iff]

theorem signed?_eq_some {half : Nat} (hhalf : 0 < half) {n : Int} :
    signed? half text = some n ↔ Signed text n ∧ -half ≤ n ∧ n < half := by
  unfold signed?
  split
  · simp only [Option.map_eq_some_iff, Option.bind_eq_bind, Option.bind_eq_some_iff, Option.pure_def,
      Option.some.injEq, Option.filter_eq_some_iff, digits?_eq_some, decide_eq_true_iff]
    constructor
    · rintro ⟨_, ⟨m, ⟨hm, hle⟩, rfl⟩, rfl⟩
      exact ⟨.minus hm, by omega, by omega⟩
    · rintro ⟨hn, hlow, hhigh⟩
      cases hn with
      | unsigned h => exact (not_unsigned_minus h).elim
      | minus h => exact ⟨_, ⟨_, ⟨h, by omega⟩, rfl⟩, rfl⟩
  · rename_i hminus
    simp only [Option.map_eq_some_iff, Option.bind_eq_bind, Option.bind_eq_some_iff, Option.pure_def,
      Option.some.injEq, unsigned?_eq_some]
    constructor
    · rintro ⟨_, ⟨m, ⟨hm, hlt⟩, rfl⟩, rfl⟩
      exact ⟨.unsigned hm, by omega, by omega⟩
    · rintro ⟨hn, hlow, hhigh⟩
      cases hn with
      | unsigned h => exact ⟨_, ⟨_, ⟨h, by omega⟩, rfl⟩, rfl⟩
      | minus h => exact (hminus _ rfl).elim

theorem word?_eq_some {w : UInt64} : word? text = some w ↔ Unsigned text w.toNat := by
  simp only [word?, Option.map_eq_some_iff, unsigned?_eq_some]
  constructor
  · rintro ⟨n, ⟨hn, hlt⟩, rfl⟩
    rwa [UInt64.toNat_ofNat_of_lt' hlt]
  · exact fun h => ⟨_, ⟨h, w.toNat_lt⟩, UInt64.ofNat_toNat⟩

theorem signedWord?_eq_some {w : Int64} : signedWord? text = some w ↔ Signed text w.toInt := by
  have hhalf : 0 < 0x8000000000000000 := by decide
  simp only [signedWord?, Option.map_eq_some_iff, signed?_eq_some hhalf]
  constructor
  · rintro ⟨n, ⟨hn, hlow, hhigh⟩, rfl⟩
    rwa [Int64.toInt_ofInt_of_le (by omega) (by omega)]
  · exact fun h => ⟨_, ⟨h, w.le_toInt, w.toInt_lt⟩, Int64.ofInt_toInt w⟩

/-! ## Words that are written -/

theorem unsigned_toString (n : Nat) : Unsigned (toString n).toList n :=
  .plain (toList_toString n ▸ digits_toDigits n)

theorem signed_toString (n : Int) : Signed (toString n).toList n := by
  cases n with
  | ofNat m => exact .unsigned (unsigned_toString m)
  | negSucc m =>
    rw [toList_negSucc]
    exact .minus (digits_toDigits (m + 1))

theorem word?_toString (w : UInt64) : word? (toString w.toNat).toList = some w :=
  word?_eq_some.mpr (unsigned_toString w.toNat)

theorem signedWord?_toString (w : Int64) : signedWord? (toString w.toInt).toList = some w :=
  signedWord?_eq_some.mpr (signed_toString w.toInt)

theorem notMem_toString {c : Char} (h : c.isDigit = false) (n : Nat) : c ∉ (toString n).toList := by
  rw [toList_toString]
  intro hc
  rw [isDigit_of_mem hc] at h
  cases h

theorem notMem_toString_int {c : Char} (h : c.isDigit = false) (hminus : c ≠ '-') (n : Int) :
    c ∉ (toString n).toList := by
  cases n with
  | ofNat m => exact notMem_toString h m
  | negSucc m =>
    rw [toList_negSucc, ← toList_toString, List.mem_cons, not_or]
    exact ⟨hminus, notMem_toString h (m + 1)⟩

end BlobDisk.Decimal
