import BlobDisk.Proofs.Text.Utf8

/-!
# Bytes that are a text

Bytes are decoded just if they are those of a text.

* `Utf8.step_eq_some`: a part that is a character has the bytes of that character;
* `Utf8.decode?_eq_some_iff`: decoding finds the text whose bytes are given, and none if there is no such text.
-/

namespace BlobDisk.Utf8

variable {c : Char} {first : UInt8} {rest : List UInt8} {n v : Nat}

theorem toNat_val_ofNat (h : v.isValidChar) : (Char.ofNat v).val.toNat = v := by
  rw [Char.ofNat, dif_pos h]
  rfl

theorem ofNat_eq_byte {b : UInt8} (h : v = b.toNat) : UInt8.ofNat v = b := by
  rw [h, UInt8.ofNat_toNat]

theorem isContinuation_iff {b : UInt8} : isContinuation b = true ↔ 128 ≤ b.toNat ∧ b.toNat ≤ 191 := by
  simp only [isContinuation, Bool.and_eq_true, decide_eq_true_eq, UInt8.le_iff_toNat_le, UInt8.reduceToNat]

/-- Bounds of a byte that are closer after certain bytes. -/
theorem bounds_of_ite {lead lead' lo hi b : UInt8} (hlo : 128 ≤ lo.toNat) (hhi : hi.toNat ≤ 191)
    (h : (if first = lead then lo else 0x80) ≤ b ∧ b ≤ (if first = lead' then hi else 0xBF)) :
    (128 ≤ b.toNat ∧ b.toNat ≤ 191) ∧ (first.toNat = lead.toNat → lo.toNat ≤ b.toNat) ∧
      (first.toNat = lead'.toNat → b.toNat ≤ hi.toNat) := by
  simp only [UInt8.le_iff_toNat_le, apply_ite UInt8.toNat, UInt8.reduceToNat, ← UInt8.toNat_inj] at h
  split at h <;> split at h <;> omega

/-! ## Characters by the number of their bytes -/

theorem utf8EncodeChar_one (h : first.toNat ≤ 127) :
    String.utf8EncodeChar (Char.ofNat first.toNat) = [first] := by
  have hv := toNat_val_ofNat (v := first.toNat) (.inl (by omega))
  simp only [String.utf8EncodeChar, hv, h, if_true, UInt8.ofNat_toNat]

theorem utf8EncodeChar_two {second : UInt8} (h₁ : 194 ≤ first.toNat) (h₂ : first.toNat ≤ 223)
    (hsecond : isContinuation second = true) :
    String.utf8EncodeChar (Char.ofNat (first.toNat % 32 * 64 + low second)) = [first, second] := by
  rw [isContinuation_iff] at hsecond
  have hv := toNat_val_ofNat (v := first.toNat % 32 * 64 + low second) (.inl (by rw [low]; omega))
  rw [low] at hv ⊢
  simp only [String.utf8EncodeChar, hv]
  rw [if_neg (by omega), if_pos (by omega), ofNat_eq_byte (b := first) (by omega),
    ofNat_eq_byte (b := second) (by omega)]

theorem utf8EncodeChar_three {second third : UInt8} (h₁ : 224 ≤ first.toNat) (h₂ : first.toNat ≤ 239)
    (hsecond : (if first = 0xE0 then 0xA0 else 0x80) ≤ second ∧ second ≤ (if first = 0xED then 0x9F else 0xBF))
    (hthird : isContinuation third = true) :
    String.utf8EncodeChar (Char.ofNat (first.toNat % 16 * 4096 + low second * 64 + low third)) =
      [first, second, third] := by
  rw [isContinuation_iff] at hthird
  obtain ⟨hrange, hlong, hsurrogate⟩ := bounds_of_ite (by decide) (by decide) hsecond
  simp only [UInt8.reduceToNat] at hlong hsurrogate
  have hv := toNat_val_ofNat (v := first.toNat % 16 * 4096 + low second * 64 + low third)
    (by simp only [low, Nat.isValidChar]; omega)
  simp only [low] at hv ⊢
  simp only [String.utf8EncodeChar, hv]
  rw [if_neg (by omega), if_neg (by omega), if_pos (by omega), ofNat_eq_byte (b := first) (by omega),
    ofNat_eq_byte (b := second) (by omega), ofNat_eq_byte (b := third) (by omega)]

theorem utf8EncodeChar_four {second third fourth : UInt8} (h₁ : 240 ≤ first.toNat) (h₂ : first.toNat ≤ 244)
    (hsecond : (if first = 0xF0 then 0x90 else 0x80) ≤ second ∧ second ≤ (if first = 0xF4 then 0x8F else 0xBF))
    (hthird : isContinuation third = true) (hfourth : isContinuation fourth = true) :
    String.utf8EncodeChar (Char.ofNat
      (first.toNat % 8 * 262144 + low second * 4096 + low third * 64 + low fourth)) =
      [first, second, third, fourth] := by
  rw [isContinuation_iff] at hthird hfourth
  obtain ⟨hrange, hlong, hlarge⟩ := bounds_of_ite (by decide) (by decide) hsecond
  simp only [UInt8.reduceToNat] at hlong hlarge
  have hv := toNat_val_ofNat (v := first.toNat % 8 * 262144 + low second * 4096 + low third * 64 + low fourth)
    (by simp only [low, Nat.isValidChar]; omega)
  simp only [low] at hv ⊢
  simp only [String.utf8EncodeChar, hv]
  rw [if_neg (by omega), if_neg (by omega), if_neg (by omega), ofNat_eq_byte (b := first) (by omega),
    ofNat_eq_byte (b := second) (by omega), ofNat_eq_byte (b := third) (by omega),
    ofNat_eq_byte (b := fourth) (by omega)]

/-! ## Parts that are characters -/

/-- The bytes at the front of `first :: rest` are those of a character, and `n` many. -/
def Spells (first : UInt8) (rest : List UInt8) (c : Char) (n : Nat) : Prop :=
  ∃ more tail, rest = more ++ tail ∧ n = more.length + 1 ∧ String.utf8EncodeChar c = first :: more

theorem threeBytes_eq_some (h₁ : 224 ≤ first.toNat) (h₂ : first.toNat ≤ 239) :
    threeBytes first rest = ⟨some c, n⟩ → Spells first rest c n := by
  fun_cases threeBytes first rest with
  | case1 second _ _ hsecond third tail hthird =>
    rintro ⟨⟩
    exact ⟨[second, third], tail, rfl, rfl, utf8EncodeChar_three h₁ h₂ hsecond hthird⟩
  | _ => exact nofun

theorem fourBytes_eq_some (h₁ : 240 ≤ first.toNat) (h₂ : first.toNat ≤ 244) :
    fourBytes first rest = ⟨some c, n⟩ → Spells first rest c n := by
  fun_cases fourBytes first rest with
  | case1 second _ _ hsecond third hthird fourth tail hfourth =>
    rintro ⟨⟩
    exact ⟨[second, third, fourth], tail, rfl, rfl, utf8EncodeChar_four h₁ h₂ hsecond hthird hfourth⟩
  | _ => exact nofun

theorem step_eq_some : step first rest = ⟨some c, n⟩ → Spells first rest c n := by
  fun_cases step first rest with
  | case1 rest hone =>
    rintro ⟨⟩
    simp only [UInt8.lt_iff_toNat_lt, UInt8.reduceToNat] at hone
    exact ⟨[], rest, rfl, rfl, utf8EncodeChar_one (by omega)⟩
  | case2 _ htwo second tail hsecond =>
    rintro ⟨⟩
    simp only [UInt8.le_iff_toNat_le, UInt8.reduceToNat] at htwo
    exact ⟨[second], tail, rfl, rfl, utf8EncodeChar_two htwo.1 htwo.2 hsecond⟩
  | case5 rest _ _ hthree =>
    simp only [UInt8.le_iff_toNat_le, UInt8.reduceToNat] at hthree
    exact threeBytes_eq_some hthree.1 hthree.2
  | case6 rest _ _ _ hfour =>
    simp only [UInt8.le_iff_toNat_le, UInt8.reduceToNat] at hfour
    exact fourBytes_eq_some hfour.1 hfour.2
  | _ => exact nofun

/-! ## Texts -/

theorem eq_map_some_of_mapM {cs : List (Option Char)} {text : List Char} (h : cs.mapM id = some text) :
    cs = text.map some := by
  induction cs generalizing text with
  | nil =>
    cases h
    rfl
  | cons first cs ih =>
    simp only [List.mapM_cons, id, Option.bind_eq_bind, Option.bind_eq_some_iff, Option.pure_def,
      Option.some.injEq] at h
    obtain ⟨c, rfl, rest, hrest, rfl⟩ := h
    rw [ih hrest, List.map_cons]

theorem encode_of_parts {bytes : List UInt8} {text : List Char} (h : parts bytes = text.map some) :
    encode text = bytes := by
  fun_induction parts bytes generalizing text with
  | case1 =>
    obtain rfl := List.map_eq_nil_iff.mp h.symm
    rfl
  | case2 first rest s =>
    rename_i ih
    cases text with
    | nil => cases h
    | cons c text =>
      obtain ⟨hc, hrest⟩ := List.cons.inj h
      have hstep : step first rest = ⟨some c, s.length⟩ := by rw [← hc]
      obtain ⟨more, tail, rfl, hlength, hchar⟩ := step_eq_some hstep
      have htext := ih hrest
      rw [hlength, Nat.add_sub_cancel, List.drop_left] at htext
      rw [encode_cons, htext, hchar, List.cons_append]

/-- Bytes are a text just if they are the bytes of a text. -/
theorem decode?_eq_some_iff {bytes : List UInt8} {text : List Char} :
    decode? bytes = some text ↔ bytes = encode text := by
  constructor
  · exact fun h => (encode_of_parts (eq_map_some_of_mapM h)).symm
  · rintro rfl
    exact decode?_encode text

end BlobDisk.Utf8
