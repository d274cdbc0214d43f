import BlobDisk.Error
import BlobDisk.Text.Base64

/-!
# What base 64 reads is what it writes

* `Base64.value?_eq_some`: the symbols and their values;
* `Base64.Whole`: the values of a group that come from bytes; `Base64.sextets`: those values;
* `Base64.decodeLast_eq_ok`, `Base64.decodeGroups_eq_ok`: the last group and all of them;
* `Base64.decode_eq_ok`: a text is read as bytes just if it is their written form;
* `Base64.mem_encode`, `Base64.visible_encode`: the bytes of a written form.
-/

namespace BlobDisk.Base64

variable {text out group : List UInt8} {position : Nat} {vs : List Nat} {b : UInt8} {v : Nat}

/-! ## Symbols -/

theorem value?_symbol : ∀ v < 64, value? (symbol v) = some v := by decide

theorem value?_pad : value? pad = none := rfl

theorem value?_eq_some : value? b = some v ↔ v < 64 ∧ b = symbol v := by
  constructor
  · have hbytes : ∀ n < 256, ∀ v ∈ value? (UInt8.ofNat n), v < 64 ∧ UInt8.ofNat n = symbol v := by
      decide +kernel
    have h := hbytes b.toNat b.toNat_lt v
    rwa [UInt8.ofNat_toNat] at h
  · rintro ⟨hv, rfl⟩
    exact value?_symbol v hv

-- The alphabet in order.
example : (List.range 64).map symbol =
    "ABCDEFGHIJKLMNOPQRSTUVWXYZabcdefghijklmnopqrstuvwxyz0123456789+/".toList.map (UInt8.ofNat ·.toNat) := by
  decide

theorem symbol_ne_pad (hv : v < 64) : symbol v ≠ pad := by
  intro h
  have hsome := value?_symbol v hv
  rw [h, value?_pad] at hsome
  cases hsome

theorem values_cons_eq_ok : values position (b :: text) = .ok vs ↔
    ∃ v ws, value? b = some v ∧ values (position + 1) text = .ok ws ∧ v :: ws = vs := by
  rw [values]
  cases value? b with
  | none => simp
  | some v => simp [map_eq_ok]

theorem values_eq_ok : values position text = .ok vs ↔ (∀ v ∈ vs, v < 64) ∧ text = vs.map symbol := by
  induction text generalizing position vs with
  | nil => cases vs <;> simp [values]
  | cons b text ih =>
    simp only [values_cons_eq_ok, value?_eq_some, ih]
    constructor
    · rintro ⟨v, ws, ⟨hv, rfl⟩, ⟨hws, rfl⟩, rfl⟩
      exact ⟨List.forall_mem_cons.mpr ⟨hv, hws⟩, rfl⟩
    · rintro ⟨hvs, htext⟩
      obtain ⟨v, ws, rfl, rfl, rfl⟩ := List.map_eq_cons_iff.mp htext.symm
      obtain ⟨hv, hws⟩ := List.forall_mem_cons.mp hvs
      exact ⟨v, ws, ⟨hv, rfl⟩, ⟨hws, rfl⟩, rfl⟩

/-! ## Groups -/

/-- The values of a group that stands for bytes: two at least for one byte, with no bits to spare. -/
structure Whole (vs : List Nat) : Prop where
  lt : ∀ v ∈ vs, v < 64
  length_le : vs.length ≤ 4
  length_ne : vs.length ≠ 1
  spare : spareBits vs = 0

/-- The padding that fills a group. -/
def filler (vs : List Nat) : List UInt8 := List.replicate ((4 - vs.length) % 4) pad

/-- The values of a group that stands for up to three bytes. -/
def sextets : List UInt8 → List Nat
  | [a] => [a.toNat / 4, a.toNat % 4 * 16]
  | [a, b] => [a.toNat / 4, a.toNat % 4 * 16 + b.toNat / 16, b.toNat % 16 * 4]
  | [a, b, c] =>
    [a.toNat / 4, a.toNat % 4 * 16 + b.toNat / 16, b.toNat % 16 * 4 + c.toNat / 64, c.toNat % 64]
  | _ => []

theorem ofNat_eq {n : Nat} (h : n = b.toNat) : UInt8.ofNat n = b := by rw [h, UInt8.ofNat_toNat]

/-- The bytes of a group are those whose values it holds. -/
theorem bytesOfGroup_sextets (h : out.length ≤ 3) : bytesOfGroup (sextets out) = out := by
  match out, h with
  | [], _ => rfl
  | [a], _ =>
    have ha : a.toNat / 4 * 4 + a.toNat % 4 * 16 / 16 = a.toNat := by omega
    simp only [sextets, bytesOfGroup, ofNat_eq ha]
  | [a, b], _ =>
    have hb := b.toNat_lt
    have hfirst : a.toNat / 4 * 4 + (a.toNat % 4 * 16 + b.toNat / 16) / 16 = a.toNat := by omega
    have hsecond : (a.toNat % 4 * 16 + b.toNat / 16) % 16 * 16 + b.toNat % 16 * 4 / 4 = b.toNat := by omega
    simp only [sextets, bytesOfGroup, ofNat_eq hfirst, ofNat_eq hsecond]
  | [a, b, c], _ =>
    have hb := b.toNat_lt
    have hc := c.toNat_lt
    have hfirst : a.toNat / 4 * 4 + (a.toNat % 4 * 16 + b.toNat / 16) / 16 = a.toNat := by omega
    have hsecond : (a.toNat % 4 * 16 + b.toNat / 16) % 16 * 16 + (b.toNat % 16 * 4 + c.toNat / 64) / 4 =
        b.toNat := by omega
    have hthird : (b.toNat % 16 * 4 + c.toNat / 64) % 4 * 64 + c.toNat % 64 = c.toNat := by omega
    simp only [sextets, bytesOfGroup, ofNat_eq hfirst, ofNat_eq hsecond, ofNat_eq hthird]

theorem sextets_bytesOfGroup (h : Whole vs) : sextets (bytesOfGroup vs) = vs := by
  have hlt := h.lt
  have hspare := h.spare
  match vs, h.length_le, h.length_ne with
  | [], _, _ => rfl
  | [p, q], _, _ =>
    simp only [List.forall_mem_cons, List.not_mem_nil, false_implies, implies_true, and_true] at hlt
    simp only [spareBits] at hspare
    simp only [bytesOfGroup, sextets, UInt8.toNat_ofNat', List.cons.injEq, and_true]
    omega
  | [p, q, r], _, _ =>
    simp only [List.forall_mem_cons, List.not_mem_nil, false_implies, implies_true, and_true] at hlt
    simp only [spareBits] at hspare
    simp only [bytesOfGroup, sextets, UInt8.toNat_ofNat', List.cons.injEq, and_true]
    omega
  | [p, q, r, s], _, _ =>
    simp only [List.forall_mem_cons, List.not_mem_nil, false_implies, implies_true, and_true] at hlt
    simp only [bytesOfGroup, sextets, UInt8.toNat_ofNat', List.cons.injEq, and_true]
    omega

theorem whole_sextets (out : List UInt8) : Whole (sextets out) := by
  unfold sextets
  split
  · rename_i a
    have ha := a.toNat_lt
    exact ⟨by simp; omega, by simp, by simp, by simp [spareBits]⟩
  · rename_i a b
    have ha := a.toNat_lt
    have hb := b.toNat_lt
    exact ⟨by simp; omega, by simp, by simp, by simp [spareBits]⟩
  · rename_i a b c
    have ha := a.toNat_lt
    have hb := b.toNat_lt
    have hc := c.toNat_lt
    exact ⟨by simp; omega, by simp, by simp, rfl⟩
  · exact ⟨nofun, by decide, by decide, rfl⟩

/-- Bytes that make up one group are written as its symbols and the padding. -/
theorem encode_short (h : out.length ≤ 3) :
    encode out = (sextets out).map symbol ++ filler (sextets out) := by
  match out, h with
  | [], _ | [a], _ | [a, b], _ | [a, b, c], _ => rfl

/-- More bytes follow group by group. -/
theorem encode_append (h : out.length = 3) (rest : List UInt8) :
    encode (out ++ rest) = (sextets out).map symbol ++ encode rest := by
  match out, h with
  | [a, b, c], _ => rfl

theorem encode_eq_nil : encode out = [] ↔ out = [] := by
  match out with
  | [] | [_] | [_, _] | _ :: _ :: _ :: _ => simp [encode]

theorem length_encode_mod (out : List UInt8) : (encode out).length % 4 = 0 := by
  induction out using encode.induct with
  | case1 => rfl
  | case2 | case3 => simp [encode]
  | case4 a b c rest ih =>
    simp only [encode, List.length_cons]
    omega

/-! ## Reading -/

/-- The symbols of a group end where its padding starts. -/
theorem span_group (hvs : ∀ v ∈ vs, v < 64) (k : Nat) :
    (vs.map symbol ++ List.replicate k pad).takeWhile (· ≠ pad) = vs.map symbol ∧
      (vs.map symbol ++ List.replicate k pad).dropWhile (· ≠ pad) = List.replicate k pad := by
  have hsymbols : ∀ b ∈ vs.map symbol, decide (b ≠ pad) = true := by
    simp only [List.mem_map, forall_exists_index, and_imp, forall_apply_eq_imp_iff₂, decide_eq_true_iff]
    exact fun v hv => symbol_ne_pad (hvs v hv)
  rw [List.takeWhile_append_of_pos hsymbols, List.dropWhile_append_of_pos hsymbols]
  simp

theorem decodeLast_whole (h : Whole vs) :
    decodeLast position (vs.map symbol ++ filler vs) = .ok (bytesOfGroup vs) := by
  have hlength := h.length_le
  have hne := h.length_ne
  obtain ⟨hsymbols, hpads⟩ := span_group h.lt ((4 - vs.length) % 4)
  simp only [decodeLast, filler, hsymbols, hpads, bind_eq_ok, values_eq_ok, throw, throwThe,
    MonadExceptOf.throw, ite_error_eq_ok, pure_eq_ok]
  refine ⟨vs, ⟨h.lt, rfl⟩, ?_, ?_, ?_, not_not_intro h.spare, rfl⟩
  · rintro ⟨hfilled, hshort | hother⟩
    · rw [Ne, List.replicate_eq_nil_iff] at hfilled
      rw [List.length_map] at hshort
      omega
    · simp at hother
  · rintro ⟨hfilled, hshort⟩
    rw [List.length_map] at hshort
    rw [List.eq_nil_of_length_eq_zero (by omega : vs.length = 0)] at hfilled
    exact hfilled rfl
  · rw [List.length_append, List.length_map, List.length_replicate]
    omega

theorem whole_of_decodeLast (hlength : group.length ≤ 4) (h : decodeLast position group = .ok out) :
    ∃ vs, Whole vs ∧ group = vs.map symbol ++ filler vs ∧ out = bytesOfGroup vs := by
  simp only [decodeLast, bind_eq_ok, values_eq_ok, throw, throwThe, MonadExceptOf.throw, ite_error_eq_ok,
    pure_eq_ok] at h
  obtain ⟨vs, ⟨hlt, hsymbols⟩, hfiller, hshort, hpadding, hspare, hout⟩ := h
  have hgroup := List.takeWhile_append_dropWhile (p := fun b => decide (b ≠ pad)) (l := group)
  generalize group.dropWhile (fun b => decide (b ≠ pad)) = rest at hgroup hfiller
  rw [hsymbols] at hgroup hfiller hshort
  subst hgroup
  simp only [List.length_map, List.length_append] at hfiller hshort hpadding hlength
  have hrest : ∀ b ∈ rest, b = pad := by
    intro b hb
    apply Decidable.byContradiction
    intro hne
    exact hfiller ⟨List.ne_nil_of_mem hb, .inr (List.any_eq_true.mpr ⟨b, hb, decide_eq_true hne⟩)⟩
  -- Fewer than two symbols are refused, but where there is nothing at all.
  have hcount : vs.length < 2 → vs.length = 0 ∧ rest.length = 0 := by
    intro hfew
    have hnil := Decidable.byContradiction fun hne => hshort ⟨hne, hfew⟩
    obtain ⟨hvs, rfl⟩ := List.append_eq_nil_iff.mp hnil
    exact ⟨List.length_eq_zero_iff.mpr (List.map_eq_nil_iff.mp hvs), rfl⟩
  refine ⟨vs, ⟨hlt, by omega, by omega, Decidable.not_not.mp hspare⟩, ?_, hout.symm⟩
  rw [filler, List.eq_replicate_iff.mpr ⟨rfl, hrest⟩, show (4 - vs.length) % 4 = rest.length by omega]

/-- The last group is read as bytes just if it is their written form. -/
theorem decodeLast_eq_ok (hlength : group.length ≤ 4) :
    decodeLast position group = .ok out ↔ group = encode out := by
  constructor
  · intro h
    obtain ⟨vs, hwhole, rfl, rfl⟩ := whole_of_decodeLast hlength h
    have hshort : (bytesOfGroup vs).length ≤ 3 := by
      unfold bytesOfGroup
      split <;> simp
    rw [encode_short hshort, sextets_bytesOfGroup hwhole]
  · rintro rfl
    have hshort : out.length ≤ 3 := by
      match out, hlength with
      | [], _ | [_], _ | [_, _], _ | [_, _, _], _ => simp
      | a :: b :: c :: d :: rest, hlength =>
        simp only [encode, List.length_cons] at hlength
        have hnil : encode (d :: rest) = [] := List.eq_nil_of_length_eq_zero (by omega)
        cases encode_eq_nil.mp hnil
    rw [encode_short hshort, decodeLast_whole (whole_sextets out), bytesOfGroup_sextets hshort]

theorem whole_of_full (hlt : ∀ v ∈ vs, v < 64) (hlength : vs.length = 4) :
    Whole vs ∧ (bytesOfGroup vs).length = 3 := by
  match vs, hlength with
  | [p, q, r, s], _ => exact ⟨⟨hlt, by simp, by simp, rfl⟩, rfl⟩

theorem decodeGroups_eq_ok : decodeGroups position text = .ok out ↔ text = encode out := by
  induction position, text using decodeGroups.induct generalizing out with
  | case1 position a b c d e rest ih =>
    -- A group with more behind it is full: four symbols for three bytes.
    rw [decodeGroups]
    simp only [bind_eq_ok, pure_eq_ok, values_eq_ok, ih]
    constructor
    · rintro ⟨vs, ⟨hlt, hgroup⟩, more, hmore, rfl⟩
      have hlength : vs.length = 4 := by rw [← vs.length_map symbol, ← hgroup]; rfl
      obtain ⟨hwhole, hbytes⟩ := whole_of_full hlt hlength
      rw [encode_append hbytes, sextets_bytesOfGroup hwhole, ← hgroup, ← hmore]
      rfl
    · intro h
      match out, h with
      | x :: y :: z :: more, h =>
        simp only [encode, List.cons.injEq] at h
        obtain ⟨rfl, rfl, rfl, rfl, hmore⟩ := h
        refine ⟨sextets [x, y, z], ⟨(whole_sextets _).lt, rfl⟩, more, hmore, ?_⟩
        rw [bytesOfGroup_sextets (by simp)]
        rfl
  | case2 position group hshort =>
    rw [decodeGroups]
    · refine decodeLast_eq_ok ?_
      match group, hshort with
      | [], _ | [_], _ | [_, _], _ | [_, _, _], _ | [_, _, _, _], _ => simp
      | a :: b :: c :: d :: e :: rest, hshort => exact (hshort a b c d e rest rfl).elim
    · exact hshort

/-- A text is read as bytes just if it is their written form. -/
theorem decode_eq_ok : decode text = .ok out ↔ text = encode out := by
  unfold decode
  split
  · rename_i b hstray
    refine ⟨nofun, ?_⟩
    -- A written form fills its groups, so no byte is left over.
    rintro rfl
    rw [strayByte?, if_neg (by rw [length_encode_mod]; decide)] at hstray
    cases hstray
  · exact decodeGroups_eq_ok

/-! ## The bytes of a written form -/

theorem mem_encode (h : b ∈ encode out) : b = pad ∨ ∃ n, b = symbol n := by
  induction out using encode.induct with
  | case1 => cases h
  | case2 | case3 =>
    simp only [encode, List.mem_cons, List.not_mem_nil, or_false] at h
    rcases h with rfl | rfl | rfl | rfl <;> first | exact .inl rfl | exact .inr ⟨_, rfl⟩
  | case4 a b c rest ih =>
    simp only [encode, List.mem_cons] at h
    rcases h with rfl | rfl | rfl | rfl | h
    · exact .inr ⟨_, rfl⟩
    · exact .inr ⟨_, rfl⟩
    · exact .inr ⟨_, rfl⟩
    · exact .inr ⟨_, rfl⟩
    · exact ih h

theorem visible_symbol (n : Nat) : 33 ≤ (symbol n).toNat ∧ (symbol n).toNat < 127 := by
  unfold symbol
  split
  · simp only [UInt8.toNat_ofNat']
    omega
  · split
    · simp only [UInt8.toNat_ofNat']
      omega
    · split
      · simp only [UInt8.toNat_ofNat']
        omega
      · split <;> decide

/-- A text in base 64 is visible. -/
theorem visible_encode : ∀ b ∈ encode out, 33 ≤ b.toNat ∧ b.toNat < 127 := by
  intro b hb
  rcases mem_encode hb with rfl | ⟨n, rfl⟩
  · decide
  · exact visible_symbol n

end BlobDisk.Base64
