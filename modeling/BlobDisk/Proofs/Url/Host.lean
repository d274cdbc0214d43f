import BlobDisk.Proofs.Text.Pieces
import BlobDisk.Proofs.Text.Spelling
import BlobDisk.Proofs.Text.Utf8
import BlobDisk.Url.Host

/-!
# What hosts are spelled with

A host that was read holds no character at which a host ends, so the address that it stands in is read with
the same host again.

* `Punycode.mem_encode`: a label in ASCII holds letters, digits, hyphens and characters of the label;
* `Domain.allowed_ascii?`: a name in ASCII holds no character that no name may hold;
* `Host.inner_of_parse`: a host is not empty, and no character in it ends it.
-/

namespace BlobDisk

/-! ## Labels in ASCII -/

namespace Punycode

variable {c : Char} {label : List Char}

/-- The digits of numbers in labels. -/
def isDigit (c : Char) : Bool := c.isLower || c.isDigit

theorem isDigit_digit : ∀ n < 36, isDigit (digit n) = true := by decide

theorem threshold_le {bias place : Nat} : threshold bias place ≤ 26 := by
  unfold threshold
  omega

theorem isDigit_of_mem_digits {bias place n : Nat} (hc : c ∈ digits bias place n) : isDigit c = true := by
  induction place, n using digits.induct bias with
  | case1 place n t hn =>
    rw [digits, if_pos hn, List.mem_singleton] at hc
    have ht : t ≤ 26 := threshold_le
    exact hc ▸ isDigit_digit n (by omega)
  | case2 place n t hn ih =>
    rw [digits, if_neg hn] at hc
    rcases List.mem_cons.mp hc with rfl | hc
    · have ht : threshold bias place ≤ 26 := threshold_le
      have hmod := Nat.mod_lt (n - threshold bias place) (show 0 < 36 - threshold bias place by omega)
      exact isDigit_digit _ (by omega)
    · exact ih hc

/-- All numbers that were written are written with digits. -/
def Progress.Written (p : Progress) : Prop := ∀ c ∈ p.numbers, isDigit c = true

theorem Progress.Written.past {plain code : Nat} {p : Progress} (h : p.Written) (c : Char) :
    (p.past plain code c).Written := by
  unfold Progress.past
  split
  · exact h
  · split
    · intro d hd
      exact (List.mem_append.mp hd).elim (h d) isDigit_of_mem_digits
    · exact h

theorem Progress.Written.foldl {plain code : Nat} {p : Progress} (h : p.Written) (label : List Char) :
    (label.foldl (Progress.past plain code) p).Written := by
  induction label generalizing p with
  | nil => exact h
  | cons c label ih => exact ih (h.past c)

theorem Progress.Written.pastAll {plain code : Nat} {p : Progress} (h : p.Written) (codes : List Nat) :
    (p.pastAll plain label code codes).Written := by
  induction codes generalizing code p with
  | nil => exact h
  | cons next codes ih =>
    have hstart : Progress.Written { p with delta := p.delta + (next - code) * (p.known + 1) } := h
    exact ih (hstart.foldl label)

/-- A label in ASCII is made of its characters in ASCII, hyphens, lower letters and digits. -/
theorem mem_encode (hc : c ∈ encode label) : c ∈ label ∨ c = '-' ∨ isDigit c = true := by
  unfold encode at hc
  rcases List.mem_append.mp hc with hc | hc
  · rcases List.mem_append.mp hc with hc | hc
    · exact .inl (List.mem_filter.mp hc).1
    · split at hc
      · cases hc
      · exact .inr (.inl (List.mem_singleton.mp hc))
  · have hwritten : Progress.Written ⟨0, firstBias, (label.filter fun c => c.toNat < 128).length, []⟩ := nofun
    exact .inr (.inr (hwritten.pastAll _ c hc))

end Punycode

/-! ## Names -/

namespace Domain

variable {c : Char} {label name out : List Char}

/-- No character of the text is one that no name may hold. -/
def Allowed (text : List Char) : Prop := ∀ c ∈ text, isForbidden c = false

theorem allowed_of_digit (h : Punycode.isDigit c = true) : isForbidden c = false := by
  have hlow : c.toNat < 128 := by
    rcases Bool.or_eq_true_iff.mp h with h | h
    · have hle : c.toNat ≤ 122 := UInt32.le_iff_toNat_le.mp (of_decide_eq_true (Bool.and_eq_true_iff.mp h).2)
      omega
    · have hle : c.toNat ≤ 57 := UInt32.le_iff_toNat_le.mp (of_decide_eq_true (Bool.and_eq_true_iff.mp h).2)
      omega
  exact Utf8.forall_ascii (P := fun c => Punycode.isDigit c = true → isForbidden c = false) (by decide) hlow h

theorem allowed_form? (h : form? name = some out) : Allowed out := by
  simp only [form?, Option.bind_eq_bind, Option.bind_eq_some_iff] at h
  obtain ⟨form, -, h⟩ := h
  split at h
  · cases h
  · rename_i hforbidden
    cases h
    intro c hc
    exact Bool.eq_false_iff.mpr fun hbad => hforbidden (List.any_eq_true.mpr ⟨c, hc, hbad⟩)

theorem allowed_encoded? (hlabel : Allowed label) (h : encoded? label = some out) : Allowed out := by
  unfold encoded? at h
  split at h
  · cases h
    exact hlabel
  · split at h
    · cases h
    · cases h
      intro c hc
      rcases List.mem_append.mp hc with hc | hc
      · have hmark : mark.all (fun c => !isForbidden c) = true := by decide
        simpa using List.all_eq_true.mp hmark c hc
      · rcases Punycode.mem_encode hc with hc | rfl | hc
        · exact hlabel c hc
        · decide
        · exact allowed_of_digit hc

theorem allowed_mapM_encoded? {labels outs : List (List Char)} (hlabels : ∀ label ∈ labels, Allowed label)
    (h : labels.mapM encoded? = some outs) : ∀ out ∈ outs, Allowed out := by
  induction labels generalizing outs with
  | nil =>
    cases h
    exact nofun
  | cons label labels ih =>
    obtain ⟨hlabel, hlabels⟩ := List.forall_mem_cons.mp hlabels
    simp only [List.mapM_cons, Option.bind_eq_bind, Option.bind_eq_some_iff, Option.pure_def,
      Option.some.injEq] at h
    obtain ⟨out, hout, outs, houts, rfl⟩ := h
    exact List.forall_mem_cons.mpr ⟨allowed_encoded? hlabel hout, ih hlabels houts⟩

theorem Allowed.intercalate {sep : List Char} {parts : List (List Char)} (hsep : Allowed sep)
    (hparts : ∀ part ∈ parts, Allowed part) : Allowed (sep.intercalate parts) := by
  induction parts with
  | nil => exact nofun
  | cons part parts ih =>
    obtain ⟨hpart, hparts⟩ := List.forall_mem_cons.mp hparts
    cases parts with
    | nil =>
      rw [List.intercalate_singleton]
      exact hpart
    | cons next rest =>
      rw [List.intercalate_cons_cons]
      intro c hc
      rcases List.mem_append.mp hc with hc | hc
      · exact (List.mem_append.mp hc).elim (hpart c) (hsep c)
      · exact ih hparts c hc

/-- A name in ASCII holds no character that no name may hold. -/
theorem allowed_ascii? (h : ascii? name = some out) : Allowed out := by
  simp only [ascii?, Option.bind_eq_bind, Option.bind_eq_some_iff] at h
  obtain ⟨form, hform, read, -, h⟩ := h
  split at h
  · simp only [Option.bind_eq_some_iff, Option.pure_def, Option.some.injEq] at h
    obtain ⟨labels, hlabels, rfl⟩ := h
    have hdot : Allowed ['.'] := by
      rw [Allowed, List.forall_mem_singleton]
      decide
    exact hdot.intercalate (allowed_mapM_encoded?
      (Pieces.forall_mem_split fun c hc _ => allowed_form? hform c hc) hlabels)
  · cases h

end Domain

/-! ## Hosts -/

namespace Host

variable {c : Char} {text : List Char} {host : Host}

/-- The character is no blank and ends no part of an address. -/
def isInner (c : Char) : Bool := 0x20 < c.toNat && c ≠ '/' && c ≠ '\\' && c ≠ '?' && c ≠ '#'

/-- The text is not empty, and nothing in it ends it. -/
def Inner (text : List Char) : Prop := text ≠ [] ∧ ∀ c ∈ text, isInner c = true

theorem isInner_of_allowed (h : Domain.isForbidden c = false) : isInner c = true := by
  have hmarks : ∀ d ∈ ['/', '\\', '?', '#'], c ≠ d := by
    rintro d hd rfl
    have hforbidden : ['/', '\\', '?', '#'].all Domain.isForbidden = true := by decide
    rw [List.all_eq_true.mp hforbidden c hd] at h
    cases h
  simp only [List.forall_mem_cons] at hmarks
  obtain ⟨hslash, hback, hquery, hfragment, -⟩ := hmarks
  rw [Domain.isForbidden, Bool.or_eq_false_iff, Bool.or_eq_false_iff, decide_eq_false_iff_not] at h
  rw [isInner, decide_eq_true (Nat.lt_of_not_le h.1.1), decide_eq_true hslash, decide_eq_true hback,
    decide_eq_true hquery, decide_eq_true hfragment]
  rfl

theorem isInner_of_symbol (h : IpAddress.isSymbol c = true) : isInner c = true := by
  have hlow : c.toNat < 128 := by
    simp only [IpAddress.isSymbol, Char.isDigit, Bool.or_eq_true, Bool.and_eq_true, decide_eq_true_eq,
      UInt32.le_iff_toNat_le, ge_iff_le, Char.le_def] at h
    rw [Char.toNat]
    rcases h with ((h | h) | rfl) | rfl
    · simp only [Char.reduceVal, UInt32.reduceToNat] at h
      omega
    · simp only [Char.reduceVal, UInt32.reduceToNat] at h
      omega
    · decide
    · decide
  exact Utf8.forall_ascii (P := fun c => IpAddress.isSymbol c = true → isInner c = true) (by decide) hlow h

theorem inner_address (ip : IpAddress) : Inner (address ip).text.toList := by
  have hsymbols : ∀ c ∈ ip.text.toList, isInner c = true := fun c hc => isInner_of_symbol (ip.spelled_text c hc)
  cases ip with
  | v4 a b c d =>
    refine ⟨fun hempty => ?_, hsymbols⟩
    have hdot : '.' ∈ (IpAddress.v4 a b c d).text.toList := by simp [IpAddress.text, IpAddress.dotted]
    exact List.ne_nil_of_mem hdot hempty
  | v6 groups =>
    have hbrackets : (address (.v6 groups)).text.toList = '[' :: ((IpAddress.v6 groups).text.toList ++ [']']) := by
      simp [Host.text]
    rw [hbrackets]
    refine ⟨List.cons_ne_nil _ _, List.forall_mem_cons.mpr ⟨by decide, fun c hc => ?_⟩⟩
    rcases List.mem_append.mp hc with hc | hc
    · exact hsymbols c hc
    · rw [List.mem_singleton.mp hc]
      decide

/-- A host of the web is not empty, and no character in it ends it. -/
theorem inner_of_parse (h : parse text = .ok host) : Inner host.text.toList := by
  unfold parse at h
  split at h
  · unfold bracketed at h
    split at h
    · split at h
      · cases h
        exact inner_address _
      · cases h
    · cases h
  · split at h
    · cases h
    · cases h
    · rename_i name hempty hname
      split at h
      · split at h
        · cases h
          exact inner_address _
        · cases h
      · cases h
        rw [Host.text, String.toList_ofList]
        exact ⟨fun hnil => hempty hnil, fun c hc => isInner_of_allowed (Domain.allowed_ascii? hname c hc)⟩

end Host

end BlobDisk
