import BlobDisk.Record.Rules

/-!
# When a record passes

* `Rules.length_eq_ok`, `Rules.deviceName_eq_ok`, `Rules.lookupName_eq_ok`, `Rules.accountKey_eq_ok`: the
  rules for single texts;
* `Rules.lookupName_of_deviceName`: the name of a new disk can be looked up;
* `Record.checkIdentity_eq_ok`, `Record.checkPlacement_eq_ok`: the rules for records;
* `Record.checkFields_iff`, `Record.checkFields_eq_ok`: a record passes under its own path, with sectors and
  with a lease, and only its host is filled in.
-/

namespace BlobDisk

namespace Rules

variable {name : String}

theorem length_eq_ok {limit : Nat} {text : String} {v : Violation} :
    length limit text v = .ok () ↔ text ≠ "" ∧ text.utf8ByteSize ≤ limit := by
  simp [length, String.utf8ByteSize_eq_zero_iff]

theorem isDeviceName_iff {text : List Char} : isDeviceName text = true ↔
    ∃ first rest, text = first :: rest ∧ first.isAlpha = true ∧ ∀ c ∈ rest, c.isAlphanum = true := by
  cases text with
  | nil => simp [isDeviceName]
  | cons first rest =>
    simp only [isDeviceName, Bool.and_eq_true, List.all_eq_true]
    constructor
    · exact fun h => ⟨first, rest, rfl, h⟩
    · rintro ⟨_, _, ⟨⟩, h⟩
      exact h

theorem deviceName_eq_ok (h : deviceName name = .ok ()) :
    name.utf8ByteSize ≤ 32 ∧ ∃ first rest, name.toList = first :: rest ∧ first.isAlpha = true ∧
      ∀ c ∈ rest, c.isAlphanum = true := by
  simp only [deviceName, check_eq_ok, length_eq_ok] at h
  obtain ⟨⟨-, hlength⟩, hchars⟩ := h
  refine ⟨hlength, ?_⟩
  split at hchars
  · exact isDeviceName_iff.mp ‹_›
  · cases hchars

theorem accountKey_eq_ok {key : String} (h : accountKey key = .ok ()) :
    ∃ bytes, Base64.decode (Utf8.encode key.toList) = .ok bytes := by
  simp only [accountKey, check_eq_ok, keyBytes] at h
  cases hd : Base64.decode (Utf8.encode key.toList) with
  | ok bytes => exact ⟨bytes, rfl⟩
  | error fault =>
    rw [hd] at h
    cases h.2

theorem keyBytes_of_accountKey {key : String} (h : accountKey key = .ok ()) :
    ∃ bytes, keyBytes key = .ok bytes := by
  obtain ⟨bytes, hbytes⟩ := accountKey_eq_ok h
  exact ⟨bytes, by rw [keyBytes, hbytes]⟩

theorem ne_of_accountKey {key : String} (h : accountKey key = .ok ()) : key ≠ "" := by
  simp only [accountKey, check_eq_ok, length_eq_ok] at h
  exact h.1.1

theorem lookupName_eq_ok : lookupName name = .ok () ↔
    (name ≠ "" ∧ name.utf8ByteSize ≤ Record.nameLimit) ∧ isLookupName name.toList = true := by
  simp only [lookupName, check_eq_ok, length_eq_ok]
  refine and_congr_right fun _ => ?_
  split
  · exact iff_of_true rfl ‹_›
  · exact iff_of_false nofun ‹_›

/-- The name of a new disk can be looked up. -/
theorem lookupName_of_deviceName (h : deviceName name = .ok ()) : lookupName name = .ok () := by
  have hlimit : name ≠ "" ∧ name.utf8ByteSize ≤ Record.nameLimit := by
    simp only [deviceName, check_eq_ok, length_eq_ok] at h
    exact h.1
  obtain ⟨-, first, rest, hname, hfirst, hrest⟩ := deviceName_eq_ok h
  refine lookupName_eq_ok.mpr ⟨hlimit, ?_⟩
  simp only [isLookupName, hname, ne_eq, reduceCtorEq, not_false_eq_true, decide_true, Bool.true_and,
    List.all_cons, Char.isAlphanum, hfirst, Bool.true_or, List.all_eq_true, Bool.or_eq_true]
  exact fun c hc => .inl (by simpa [Char.isAlphanum] using hrest c hc)

/-- Letters, digits and dots are all that a name to look up can hold. -/
theorem notMem_of_lookupName (h : lookupName name = .ok ()) {c : Char} (hc : c.isAlphanum = false)
    (hdot : c ≠ '.') : c ∉ name.toList := by
  intro hmem
  have hname := (lookupName_eq_ok.mp h).2
  simp only [isLookupName, Bool.and_eq_true, List.all_eq_true] at hname
  simpa [hc, hdot] using hname.2 c hmem

end Rules

namespace Record

variable {r r' : Record} {blob : BlobPath} {domain : String}

theorem checkIdentity_eq_ok : r.checkIdentity = .ok blob ↔
    Rules.deviceName r.name = .ok () ∧ r.sectorCount ≠ 0 ∧ (r.sizeGb ≠ 0 → r.sizesAgree = true) ∧
      (r.accountName ≠ "" ∧ r.accountName.utf8ByteSize ≤ accountNameLimit) ∧
      Rules.accountKey r.accountKey = .ok () ∧ BlobPath.parse r.path = .ok blob := by
  simp only [checkIdentity, check_eq_ok, guard_eq_ok, Rules.length_eq_ok]
  simp only [ne_eq, not_and, Bool.not_eq_false]

theorem checkPlacement_eq_ok : r.checkPlacement = .ok () ↔
    r.host.utf8ByteSize ≤ hostLimit ∧ r.leaseId ≠ "" ∧ r.leaseId.utf8ByteSize ≤ leaseIdLimit := by
  simp only [checkPlacement, guard_eq_ok, Rules.length_eq_ok, Nat.not_lt]

theorem fillHost_eq (r : Record) (domain : String) : ∃ host, r.fillHost domain = { r with host } := by
  unfold fillHost
  split
  · exact ⟨_, rfl⟩
  · exact ⟨r.host, rfl⟩

/-- The rules before the host leave the host and the address open. -/
theorem checkIdentity_placed (r : Record) (host ip : String) :
    { r with host, ip }.checkIdentity = r.checkIdentity := rfl

/-- The rules for the host and the lease leave the address open. -/
theorem checkPlacement_addressed (r : Record) (ip : String) :
    { r with ip }.checkPlacement = r.checkPlacement := rfl

theorem checkFields_iff : r.checkFields domain = (r', .ok blob) ↔
    r.checkIdentity = .ok blob ∧ r' = r.fillHost domain ∧ r'.checkPlacement = .ok () := by
  unfold checkFields
  cases hi : r.checkIdentity with
  | error e => simp
  | ok b =>
    simp only [Prod.mk.injEq, map_eq_ok, Except.ok.injEq]
    constructor
    · rintro ⟨rfl, ⟨⟩, hplace, rfl⟩
      exact ⟨rfl, rfl, hplace⟩
    · rintro ⟨rfl, rfl, hplace⟩
      exact ⟨rfl, (), hplace, rfl⟩

/-- A record that passes has sectors and a lease, and is as it was but for its host. -/
theorem checkFields_eq_ok (h : r.checkFields domain = (r', .ok blob)) :
    BlobPath.parse r.path = .ok blob ∧ r.sectorCount ≠ 0 ∧ r.leaseId ≠ "" ∧
      ∃ host, r' = { r with host } := by
  obtain ⟨host, hhost⟩ := r.fillHost_eq domain
  obtain ⟨hi, rfl, hplace⟩ := checkFields_iff.mp h
  obtain ⟨-, hsectors, -, -, -, hpath⟩ := checkIdentity_eq_ok.mp hi
  rw [hhost] at hplace ⊢
  obtain ⟨-, hlease, -⟩ := checkPlacement_eq_ok.mp hplace
  exact ⟨hpath, hsectors, hlease, host, rfl⟩

end Record

end BlobDisk
