import Mathlib.Data.List.Basic
import BlobDisk.Proofs.Record.Path
import BlobDisk.Proofs.Record.Rules
import BlobDisk.Proofs.Text.Base64

/-!
# What a check says of a record

* `Rule`, `Refused`: rules in order, and the complaint about the first that does not hold;
* `Judges`: a check that says what rules say; `Judges.bind`: checks in sequence, and their rules;
* `Record.fieldRules`: the rules for the fields of a record;
* `Record.checkFields_exact`: a record passes just if it keeps them all, is refused for the first that it
  breaks, changes only in a host that it lacks, and passes again as it is once it has passed.
-/

namespace BlobDisk

/-! ## Rules -/

/-- Something that has to hold, and what is said if it does not. -/
structure Rule where
  holds : Prop
  complaint : String

/-- The error is the complaint about the first of the rules that does not hold. -/
inductive Refused : List Rule → Error → Prop
  | here {rule : Rule} {rules : List Rule} (hbroken : ¬ rule.holds) :
      Refused (rule :: rules) (.validation rule.complaint)
  | later {rule : Rule} {rules : List Rule} {e : Error} (hkept : rule.holds) (hrest : Refused rules e) :
      Refused (rule :: rules) e

variable {rules rules' : List Rule} {e e' : Error}

namespace Refused

theorem append (h : Refused rules e) (rules' : List Rule) : Refused (rules ++ rules') e := by
  induction h with
  | here hbroken => exact .here hbroken
  | later hkept _ ih => exact .later hkept ih

theorem behind (hkept : ∀ rule ∈ rules, rule.holds) (h : Refused rules' e) : Refused (rules ++ rules') e := by
  induction rules with
  | nil => exact h
  | cons rule rules ih =>
    obtain ⟨hrule, hrules⟩ := List.forall_mem_cons.mp hkept
    exact .later hrule (ih hrules)

theorem not_forall (h : Refused rules e) : ¬ ∀ rule ∈ rules, rule.holds := by
  intro hkept
  induction h with
  | here hbroken => exact hbroken (hkept _ List.mem_cons_self)
  | later _ _ ih => exact ih (List.forall_mem_cons.mp hkept).2

/-- There is one complaint at most. -/
theorem unique (h : Refused rules e) (h' : Refused rules e') : e = e' := by
  induction h with
  | here hbroken =>
    cases h' with
    | here => rfl
    | later hkept => exact (hbroken hkept).elim
  | later hkept _ ih =>
    cases h' with
    | here hbroken => exact (hbroken hkept).elim
    | later _ hrest => exact ih hrest

end Refused

/-! ## Checks -/

/-- A check that says what the rules say, with a result that is as `post` has it. -/
structure Judges {α : Type} (rules : List Rule) (x : Except Error α) (post : α → Prop) : Prop where
  passes : ∀ a, x = .ok a → (∀ rule ∈ rules, rule.holds) ∧ post a
  refuses : ∀ e, x = .error e → Refused rules e

namespace Judges

variable {α β : Type} {x : Except Error α} {f : α → Except Error β}
  {post : α → Prop} {post' : β → Prop}

theorem error_iff (h : Judges rules x post) : x = .error e ↔ Refused rules e := by
  refine ⟨h.refuses e, fun hrefused => ?_⟩
  cases hx : x with
  | ok a => exact (hrefused.not_forall (h.passes a hx).1).elim
  | error e' => rw [(h.refuses e' hx).unique hrefused]

theorem ok_iff (h : Judges rules x post) (hunique : ∀ a b, post a → post b → a = b) {a : α} :
    x = .ok a ↔ (∀ rule ∈ rules, rule.holds) ∧ post a := by
  refine ⟨h.passes a, fun ⟨hkept, ha⟩ => ?_⟩
  cases hx : x with
  | ok b => rw [hunique b a (h.passes b hx).2 ha]
  | error e => exact ((h.refuses e hx).not_forall hkept).elim

theorem bind (hx : Judges rules x post) (hf : ∀ a, post a → Judges rules' (f a) post') :
    Judges (rules ++ rules') (x >>= f) post' where
  passes b h := by
    obtain ⟨a, ha, hb⟩ := bind_eq_ok.mp h
    obtain ⟨hrules, hpost⟩ := hx.passes a ha
    obtain ⟨hrules', hpost'⟩ := (hf a hpost).passes b hb
    exact ⟨List.forall_mem_append.mpr ⟨hrules, hrules'⟩, hpost'⟩
  refuses e h := by
    rcases bind_eq_error.mp h with h | ⟨a, ha, h⟩
    · exact (hx.refuses e h).append rules'
    · obtain ⟨hrules, hpost⟩ := hx.passes a ha
      exact .behind hrules ((hf a hpost).refuses e h)

theorem ok {a : α} (h : post a) : Judges [] (.ok a) post where
  passes b hb := by
    obtain rfl := Except.ok.inj hb
    exact ⟨List.forall_mem_nil _, h⟩
  refuses e he := nomatch he

/-- A step that only refuses. -/
theorem guard {rule : Rule} {c : Prop} [Decidable c] {y : Except Error β} (hrule : rule.holds ↔ ¬ c)
    (hy : Judges rules y post') :
    Judges (rule :: rules) (if c then .error (.validation rule.complaint) else y) post' where
  passes b h := by
    obtain ⟨hc, hb⟩ := ite_error_eq_ok.mp h
    obtain ⟨hrules, hpost⟩ := hy.passes b hb
    exact ⟨List.forall_mem_cons.mpr ⟨hrule.mpr hc, hrules⟩, hpost⟩
  refuses e h := by
    split at h
    · rename_i hc
      obtain rfl := Except.error.inj h
      exact .here fun hkept => hrule.mp hkept hc
    · rename_i hc
      exact .later (hrule.mpr hc) (hy.refuses e h)

theorem single {rule : Rule} (hok : ∀ a, x = .ok a → rule.holds)
    (herror : ∀ e, x = .error e → ¬ rule.holds ∧ e = .validation rule.complaint) :
    Judges [rule] x fun _ => True where
  passes a h := ⟨List.forall_mem_singleton.mpr (hok a h), trivial⟩
  refuses e h := by
    obtain ⟨hbroken, rfl⟩ := herror e h
    exact .here hbroken

end Judges

/-! ## The rules for fields -/

/-- A text of at least one byte and at most `limit`. -/
def Rule.sized (limit : Nat) (text complaint : String) : Rule :=
  ⟨1 ≤ text.utf8ByteSize ∧ text.utf8ByteSize ≤ limit, complaint⟩

namespace Record

/-- A name is a letter, then letters and digits. -/
def nameRules (name : String) : List Rule := [
  .sized 32 name "Invalid name. Only max of(32) chars",
  ⟨∃ first rest, name.toList = first :: rest ∧ first.isAlpha = true ∧ ∀ c ∈ rest, c.isAlphanum = true,
    "Invalid device name. alpha+numbers allowed. must start with alpha"⟩]

/-- What is said of a key that is not in base 64. -/
def keyComplaint (key : String) : String :=
  match Base64.decode (Utf8.encode key.toList) with
  | .ok _ => ""
  | .error fault => "Invalid account key. Must be a base64 encoded string. Error:" ++ fault.message

/-- A key is bytes written in base 64. -/
def keyRules (key : String) : List Rule := [
  .sized 128 key "Invalid Account Key. Must be <= 128",
  ⟨∃ bytes, Utf8.encode key.toList = Base64.encode bytes, keyComplaint key⟩]

/-- A path is a slash, a container, a slash and a name. -/
def pathRules (path : String) : List Rule := [
  .sized 1024 path "Invalid path. Must be <= 1024",
  ⟨path.toList.count '/' = 2, "too many forward slashes in dysk path"⟩,
  ⟨∃ container name : String, container ≠ "" ∧ name ≠ "" ∧ path = "/" ++ container ++ "/" ++ name,
    "Invalid path " ++ path ++ ". Must be /container/blob"⟩]

/-- The sectors are those of the size in gigabytes, where there is one. -/
def sizeRules (r : Record) : List Rule := [
  ⟨0 < r.sectorCount.toNat, "Invalid Sector count."⟩,
  ⟨r.sizeGb = 0 ∨ r.sizesAgree = true, "Invalid Sector count. " ++ toString r.sectorCount.toNat
    ++ " sectors do not match " ++ toString r.sizeGb.toNat ++ "GB"⟩]

/-- The host of a record, or else that of its account in the domain. -/
def hostIn (domain : String) (r : Record) : String :=
  if r.host = "" then r.accountName ++ "." ++ domain else r.host

/-- The rules for the fields of a record, in order. -/
def fieldRules (domain : String) (r : Record) : List Rule :=
  nameRules r.name ++ r.sizeRules ++
    [.sized 256 r.accountName "Invalid Account name. Must be <= than 256"] ++
    keyRules r.accountKey ++ pathRules r.path ++
    [⟨(r.hostIn domain).utf8ByteSize ≤ 512, "Invalid host. Must be <= 512"⟩,
      .sized 64 r.leaseId "Invalid Lease Id. Must be <= 64"]

end Record

/-! ## Single texts -/

namespace Rules

theorem judges_length (limit : Nat) (text : String) (v : Violation) :
    Judges [.sized limit text v.message] (length limit text v) fun _ => True :=
  .guard (by dsimp only [Rule.sized]; omega) (.ok trivial)

theorem judges_deviceName (name : String) : Judges (Record.nameRules name) (deviceName name) fun _ => True := by
  refine (judges_length 32 name .nameLength).bind fun _ _ => ?_
  rw [← ite_not]
  exact .guard (isDeviceName_iff.symm.trans Decidable.not_not.symm) (.ok trivial)

theorem judges_accountKey (key : String) : Judges (Record.keyRules key) (accountKey key) fun _ => True := by
  refine (judges_length 128 key .keyLength).bind fun _ _ => ?_
  cases hdecode : Base64.decode (Utf8.encode key.toList) with
  | ok bytes =>
    have hkey : keyBytes key = .ok bytes := by rw [keyBytes, hdecode]
    rw [hkey]
    refine .single (fun _ _ => ?_) fun e h => ?_
    · exact ⟨bytes, Base64.decode_eq_ok.mp hdecode⟩
    · cases h
  | error fault =>
    have hkey : keyBytes key = .error (Violation.keyEncoding fault).error := by rw [keyBytes, hdecode]
    rw [hkey]
    refine .single (fun _ h => ?_) fun e h => ?_
    · cases h
    · obtain rfl := Except.error.inj h
      refine ⟨?_, ?_⟩
      · rintro ⟨bytes, hbytes⟩
        rw [Base64.decode_eq_ok.mpr hbytes] at hdecode
        cases hdecode
      · dsimp only
        rw [Record.keyComplaint, hdecode]
        rfl

end Rules

theorem BlobPath.judges_parse (path : String) :
    Judges (Record.pathRules path) (parse path) fun blob => path = blob.text ∧ blob.Addressable where
  passes blob h := by
    obtain ⟨rfl, hblob⟩ := parse_eq_ok_iff.mp h
    have hpos := mt String.utf8ByteSize_eq_zero_iff.mp (text_ne_empty (b := blob))
    refine ⟨?_, rfl, hblob⟩
    simp only [Record.pathRules, Rule.sized, List.forall_mem_cons]
    exact ⟨⟨Nat.pos_of_ne_zero hpos, hblob.length⟩, count_text hblob.container_slash hblob.name_slash,
      ⟨blob.container, blob.name, hblob.container_ne, hblob.name_ne, rfl⟩, nofun⟩
  refuses e h := by
    have hparse := h
    unfold parse at h
    split at h
    · rename_i hlength
      obtain rfl := Except.error.inj h
      refine .here fun ⟨hpos, hmost⟩ => ?_
      rcases hlength with hempty | hlong
      · obtain rfl := String.isEmpty_iff.mp hempty
        exact Nat.not_succ_le_zero 0 hpos
      · exact Nat.not_le_of_lt hlong hmost
    · rename_i hlength
      obtain ⟨hne, hmost⟩ := not_or.mp hlength
      have hpos := mt String.utf8ByteSize_eq_zero_iff.mp (mt String.isEmpty_iff.mpr hne)
      refine .later ⟨Nat.pos_of_ne_zero hpos, Nat.le_of_not_lt hmost⟩ ?_
      have hcount := Pieces.length_split '/' path.toList
      split at h
      · rename_i start container name hsplit
        rw [hsplit] at hcount
        have hslashes : path.toList.count '/' = 2 := Nat.succ.inj hcount.symm
        refine .later hslashes ?_
        split at h
        · cases h
        · obtain rfl := Except.error.inj h
          refine .here fun ⟨container, name, hcontainer, hname, htext⟩ => ?_
          -- A path of that form would have been read.
          have hblob : path = (BlobPath.mk container name).text := htext
          obtain ⟨hcontainer', hname'⟩ := notMem_of_count (hblob ▸ hslashes)
          rw [parse_eq_ok_iff.mpr ⟨hblob, hcontainer, hcontainer', hname, hname',
            hblob ▸ Nat.le_of_not_lt hmost⟩] at hparse
          cases hparse
      · rename_i hpieces
        obtain rfl := Except.error.inj h
        refine .here fun hslashes => ?_
        rw [hslashes, List.length_eq_three] at hcount
        obtain ⟨start, container, name, hsplit⟩ := hcount
        exact hpieces start container name hsplit

/-! ## Records -/

namespace Record

variable {domain : String} {r r' : Record} {blob : BlobPath}

theorem fillHost_hostIn (domain : String) (r : Record) :
    r.fillHost domain = { r with host := r.hostIn domain } := by
  unfold fillHost hostIn
  split <;> rfl

theorem checkFields_snd (domain : String) (r : Record) : (r.checkFields domain).2 =
    r.checkIdentity >>= fun blob => (r.fillHost domain).checkPlacement >>= fun _ => .ok blob := by
  unfold checkFields
  cases r.checkIdentity with
  | error e => rfl
  | ok blob => cases (r.fillHost domain).checkPlacement <;> rfl

/-- The rules for the fields before the host. -/
theorem judges_checkIdentity (r : Record) :
    Judges (nameRules r.name ++ (r.sizeRules ++
        (.sized 256 r.accountName "Invalid Account name. Must be <= than 256" ::
          (keyRules r.accountKey ++ pathRules r.path))))
      r.checkIdentity fun blob => r.path = blob.text ∧ blob.Addressable := by
  refine (Rules.judges_deviceName r.name).bind fun _ _ => ?_
  have hsectors : 0 < r.sectorCount.toNat ↔ ¬ r.sectorCount = 0 := by
    rw [Nat.pos_iff_ne_zero, ← UInt64.toNat_inj]
    rfl
  have hsizes : r.sizeGb = 0 ∨ r.sizesAgree = true ↔ ¬ (r.sizeGb ≠ 0 ∧ r.sizesAgree = false) := by
    rw [Decidable.not_and_iff_not_or_not, Decidable.not_not, Bool.not_eq_false]
  refine .guard hsectors (.guard hsizes ?_)
  refine (Rules.judges_length 256 r.accountName .accountName).bind fun _ _ => ?_
  refine (Rules.judges_accountKey r.accountKey).bind fun _ _ => ?_
  exact BlobPath.judges_parse r.path

theorem judges_checkPlacement (r : Record) :
    Judges [⟨r.host.utf8ByteSize ≤ 512, "Invalid host. Must be <= 512"⟩,
      .sized 64 r.leaseId "Invalid Lease Id. Must be <= 64"] r.checkPlacement fun _ => True :=
  .guard Nat.not_lt.symm (Rules.judges_length 64 r.leaseId .leaseId)

theorem judges_checkFields (domain : String) (r : Record) :
    Judges (r.fieldRules domain) (r.checkFields domain).2
      fun blob => r.path = blob.text ∧ blob.Addressable := by
  rw [checkFields_snd, fillHost_hostIn]
  refine r.judges_checkIdentity.bind fun blob hblob => ?_
  refine (judges_checkPlacement { r with host := r.hostIn domain }).bind fun _ _ => ?_
  exact .ok hblob

theorem hostIn_ne_empty (domain : String) (r : Record) : r.hostIn domain ≠ "" := by
  unfold hostIn
  split
  · rw [Ne, String.append_eq_empty_iff, String.append_eq_empty_iff]
    exact fun h => absurd h.1.2 (by decide)
  · assumption

/-- A check leaves the host alone or fills it in. -/
theorem checkFields_fst (domain : String) (r : Record) :
    (r.checkFields domain).1 = r ∨ (r.checkFields domain).1 = { r with host := r.hostIn domain } := by
  rw [← fillHost_hostIn]
  unfold checkFields
  cases r.checkIdentity with
  | error e => exact .inl rfl
  | ok blob => exact .inr rfl

/-- A record that has passed has a host, which no domain changes. -/
theorem checkFields_again (h : r.checkFields domain = (r', .ok blob)) (domain' : String) :
    r'.checkFields domain' = (r', .ok blob) := by
  obtain ⟨hidentity, hfilled, hplacement⟩ := checkFields_iff.mp h
  rw [fillHost_hostIn] at hfilled
  have hhost : r'.host ≠ "" := hfilled ▸ hostIn_ne_empty domain r
  refine checkFields_iff.mpr ⟨?_, ?_, hplacement⟩
  · rw [hfilled]
    exact (checkIdentity_placed r _ r.ip).trans hidentity
  · rw [fillHost, if_neg hhost]

/-- A record passes just if it keeps all rules, and then under the blob of its path. It is refused with the
complaint about the first rule that it breaks. Nothing changes but a host that it lacks, and once it has
passed it passes again as it is, in any domain. -/
theorem checkFields_exact (domain : String) (r : Record) :
    (∀ blob, (r.checkFields domain).2 = .ok blob ↔
        (∀ rule ∈ r.fieldRules domain, rule.holds) ∧ r.path = blob.text ∧ blob.Addressable) ∧
      (∀ e, (r.checkFields domain).2 = .error e ↔ Refused (r.fieldRules domain) e) ∧
      (∃ host, (r.checkFields domain).1 = { r with host } ∧
        (host = r.host ∨ r.host = "" ∧ host = r.accountName ++ "." ++ domain)) ∧
      ∀ r' blob, r.checkFields domain = (r', .ok blob) →
        ∀ domain', r'.checkFields domain' = (r', .ok blob) := by
  have hjudges := judges_checkFields domain r
  refine ⟨fun blob => ?_, fun e => hjudges.error_iff, ?_, fun r' blob => checkFields_again⟩
  · refine hjudges.ok_iff fun a b ha hb => ?_
    exact Except.ok.inj ((BlobPath.parse_eq_ok_iff.mpr ha).symm.trans (BlobPath.parse_eq_ok_iff.mpr hb))
  · rcases checkFields_fst domain r with h | h
    · exact ⟨r.host, h, .inl rfl⟩
    · refine ⟨r.hostIn domain, h, ?_⟩
      unfold hostIn
      split
      · exact .inr ⟨‹_›, rfl⟩
      · exact .inl rfl

/-- A disk of one gigabyte without a host. -/
def hostless : Record where
  name := "disk"
  sectorCount := 2097152
  accountName := "account"
  accountKey := "a2V5"
  path := "/dysks/disk"
  leaseId := "lease"
  sizeGb := 1

theorem checkFields_exact_hostless :
    ∃ r', hostless.checkFields defaultDomain = (r', .ok ⟨"dysks", "disk"⟩) ∧
    r'.host = "account.blob.core.windows.net" ∧
    ∀ domain, r'.checkFields domain = (r', .ok ⟨"dysks", "disk"⟩) := by
  obtain ⟨-, -, -, hagain⟩ := checkFields_exact defaultDomain hostless
  exact ⟨_, rfl, rfl, hagain _ _ rfl⟩

end Record

end BlobDisk
