import BlobDisk.Proofs.Sizes

/-!
# The two sizes of a record

A record has its size in gigabytes and in sectors. Each can be worked out from the other, the sectors exactly
and the gigabytes by rounding down, and neither way goes through if the bytes do not fit a word. The sizes
agree when the sectors are those counted from the gigabytes, and then nothing is left to round.

* `Record.sizesAgree_iff`: what it is that the sizes agree;
* `Sizing`: a step that sets sizes of a record;
* `Sizing.perform`: the step in place, one assignment after another, and `Sizing.perform_eq`: it comes to
  what `Record.setSizeGb` and `Record.sizeFromSectors` answer;
* `Sizing.sizes_never_drift`: sizes that agree still agree after any number of steps.
-/

namespace BlobDisk

namespace Record

variable {r r' : Record} {gb : UInt64}

theorem sizesAgree_eq_true : r.sizesAgree = true ↔
    ∃ payload, Size.payloadBytes r.sizeGb r.vhd = .ok payload ∧
      r.sectorCount.toNat * Size.sectorBytes = payload.toNat := by
  unfold sizesAgree
  cases Size.payloadBytes r.sizeGb r.vhd with
  | ok payload => simp [Except.toOption]
  | error e => simp [Except.toOption]

/-- The sizes agree just if the sectors are those counted from the gigabytes. -/
theorem sizesAgree_iff : r.sizesAgree = true ↔ Size.sectorsFor r.sizeGb r.vhd = .ok r.sectorCount := by
  rw [sizesAgree_eq_true]
  constructor
  · rintro ⟨payload, hpayload, hsectors⟩
    obtain ⟨n, hn, hbytes⟩ := Size.payloadBytes_iff_sectorsFor.mp hpayload
    have hcount : r.sectorCount.toNat = n.toNat :=
      Nat.eq_of_mul_eq_mul_right (by decide) (hsectors.trans hbytes)
    rw [hn, UInt64.toNat_inj.mp hcount]
  · intro hn
    -- The sectors can be turned back into gigabytes, so their bytes are a word.
    obtain ⟨hfits, -⟩ := Size.gbOfSectors_eq_ok.mp (Size.gbOfSectors_sectorsFor hn)
    have hword := UInt64.toNat_ofNat_of_lt' (Nat.lt_of_le_of_lt (Nat.le_add_right _ _) hfits)
    exact ⟨_, Size.payloadBytes_iff_sectorsFor.mpr ⟨_, hn, hword⟩, hword.symm⟩

/-- A size that is set brings its sectors along, whatever the sizes were before. -/
theorem sizesAgree_of_setSizeGb (h : r.setSizeGb gb = .ok r') : r'.sizesAgree = true := by
  simp only [setSizeGb, bind_eq_ok, pure_eq_ok] at h
  obtain ⟨sectors, hs, rfl⟩ := h
  exact sizesAgree_iff.mpr hs

/-- Sizes that agree are worked out from the sectors as they are. -/
theorem sizeFromSectors_of_sizesAgree (h : r.sizesAgree = true) : r.sizeFromSectors = .ok r := by
  have hgb := Size.gbOfSectors_sectorsFor (sizesAgree_iff.mp h)
  simp only [sizeFromSectors, bind_eq_ok, pure_eq_ok]
  exact ⟨r.sizeGb, hgb, rfl⟩

end Record

/-- A step that sets sizes of a record. -/
inductive Sizing
  /-- Both sizes from gigabytes. -/
  | setGb (gb : UInt64)
  /-- The gigabytes from the sectors. -/
  | fromSectors
deriving DecidableEq, Repr

namespace Sizing

variable {r r' : Record} {step : Sizing} {gb : UInt64}

/-- The record with its sizes set by the step. -/
def apply (r : Record) : Sizing → Except Error Record
  | setGb gb => r.setSizeGb gb
  | fromSectors => r.sizeFromSectors

/-- Work on a record in place. What is assigned before an error stays assigned. -/
abbrev InPlace (α : Type) : Type := ExceptT Error (StateM Record) α

/-- The step in place, one assignment after another. -/
def assign : Sizing → InPlace Unit
  | setGb gb => do
    let r ← get
    let sectors ← MonadExcept.ofExcept (Size.sectorsFor gb r.vhd)
    modify fun r => { r with sectorCount := sectors }
    modify fun r => { r with sizeGb := gb }
  | fromSectors => do
    let r ← get
    let gb ← MonadExcept.ofExcept (Size.gbOfSectors r.sectorCount r.vhd)
    modify fun r => { r with sizeGb := gb }

/-- The answer to the step carried out in place, and the record after it. -/
def perform (r : Record) (step : Sizing) : Except Error Unit × Record := (step.assign.run.run r).run

/-- What is worked out from the record goes into the rest of the step. How it is worked out is a variable
here, since the bound on words is better not computed with. -/
theorem run_of_ok {α : Type} {x : Record → Except Error α} {k : α → InPlace Unit} {a : α}
    (h : x r = .ok a) :
    ((do k (← MonadExcept.ofExcept (x (← get))) : InPlace Unit).run.run r).run =
      ((k a).run.run r).run := by
  show ((MonadExcept.ofExcept (x r) >>= k : InPlace Unit).run.run r).run = _
  rw [h]
  rfl

/-- What cannot be worked out from the record ends the step before it changes anything. -/
theorem run_of_error {α : Type} {x : Record → Except Error α} {k : α → InPlace Unit} {e : Error}
    (h : x r = .error e) :
    ((do k (← MonadExcept.ofExcept (x (← get))) : InPlace Unit).run.run r).run = (.error e, r) := by
  show ((MonadExcept.ofExcept (x r) >>= k : InPlace Unit).run.run r).run = _
  rw [h]
  rfl

/-- In place the step leaves the record that it makes, or if it fails, the record as it was. -/
theorem perform_eq (r : Record) (step : Sizing) : perform r step =
    match step.apply r with
    | .ok r' => (.ok (), r')
    | .error e => (.error e, r) := by
  cases step with
  | setGb gb =>
    rw [perform, assign, apply, Record.setSizeGb]
    cases hs : Size.sectorsFor gb r.vhd with
    | ok sectors => exact run_of_ok (x := fun r => Size.sectorsFor gb r.vhd) hs
    | error e => exact run_of_error (x := fun r => Size.sectorsFor gb r.vhd) hs
  | fromSectors =>
    rw [perform, assign, apply, Record.sizeFromSectors]
    cases hg : Size.gbOfSectors r.sectorCount r.vhd with
    | ok gb => exact run_of_ok (x := fun r => Size.gbOfSectors r.sectorCount r.vhd) hg
    | error e => exact run_of_error (x := fun r => Size.gbOfSectors r.sectorCount r.vhd) hg

/-! ## One step -/

/-- Steps that go through leave sizes that agree. -/
theorem apply_agrees (h : r.sizesAgree = true) (hr : step.apply r = .ok r') : r'.sizesAgree = true := by
  cases step with
  | setGb gb => exact Record.sizesAgree_of_setSizeGb hr
  | fromSectors =>
    obtain rfl := Except.ok.inj ((Record.sizeFromSectors_of_sizesAgree h).symm.trans hr)
    exact h

/-- A step that fails leaves the record as it was. -/
theorem perform_of_error {e : Error} (h : (perform r step).1 = .error e) : (perform r step).2 = r := by
  rw [perform_eq] at h ⊢
  cases hr : step.apply r with
  | ok r' =>
    rw [hr] at h
    cases h
  | error e => rfl

/-- Whether a step fails or not, sizes that agree do so after it. -/
theorem perform_agrees (h : r.sizesAgree = true) (step : Sizing) : (perform r step).2.sizesAgree = true := by
  rw [perform_eq]
  cases hr : step.apply r with
  | ok r' => exact apply_agrees h hr
  | error e => exact h

/-- Sizes that agree can be worked out from the sectors, which changes nothing. -/
theorem perform_fromSectors (h : r.sizesAgree = true) : perform r .fromSectors = (.ok (), r) := by
  rw [perform_eq, apply, Record.sizeFromSectors_of_sizesAgree h]

/-- The answer of a step in place and the record after it are what the step makes of the record. -/
theorem apply_eq (r : Record) (step : Sizing) :
    step.apply r = (perform r step).1.map fun _ => (perform r step).2 := by
  rw [perform_eq]
  cases step.apply r with
  | ok r' => rfl
  | error e => rfl

/-! ## Any number of steps -/

/-- The steps in place on one record, one after another, each with the record that it is carried out on. A
step that fails stops none of the others. -/
def trace (r : Record) : List Sizing → List (Record × Sizing)
  | [] => []
  | step :: rest => (r, step) :: trace (perform r step).2 rest

/-- What one step keeps, any number of them does. -/
theorem agrees_of_mem_trace {steps : List Sizing} {q : Record} (h : r.sizesAgree = true)
    (hq : (q, step) ∈ trace r steps) : q.sizesAgree = true := by
  induction steps generalizing r with
  | nil => cases hq
  | cons first rest ih =>
    rw [trace, List.mem_cons, Prod.mk.injEq] at hq
    rcases hq with ⟨rfl, -⟩ | hq
    · exact h
    · exact ih (perform_agrees h first) hq

/-- Sizes that agree never drift apart. Whatever steps are carried out in place on the record, one after
another, the sizes agree after each of them. Each does what it makes of the record on its own, or if it
fails, leaves the record as it was. The gigabytes can always be worked out from the sectors, which changes
nothing. And on any record, a size that is set makes the sizes agree. -/
theorem sizes_never_drift :
    (∀ (r : Record) (steps : List Sizing), r.sizesAgree = true → ∀ q step, (q, step) ∈ trace r steps →
      (perform q step).2.sizesAgree = true ∧
        step.apply q = (perform q step).1.map (fun _ => (perform q step).2) ∧
        (∀ e, (perform q step).1 = .error e → (perform q step).2 = q) ∧
        (step = .fromSectors → perform q step = (.ok (), q))) ∧
      ∀ (r r' : Record) (gb : UInt64), r.setSizeGb gb = .ok r' → r'.sizesAgree = true := by
  refine ⟨fun r steps h q step hq => ?_, fun r r' gb => Record.sizesAgree_of_setSizeGb⟩
  have hagree := agrees_of_mem_trace h hq
  refine ⟨perform_agrees hagree step, apply_eq q step, fun e => perform_of_error, ?_⟩
  rintro rfl
  exact perform_fromSectors hagree

/-- The largest disk whose bytes fit a word, with a footer. -/
def largest : Record := { vhd := true, sizeGb := 17179869183, sectorCount := 36028797016866815 }

/-- From no size at all to the largest one, and one step too far. -/
def edges : List Sizing :=
  [.fromSectors, .setGb 17179869183, .setGb 17179869184, .fromSectors, .setGb 0]

theorem sizes_never_drift_edges : ({ vhd := true } : Record).sizesAgree = true ∧
    ({ vhd := true }, .fromSectors) ∈ trace { vhd := true } edges ∧
    perform { vhd := true } .fromSectors = (.ok (), { vhd := true }) ∧
    (largest, .setGb 17179869184) ∈ trace { vhd := true } edges ∧
    (∃ e, (perform largest (.setGb 17179869184)).1 = .error e) ∧
    (perform largest (.setGb 17179869184)).2 = largest ∧
    ∃ r, largest.setSizeGb 0 = .ok r ∧ r.sizesAgree = true := by
  have hagree : ({ vhd := true } : Record).sizesAgree = true := by decide +kernel
  have hfirst : ({ vhd := true }, .fromSectors) ∈ trace { vhd := true } edges := by decide +kernel
  have hlargest : (largest, .setGb 17179869184) ∈ trace { vhd := true } edges := by decide +kernel
  have hsteps := sizes_never_drift.1 { vhd := true } edges hagree
  obtain ⟨-, -, -, hsectors⟩ := hsteps _ _ hfirst
  obtain ⟨-, -, hfails, -⟩ := hsteps _ _ hlargest
  obtain ⟨e, he⟩ : ∃ e, Size.sectorsFor 17179869184 largest.vhd = .error e :=
    Size.exists_sectorsFor_error.mpr (by decide)
  have he : (perform largest (.setGb 17179869184)).1 = .error e := by
    rw [perform_eq, apply, Record.setSizeGb, he]
    rfl
  have hnone : Size.sectorsFor 0 largest.vhd = .ok 0 := Size.sectorsFor_eq_ok.mpr (by decide)
  have hzero : largest.setSizeGb 0 = .ok { largest with sectorCount := 0, sizeGb := 0 } := by
    rw [Record.setSizeGb, hnone]
    rfl
  exact ⟨hagree, hfirst, hsectors rfl, hlargest, ⟨e, he⟩, hfails e he, _, hzero,
    sizes_never_drift.2 largest _ 0 hzero⟩

end Sizing

end BlobDisk
