import BlobDisk.Proofs.Mount.Moves
import BlobDisk.Proofs.Schedule

/-!
# One mount at a time

Any number of hosts mount one blob, each with a lease of its own and none allowed to break that of
another. However their calls of the store alternate, at most one of them succeeds.

* `Mount.Held`: the invariant, that at most one mount has taken a lease that it has not broken, and
  that this lease is the live one;
* `Mount.Held.step`, `Mount.Held.reaches`: every move keeps it;
* `Mount.at_most_one`: what follows for the mounts that have ended.
-/

namespace BlobDisk.Mount

variable {ι : Type} [DecidableEq ι] {w w' w₀ : Race ι (Except Error Record)} {m : Move ι} {i : ι}
  {records : ι → Record} {g : ι → Progress} {b : BlobPath} {moves : List (Move ι)}

/-- The options of a mount that takes a lease and breaks none of another. -/
def leasing : LeaseOptions := { autoLease := true, breakLease := false }

/-- A mount that has ended holds a lease just if it succeeded, and then that of its record. -/
def Settled : Except Error Record → Progress → Prop
  | .ok mounted, g => g.taken = some mounted.leaseId
  | .error _, g => g.taken = none

/-- At most one mount has a lease, and that lease is live. -/
structure Held (records : ι → Record) (b : BlobPath) (w : Race ι (Except Error Record))
    (g : ι → Progress) : Prop where
  obeys : ∀ i, (w.programs i).Obeys (monitor (records i) leasing) (g i) Settled
  live : ∀ i id, (g i).taken = some id → w.store.lease? b = some id
  unique : ∀ i j, (g i).taken.isSome → (g j).taken.isSome → i = j

/-- A mount leaves the lease as it is, takes one where there is none, or breaks the one it took. -/
theorem Stride.lease_cases {r : Record} {before after : MemoryStore} {g g' : Progress} {e : Event}
    (h : Stride r leasing b before after g e g') :
    g'.taken = g.taken ∧ after.lease? b = before.lease? b ∨
      (∃ id, before.lease? b = none ∧ after.lease? b = some id ∧ g'.taken = some id) ∨
      g.taken.isSome ∧ g'.taken = none := by
  cases h with
  | measure _ hs | prove _ hs => exact .inl ⟨rfl, by rw [hs]⟩
  | stay hl _ => exact .inl ⟨rfl, hl⟩
  | take _ _ _ hfree hlive _ => exact .inr (.inl ⟨_, hfree, hlive, rfl⟩)
  | release ho _ _ =>
    rcases ho with htaken | ho
    · exact .inr (.inr ⟨htaken, rfl⟩)
    · cases ho

theorem Held.step (h : Held records b w g) (hs : w.Step m w') (hi : m.actor = some i)
    (hb : BlobPath.parse (records i).path = .ok b) :
    Held records b w' (Function.update g i ((g i).next m.event.effect m.event.answer)) := by
  obtain ⟨ha, hp⟩ := hs.obeys (h.obeys i) hi
  have hcases := (stride hs hi hb ha).lease_cases
  change Program.Obeys _ _ ((g i).next m.event.effect m.event.answer) _ at hp
  generalize (g i).next m.event.effect m.event.answer = g' at hp hcases
  have other : ∀ {j}, j ≠ i → Function.update g i g' j = g j := fun hj => Function.update_of_ne hj _ _
  have own : Function.update g i g' i = g' := Function.update_self ..
  -- While another mount holds its lease, this one cannot take any: its blob is leased.
  have alone : ∀ j, j ≠ i → (g j).taken.isSome → g'.taken = none := by
    intro j hji hj
    obtain ⟨id, hid⟩ := Option.isSome_iff_exists.mp hj
    rcases hcases with ⟨ht, -⟩ | ⟨_, hfree, -, -⟩ | ⟨-, ht⟩
    · rw [ht, ← Option.not_isSome_iff_eq_none]
      exact fun htaken => hji (h.unique j i hj htaken)
    · rw [h.live j id hid] at hfree
      cases hfree
    · exact ht
  -- Each clause is one for the mount that moved and one for the others.
  refine ⟨fun j => ?_, fun j id hj => ?_, fun j k hj hk => ?_⟩
  · by_cases hji : j = i
    · rw [hji, own]
      exact hp
    · rw [other hji, hs.programs_eq (fun e => hji (Option.some.inj (e.symm.trans hi)))]
      exact h.obeys j
  · by_cases hji : j = i
    · rw [hji, own] at hj
      rcases hcases with ⟨ht, hl⟩ | ⟨id', -, hl, ht⟩ | ⟨-, ht⟩
      · rw [hl]
        exact h.live i id (ht ▸ hj)
      · rw [hl, ← ht, hj]
      · rw [ht] at hj
        cases hj
    · rw [other hji] at hj
      rcases hcases with ⟨-, hl⟩ | ⟨_, hfree, -, -⟩ | ⟨htaken, -⟩
      · rw [hl, h.live j id hj]
      · rw [h.live j id hj] at hfree
        cases hfree
      · exact (hji (h.unique j i (hj ▸ rfl) htaken)).elim
  · by_cases hji : j = i <;> by_cases hki : k = i
    · rw [hji, hki]
    · rw [other hki] at hk
      rw [hji, own, alone k hki hk] at hj
      cases hj
    · rw [other hji] at hj
      rw [hki, own, alone j hji hj] at hk
      cases hk
    · rw [other hji] at hj
      rw [other hki] at hk
      exact h.unique j k hj hk

/-- The mounts of a race, before any of them has moved. -/
structure Lineup (clients : ι → Client) (records : ι → Record) (b : BlobPath)
    (w : Race ι (Except Error Record)) : Prop where
  programs : ∀ i, w.programs i = ((clients i).mountRecord (records i) leasing).run
  leaseId : ∀ i, (records i).leaseId = ""
  path : ∀ i, BlobPath.parse (records i).path = .ok b

variable {clients : ι → Client}

omit [DecidableEq ι] in
theorem Held.start (h : Lineup clients records b w) : Held records b w fun _ => {} := by
  refine ⟨fun i => ?_, nofun, nofun⟩
  rw [h.programs i]
  refine Program.Obeys.mono ((clients i).mountRecord_obeys (records i) leasing) fun result g hg => ?_
  cases result with
  | ok mounted => exact hg (h.leaseId i) rfl
  | error e => exact hg

theorem Held.reaches (h : Lineup clients records b w₀) (hrun : w₀.Reaches moves w)
    (hown : ∀ m ∈ moves, m.actor ≠ none) : ∃ g, Held records b w g := by
  induction hrun with
  | refl => exact ⟨_, Held.start h⟩
  | @step moves m w w' _ hstep ih =>
    obtain ⟨g, hg⟩ := ih fun m hm => hown m (List.mem_append_left _ hm)
    obtain ⟨i, hi⟩ := Option.ne_none_iff_exists'.mp (hown m (List.mem_append_right _ List.mem_cons_self))
    exact ⟨_, hg.step hstep hi (h.path i)⟩

/-- Of the mounts of one blob that take leases and break none, at most one succeeds, and from then on
the blob is leased under the id in its record. -/
theorem at_most_one (h : Lineup clients records b w₀) (hrun : w₀.Reaches moves w)
    (hown : ∀ m ∈ moves, m.actor ≠ none) :
    (∀ i j r s, w.programs i = .done (.ok r) → w.programs j = .done (.ok s) → i = j) ∧
      ∀ i r, w.programs i = .done (.ok r) → w.store.lease? b = some r.leaseId := by
  obtain ⟨g, hg⟩ := Held.reaches h hrun hown
  have settled : ∀ i r, w.programs i = .done (.ok r) → (g i).taken = some r.leaseId := by
    intro i r hr
    have hobeys := hg.obeys i
    rw [hr] at hobeys
    exact hobeys
  refine ⟨fun i j r s hr hs => ?_, fun i r hr => ?_⟩
  · exact hg.unique i j (settled i r hr ▸ rfl) (settled j s hs ▸ rfl)
  · exact hg.live i r.leaseId (settled i r hr)

/-- Two mounts of one blob. -/
def rivals : Race (Fin 2) (Except Error Record) where
  store := Sample.store 1
  drawn := []
  programs := fun _ => (Sample.client.mountRecord Sample.record leasing).run

theorem rivals_lineup : Lineup (fun _ => Sample.client) (fun _ => Sample.record) Sample.blob rivals :=
  ⟨fun _ => rfl, fun _ => rfl, fun _ => rfl⟩

/-- Both find the blob free; the second asks for the lease while the first proves its own. -/
def rivalTurns : List (Turn (Fin 2)) :=
  [.go 0 "", .go 1 "", .go 0 "", .go 1 "", .go 0 "a", .go 1 "b", .go 0 "c", .go 1 "d", .go 0 "e",
    .go 1 "f", .go 0 "first", .go 0 "", .go 1 "second", .go 0 "g", .go 0 "h", .go 0 "", .go 1 "", .go 0 ""]

theorem at_most_one_rivals : ∃ moves w r, rivals.Reaches moves w ∧ (∀ m ∈ moves, m.actor ≠ none) ∧
    w.programs 0 = .done (.ok r) ∧ (∀ j s, w.programs j = .done (.ok s) → 0 = j) ∧
    w.store.lease? Sample.blob = some r.leaseId := by
  obtain ⟨moves, w, hrun, hown, hdone⟩ := rivals.exists_reaches (Sample.answers Sample.accepted)
    rivalTurns (fun moves w => (∀ m ∈ moves, m.actor ≠ none) ∧ (w.programs 0).success?.isSome)
    (by decide +kernel)
  obtain ⟨r, hr⟩ := Option.isSome_iff_exists.mp hdone
  have hr : w.programs 0 = .done (.ok r) := Program.success?_eq_some.mp hr
  have h := at_most_one rivals_lineup hrun hown
  exact ⟨moves, w, r, hrun, hown, hr, fun j s hs => h.1 0 j r s hr hs, h.2 0 r hr⟩

end BlobDisk.Mount
