import BlobDisk.Proofs.Mount.Moves
import BlobDisk.Proofs.Schedule

/-!
# Whose lease a failed mount breaks

A mount that fails breaks the lease on its blob. A break names no lease: if another client has ended
the lease that the mount took and has one of its own now, that one is broken.

* `Mount.Owned`: the invariant, that the lease a mount took is live unless another client ended it;
* `Mount.breaks_other_iff`: a mount breaks a lease that is not its own just if another client ended its
  own before.
-/

namespace BlobDisk.Mount

variable {ι : Type} [DecidableEq ι] {w w' w₀ : Race ι (Except Error Record)} {m : Move ι} {i : ι}
  {r : Record} {o : LeaseOptions} {g : Progress} {b : BlobPath} {id : String} {moves : List (Move ι)}

/-- The lease that a mount has taken was taken by a move of it, and is live unless another client
ended it. -/
structure Owned (i : ι) (b : BlobPath) (moves : List (Move ι)) (w : Race ι (Except Error Record))
    (g : Progress) : Prop where
  took : ∀ own, g.taken = some own → ∃ m ∈ moves, m.actor = some i ∧ m.Takes b own
  live : ∀ own, g.taken = some own → Race.LiveOrEnded i b own moves w

theorem Owned.other (h : Owned i b moves w g) (hs : w.Step m w') (hi : m.actor ≠ some i) :
    Owned i b (moves ++ [m]) w' g := by
  refine ⟨fun own hown => ?_, fun own hown => (h.live own hown).other hs hi⟩
  obtain ⟨m', hm', htook⟩ := h.took own hown
  exact ⟨m', List.mem_append_left _ hm', htook⟩

omit [DecidableEq ι] in
/-- A move that keeps the lease of the blob and of the mount. -/
theorem Owned.keep {g' : Progress} (h : Owned i b moves w g) (htaken : g'.taken = g.taken)
    (hkeep : w'.store.lease? b = w.store.lease? b) : Owned i b (moves ++ [m]) w' g' := by
  refine ⟨fun own hown => ?_, fun own hown => (h.live own (htaken ▸ hown)).own hkeep⟩
  obtain ⟨m', hm', htook⟩ := h.took own (htaken ▸ hown)
  exact ⟨m', List.mem_append_left _ hm', htook⟩

theorem Owned.own (h : Owned i b moves w g) (hs : w.Step m w') (hi : m.actor = some i)
    (hb : BlobPath.parse r.path = .ok b) (ha : Allows r o g m.event.effect) :
    Owned i b (moves ++ [m]) w' (g.next m.event.effect m.event.answer) := by
  have hstride := stride hs hi hb ha
  generalize hg' : g.next m.event.effect m.event.answer = g' at hstride
  generalize he : m.event = e at hstride
  cases hstride with
  | measure _ hstore | prove _ hstore => exact h.keep rfl (by rw [hstore])
  | stay hkeep _ => exact h.keep rfl hkeep
  | release _ _ _ => exact ⟨nofun, nofun⟩
  | @take login duration id _ _ _ _ hlive _ =>
    refine ⟨fun own hown => ?_, fun own hown => ?_⟩
    · cases hown
      exact ⟨m, List.mem_append_right _ List.mem_cons_self, hi, login, duration, he⟩
    · cases hown
      exact .inl hlive

/-- A move of a mount that ends a lease breaks it, after the mount has taken one itself. -/
theorem taken_of_ends (hs : w.Step m w') (hi : m.actor = some i) (hb : BlobPath.parse r.path = .ok b)
    (ha : Allows r o g m.event.effect) (ho : o.breakLease = false) (hend : m.Ends b id) :
    ∃ own, g.taken = some own := by
  have hstride := stride hs hi hb ha
  obtain ⟨hlive, hdead⟩ := hend
  rw [hs.before_eq] at hlive
  rw [hs.after_eq] at hdead
  generalize g.next m.event.effect m.event.answer = g' at hstride
  generalize m.event = e at hstride
  cases hstride with
  | measure _ hstore | prove _ hstore =>
    rw [hstore] at hdead
    exact (hdead hlive).elim
  | stay hkeep _ =>
    rw [hkeep] at hdead
    exact (hdead hlive).elim
  | take _ _ _ hfree _ _ =>
    rw [hfree] at hlive
    cases hlive
  | release htaken _ _ =>
    rcases htaken with htaken | hbreak
    · exact Option.isSome_iff_exists.mp htaken
    · rw [ho] at hbreak
      cases hbreak

/-- A mount that may not break the leases of others ends a lease only after it has taken one, and then
the lease that it ends is another just if somebody else ended its own before. -/
theorem breaks_other_iff {c : Client} (ho : o.breakLease = false) (hb : BlobPath.parse r.path = .ok b)
    (hprogram : w₀.programs i = (c.mountRecord r o).run) (hknown : w₀.Known)
    (hrun : w₀.Reaches moves w) (hstep : w.Step m w') (hi : m.actor = some i) (hend : m.Ends b id) :
    ∃ own, (∃ m' ∈ moves, m'.actor = some i ∧ m'.Takes b own) ∧
      (id ≠ own ↔ ∃ m' ∈ moves, m'.actor ≠ some i ∧ m'.Ends b own) := by
  obtain ⟨g, hp, howned⟩ := hrun.follow (Owned i b) (obeys_of_mountRecord hprogram) ⟨nofun, nofun⟩
    (fun h hs hi ha => h.own hs hi hb ha) (fun h hs hi => h.other hs hi)
  obtain ⟨ha, -⟩ := hstep.obeys hp hi
  obtain ⟨own, hown⟩ := taken_of_ends hstep hi hb ha ho hend
  refine ⟨own, howned.took own hown, fun hne => ?_, fun ⟨m', hm', _, hended⟩ heq => ?_⟩
  · rcases howned.live own hown with hlive | hended
    · rw [← hstep.before_eq, hend.1] at hlive
      exact (hne (Option.some.inj hlive)).elim
    · exact hended
  · refine (hrun.lease?_of_ends hknown hm' hended).2 ?_
    rw [← hstep.before_eq, hend.1, heq]

/-- The device manager refuses a mount, which breaks its own lease. -/
theorem breaks_own_lease : ∃ moves w m w', (Sample.mounting 1).Reaches moves w ∧ w.Step m w' ∧
    m.actor = some () ∧ m.Ends Sample.blob "first" ∧
    ∃ own, (∃ m' ∈ moves, m'.actor = some () ∧ m'.Takes Sample.blob own) ∧
      ("first" ≠ own ↔ ∃ m' ∈ moves, m'.actor ≠ some () ∧ m'.Ends Sample.blob own) := by
  obtain ⟨moves, w, m, w', hrun, hstep, hi, hend⟩ := (Sample.mounting 1).exists_step
    (Sample.answers Sample.refused)
    [.go () "", .go () "", .go () "a", .go () "b", .go () "c", .go () "first", .go () "", .go () "d",
      .go () "e", .go () ""] (.go () "f")
    (fun _ _ m _ => m.actor = some () ∧ m.Ends Sample.blob "first") (by decide +kernel)
  exact ⟨moves, w, m, w', hrun, hstep, hi, hend,
    breaks_other_iff (c := Sample.client) (r := Sample.record) rfl rfl rfl (Sample.known_mounting 1) hrun
      hstep hi hend⟩

/-- A mount takes the first lease; another client breaks it and takes the second, so that the mount
cannot prove its own. -/
def robbedTurns : List (Turn Unit) :=
  [.go () "", .go () "", .go () "a", .go () "b", .go () "c", .go () "first",
    .visit ⟨"", ""⟩ (.breakLease Sample.blob 0) "d",
    .visit ⟨"", ""⟩ (.acquireLease Sample.blob .infinite) "second", .go () "", .go () "e"]

/-- A mount breaks a lease that it has not taken. -/
theorem breaks_second_lease : ∃ moves w m w', (Sample.mounting 1).Reaches moves w ∧ w.Step m w' ∧
    m.actor = some () ∧ (∃ m' ∈ moves, m'.actor = some () ∧ m'.Takes Sample.blob "first") ∧
    (∀ m' ∈ moves, m'.actor = some () → ¬ m'.Takes Sample.blob "second") ∧
    m.Ends Sample.blob "second" := by
  obtain ⟨moves, w, m, w', hrun, hstep, h⟩ := (Sample.mounting 1).exists_step
    (Sample.answers Sample.accepted) robbedTurns (.go () "f")
    (fun moves _ m _ => m.actor = some () ∧
      (∃ m' ∈ moves, m'.actor = some () ∧ m'.Takes Sample.blob "first") ∧
      (∀ m' ∈ moves, m'.actor = some () → ¬ m'.Takes Sample.blob "second") ∧
      m.Ends Sample.blob "second") (by decide +kernel)
  exact ⟨moves, w, m, w', hrun, hstep, h⟩

end BlobDisk.Mount
