import BlobDisk.Proofs.Mount.Moves
import BlobDisk.Proofs.Schedule

/-!
# Whether a mounted disk fits its blob

A mount reads the size of its blob first, takes the lease then, and proves it before it asks the device
manager. The size is that of the blob which the lease protects, unless another client has replaced the
blob in between.

* `Mount.Sized`: the invariant, that the blob has the size that was read unless another client changed
  it since, and has it as long as it is leased unless another client changed it before the lease;
* `Mount.Traced`: the invariant of a whole mount. Once the lease that it proved is gone, a change of size
  is no earlier than the end of the lease;
* `Mount.submitted_fits`: a request that is sent fits the blob, unless another client changed the blob
  before it was leased, or after the lease was ended.
-/

namespace BlobDisk.Mount

variable {ι : Type} {w w' w₀ : Race ι (Except Error Record)} {m : Move ι} {i : ι}
  {r : Record} {o : LeaseOptions} {g : Progress} {b : BlobPath} {n : UInt64} {id : String}
  {moves : List (Move ι)}

/-- Somebody other than `i` changed the size of the blob after `i` had read it. -/
def Resized (i : ι) (b : BlobPath) (moves : List (Move ι)) : Prop :=
  ∃ front read back, moves = front ++ read :: back ∧ read.actor = some i ∧
    (∃ n, read.Measures b n) ∧ ∃ m ∈ back, m.actor ≠ some i ∧ m.Resizes b

/-- Somebody other than `i` changed the size of the blob after `i` had read it, and the lease was taken
only then. -/
def ResizedBefore (i : ι) (b : BlobPath) (id : String) (moves : List (Move ι)) : Prop :=
  ∃ front take back, moves = front ++ take :: back ∧ take.Takes b id ∧ Resized i b front

/-- Somebody other than `i` changed the size of the blob after `i` had read it, and somebody other than
`i` had ended the lease by then, or ended it by that very move. -/
def ResizedAfter (i : ι) (b : BlobPath) (id : String) (moves : List (Move ι)) : Prop :=
  ∃ front m back, moves = front ++ m :: back ∧ m.actor ≠ some i ∧ m.Resizes b ∧
    (∃ read ∈ front, read.actor = some i ∧ ∃ n, read.Measures b n) ∧
    Race.EndedByOther i b id (front ++ [m])

/-- The blob has the size `n`, unless somebody other than `i` changed it while the lease `id` was not
live: before it was taken, or once it was ended. -/
def Kept (i : ι) (b : BlobPath) (id : String) (moves : List (Move ι))
    (w : Race ι (Except Error Record)) (n : UInt64) : Prop :=
  w.store.size? b = some n ∨ ResizedBefore i b id moves ∨ ResizedAfter i b id moves

theorem ResizedBefore.append (h : ResizedBefore i b id moves) (m : Move ι) :
    ResizedBefore i b id (moves ++ [m]) := by
  obtain ⟨front, take, back, rfl, htake, hresized⟩ := h
  exact ⟨front, take, back ++ [m], by simp, htake, hresized⟩

theorem Resized.append (h : Resized i b moves) (m : Move ι) : Resized i b (moves ++ [m]) := by
  obtain ⟨front, read, back, rfl, hi, hread, m', hm', hresized⟩ := h
  exact ⟨front, read, back ++ [m], by simp, hi, hread, m', List.mem_append_left _ hm', hresized⟩

theorem ResizedAfter.append (h : ResizedAfter i b id moves) (m : Move ι) :
    ResizedAfter i b id (moves ++ [m]) := by
  obtain ⟨front, m', back, rfl, hi, hresizes, hread, hended⟩ := h
  exact ⟨front, m', back ++ [m], by simp, hi, hresizes, hread, hended⟩

theorem Kept.append (h : Kept i b id moves w n) (hsize : w'.store.size? b = w.store.size? b) :
    Kept i b id (moves ++ [m]) w' n := by
  rw [Kept, hsize]
  exact h.imp_right (Or.imp (fun hbefore => hbefore.append m) fun hafter => hafter.append m)

/-- The mount has read the size of the blob, and the blob still has it, or what became of it is known. -/
structure Sized (i : ι) (b : BlobPath) (moves : List (Move ι)) (w : Race ι (Except Error Record))
    (n : UInt64) : Prop where
  read : ∃ m ∈ moves, m.actor = some i ∧ m.Measures b n
  free : w.store.size? b = some n ∨ Resized i b moves
  leased : ∀ id, w.store.lease? b = some id → w.store.size? b = some n ∨ ResizedBefore i b id moves

theorem Sized.start (hi : m.actor = some i) (hread : m.Measures b n) (hsize : w.store.size? b = some n) :
    Sized i b (moves ++ [m]) w n :=
  ⟨⟨m, List.mem_append_right _ List.mem_cons_self, hi, hread⟩, .inl hsize, fun _ _ => .inl hsize⟩

variable [DecidableEq ι]

/-- A size that was read stays known under every move that is not a change of size by `i` itself. -/
theorem Sized.step (h : Sized i b moves w n) (hs : w.Step m w')
    (hi : m.actor = some i → w'.store.size? b = w.store.size? b) : Sized i b (moves ++ [m]) w' n := by
  obtain ⟨read, hread, hi', hmeasures⟩ := h.read
  refine ⟨⟨read, List.mem_append_left _ hread, hi', hmeasures⟩, ?_, fun id hlive => ?_⟩
  · rcases h.free with hsize | hresized
    · by_cases heq : w'.store.size? b = w.store.size? b
      · exact .inl (heq ▸ hsize)
      · obtain ⟨front, back, rfl⟩ := List.append_of_mem hread
        refine .inr ⟨front, read, back ++ [m], by simp, hi', ⟨n, hmeasures⟩, m,
          List.mem_append_right _ List.mem_cons_self, fun hown => heq (hi hown), ?_⟩
        rwa [Move.Resizes, hs.before_eq, hs.after_eq]
    · exact .inr (hresized.append m)
  · -- A lease that was live already keeps the size; one that is taken now is taken of what is there.
    by_cases hold : w.store.lease? b = some id
    · rw [hs.size?_eq hold hlive]
      exact (h.leased id hold).imp_right fun hbefore => hbefore.append m
    · have htake := hs.takes hold hlive
      rw [hs.size?_of_takes htake]
      exact h.free.imp_right fun hresized => ⟨moves, m, [], rfl, htake, hresized⟩

/-- What is known of a mount: the lease that it proved last is live unless another client ended it, and
what became of the size that it read, both while a lease is live and once the proved one is lost. -/
structure Traced (i : ι) (b : BlobPath) (moves : List (Move ι)) (w : Race ι (Except Error Record))
    (g : Progress) : Prop where
  live : ∀ id, g.proved = some id → id ≠ "" → Race.LiveOrEnded i b id moves w
  sized : ∀ n, g.size = some n → Sized i b moves w n
  lost : ∀ id n, g.proved = some id → id ≠ "" → g.size = some n → w.store.lease? b ≠ some id →
    Kept i b id moves w n

omit [DecidableEq ι] in
theorem Traced.kept (h : Traced i b moves w g) (hproved : g.proved = some id) (hid : id ≠ "")
    (hn : g.size = some n) : Kept i b id moves w n := by
  by_cases hlive : w.store.lease? b = some id
  · exact ((h.sized n hn).leased id hlive).imp_right .inl
  · exact h.lost id n hproved hid hn hlive

theorem Traced.other (h : Traced i b moves w g) (hs : w.Step m w') (hi : m.actor ≠ some i) :
    Traced i b (moves ++ [m]) w' g := by
  refine ⟨fun id hproved hid => (h.live id hproved hid).other hs hi,
    fun n hn => (h.sized n hn).step hs fun hown => (hi hown).elim, ?_⟩
  intro id n hproved hid hn hlost
  by_cases hsize : w'.store.size? b = w.store.size? b
  · exact (h.kept hproved hid hn).append hsize
  · -- This move changed the size, and by now the lease is not live: it was ended before, or just now.
    have hended : Race.EndedByOther i b id (moves ++ [m]) :=
      ((h.live id hproved hid).other hs hi).resolve_left hlost
    obtain ⟨read, hread, hown, hmeasures⟩ := (h.sized n hn).read
    refine .inr (.inr ⟨moves, m, [], rfl, hi, ?_, ⟨read, hread, hown, n, hmeasures⟩, hended⟩)
    rwa [Move.Resizes, hs.before_eq, hs.after_eq]

theorem Traced.own (h : Traced i b moves w g) (hs : w.Step m w') (hi : m.actor = some i)
    (hb : BlobPath.parse r.path = .ok b) (ha : Allows r o g m.event.effect) :
    Traced i b (moves ++ [m]) w' (g.next m.event.effect m.event.answer) := by
  have hstride := stride hs hi hb ha
  have sized : w'.store.size? b = w.store.size? b → ∀ n, g.size = some n → Sized i b (moves ++ [m]) w' n :=
    fun heq n hn => (h.sized n hn).step hs fun _ => heq
  have live : w'.store.lease? b = w.store.lease? b → ∀ id, g.proved = some id → id ≠ "" →
      Race.LiveOrEnded i b id (moves ++ [m]) w' :=
    fun heq id hproved hid => (h.live id hproved hid).own heq
  have lost : w'.store.size? b = w.store.size? b → ∀ id n, g.proved = some id → id ≠ "" →
      g.size = some n → w'.store.lease? b ≠ some id → Kept i b id (moves ++ [m]) w' n :=
    fun heq id n hproved hid hn _ => (h.kept hproved hid hn).append heq
  generalize hg' : g.next m.event.effect m.event.answer = g' at hstride
  generalize he : m.event = e at hstride
  cases hstride with
  | @measure login p hsize hstore =>
    refine ⟨live (by rw [hstore]), fun n hn => ?_, fun id n _ _ hn _ => ?_⟩
    · cases hn
      exact .start hi ⟨login, p, he, rfl⟩ (hstore ▸ hsize)
    · cases hn
      exact .inl (hstore ▸ hsize)
  | prove hlive hstore =>
    refine ⟨fun id hproved hid => ?_, sized (by rw [hstore]), fun id n hproved hid _ hlost => ?_⟩
    · cases hproved
      exact .inl (hstore ▸ hlive hid)
    · cases hproved
      exact (hlost (hstore ▸ hlive hid)).elim
  | take _ _ _ hfree _ hsize =>
    -- A lease that was proved before is gone, for the blob was free.
    refine ⟨fun id hproved hid => ?_, sized hsize, lost hsize⟩
    rcases h.live id hproved hid with hlive | ⟨m', hm', hended⟩
    · rw [hfree] at hlive
      cases hlive
    · exact .inr ⟨m', List.mem_append_left _ hm', hended⟩
  | release _ _ hsize => exact ⟨nofun, sized hsize, nofun⟩
  | stay hkeep hsize => exact ⟨live hkeep, sized hsize, lost hsize⟩

/-- The sectors that a mount asks for, and the footer behind them, lie within the size that it read. The
blob has that size still, unless another client has changed it since: before the lease of the mount was
taken, or by the move with which somebody else ended that lease, or after it. -/
theorem submitted_fits {c : Client} {command : Command} {buffer : Buffer}
    (hb : BlobPath.parse r.path = .ok b) (hprogram : w₀.programs i = (c.mountRecord r o).run)
    (hrun : w₀.Reaches moves w) (hstep : w.Step m w') (hi : m.actor = some i)
    (hsubmit : m.event.effect = .submit command buffer) :
    ∃ q n, Channel.mountRequest q = .ok buffer ∧ q.path = r.path ∧
      (∃ read ∈ moves, read.actor = some i ∧ read.Measures b n) ∧ q.extent ≤ n.toNat ∧
      Race.LiveOrEnded i b q.leaseId moves w ∧
      (w.store.size? b = some n ∨ ResizedBefore i b q.leaseId moves ∨
        ResizedAfter i b q.leaseId moves) := by
  obtain ⟨g, hp, htraced⟩ := hrun.follow (Traced i b) (obeys_of_mountRecord hprogram) ⟨nofun, nofun, nofun⟩
    (fun h hs hi ha => h.own hs hi hb ha) (fun h hs hi => h.other hs hi)
  obtain ⟨ha, -⟩ := hstep.obeys hp hi
  rw [hsubmit] at ha
  obtain ⟨-, q, hq, hready⟩ := ha
  obtain ⟨n, hn, hfits⟩ := hready.fits
  have hsized : Sized i b moves w n := htraced.sized n hn
  have hlease : Race.LiveOrEnded i b q.leaseId moves w :=
    htraced.live q.leaseId hready.proved hready.leaseId_ne
  have hkept : Kept i b q.leaseId moves w n := htraced.kept hready.proved hready.leaseId_ne hn
  exact ⟨q, n, hq, hready.path_eq, hsized.read, hfits hready.sectorCount_ne, hlease, hkept⟩

omit [DecidableEq ι] in
theorem not_resized (h : ∀ m ∈ moves, m.actor = some i) : ¬ Resized i b moves := by
  rintro ⟨front, read, back, rfl, -, -, m, hm, hother, -⟩
  exact hother (h m (by simp [hm]))

/-- Nobody else is about, and the request fits. -/
theorem submitted_fits_alone : ∃ moves w m w' buffer q,
    (Sample.mounting 2).Reaches moves w ∧ w.Step m w' ∧ m.actor = some () ∧
    m.event.effect = .submit .mount buffer ∧ Channel.mountRequest q = .ok buffer ∧
    w.store.lease? Sample.blob = some q.leaseId ∧
    ∃ n, w.store.size? Sample.blob = some n ∧ q.extent ≤ n.toNat := by
  obtain ⟨moves, w, m, w', hrun, hstep, hi, hown, hsubmit⟩ := (Sample.mounting 2).exists_step
    (Sample.answers Sample.accepted)
    [.go () "", .go () "", .go () "a", .go () "b", .go () "c", .go () "lease", .go () "", .go () "d",
      .go () "e"] (.go () "")
    (fun moves _ m _ => m.actor = some () ∧ (∀ m' ∈ moves, m'.actor = some ()) ∧
      m.event.mountBuffer?.isSome) (by decide +kernel)
  obtain ⟨buffer, hbuffer⟩ := Option.isSome_iff_exists.mp hsubmit
  have hsubmit := Event.mountBuffer?_eq_some hbuffer
  obtain ⟨q, n, hq, -, -, hfits, hlease, hsize⟩ := submitted_fits (b := Sample.blob) (c := Sample.client)
    (r := Sample.record) rfl rfl hrun hstep hi hsubmit
  have hended : ¬ Race.EndedByOther () Sample.blob q.leaseId moves := fun ⟨m', hm', hother, _⟩ =>
    hother (hown m' hm')
  have hafter : ¬ ResizedAfter () Sample.blob q.leaseId moves := by
    rintro ⟨front, m', back, rfl, hother, -⟩
    exact hother (hown m' (by simp))
  have hbefore : ¬ ResizedBefore () Sample.blob q.leaseId moves := by
    rintro ⟨front, take, back, rfl, -, hresized⟩
    exact not_resized (fun m' hm' => hown m' (List.mem_append_left _ hm')) hresized
  exact ⟨moves, w, m, w', buffer, q, hrun, hstep, hi, hsubmit, hq, hlease.resolve_right hended, n,
    (hsize.resolve_right fun h => h.elim hbefore hafter), hfits⟩

/-- Another client replaces the blob by a smaller one before the mount takes its lease, and the request
does not fit. -/
theorem submitted_exceeds : ∃ moves w m w' buffer q size,
    (Sample.mounting 2).Reaches moves w ∧ w.Step m w' ∧ m.actor = some () ∧
    m.event.effect = .submit .mount buffer ∧ Channel.mountRequest q = .ok buffer ∧
    w.store.lease? Sample.blob = some q.leaseId ∧ w.store.size? Sample.blob = some size ∧
    size.toNat < q.extent := by
  let q : Record := { Sample.record with
    sectorCount := 4194304, host := "account.blob.core.windows.net", ip := "10.0.0.1", leaseId := "lease" }
  obtain ⟨moves, w, m, w', hrun, hstep, hi, hsubmit, hsome, hlive, hsize, hexceeds⟩ :=
    (Sample.mounting 2).exists_step (Sample.answers Sample.accepted)
    [.go () "", .go () "", .go () "a", .go () "b", .go () "c",
      .visit ⟨"", ""⟩ (.deleteBlob Sample.blob none) "d",
      .visit ⟨"", ""⟩ (.createPageBlob Sample.blob 1073741824) "e",
      .go () "lease", .go () "", .go () "f", .go () "g"] (.go () "")
    (fun _ w m _ => m.actor = some () ∧ m.event.mountBuffer? = (Channel.mountRequest q).toOption ∧
      m.event.mountBuffer?.isSome ∧ w.store.lease? Sample.blob = some q.leaseId ∧
      w.store.size? Sample.blob = some 1073741824 ∧ 1073741824 < q.extent) (by decide +kernel)
  obtain ⟨buffer, hbuffer⟩ := Option.isSome_iff_exists.mp hsome
  have hq : Channel.mountRequest q = .ok buffer := by
    rw [hbuffer] at hsubmit
    cases hr : Channel.mountRequest q with
    | ok buffer' =>
      rw [hr] at hsubmit
      cases hsubmit
      rfl
    | error e =>
      rw [hr] at hsubmit
      cases hsubmit
  exact ⟨moves, w, m, w', buffer, q, _, hrun, hstep, hi, Event.mountBuffer?_eq_some hbuffer, hq, hlive,
    hsize, hexceeds⟩

end BlobDisk.Mount
