import BlobDisk.Proofs.Conduct
import BlobDisk.Proofs.Store.Blobs
import Mathlib.Logic.Function.Basic

/-!
# Programs side by side on one store

A `Race` is a number of programs on hosts of their own that share one blob store. A move lets one
program perform its next effect, or lets another client of the store make a call. A call of the store
is one move; every other effect is answered in any way. Each call has a fresh id at hand for the lease
that it may take: one that is not empty and that no call before had.

* `Race.Step`, `Race.Reaches`: one move, and moves one after the other;
* `Race.Step.obeys`: what a monitor says of a program carries over to its moves;
* `Race.Reaches.lease?_of_ends`: a lease that has ended does not come back;
* `Race.LiveOrEnded`: what is left of a lease that its holder does not end;
* `Race.Reaches.follow`: an invariant of a race and of the progress of one of its programs;
* `Move.Takes`, `Move.Measures`, `Move.Ends`, `Move.Resizes`: what a move does about the blob at a path.
-/

namespace BlobDisk

/-- A move: who made it, its event, and the store before and after it. Moves of nobody in the race are
those of other clients of the store. -/
structure Move (ι : Type) where
  actor : Option ι
  event : Event
  before : MemoryStore
  after : MemoryStore

namespace Move

variable {ι : Type}

/-- The move takes a lease on the blob, under the id. -/
def Takes (m : Move ι) (b : BlobPath) (id : String) : Prop :=
  ∃ login duration, m.event = ⟨.store login (.acquireLease b duration), .ok id⟩

/-- The move reads the size of the blob without a lease. -/
def Measures (m : Move ι) (b : BlobPath) (n : UInt64) : Prop :=
  ∃ login, ∃ p : Properties, m.event = ⟨.store login (.properties b none), .ok p⟩ ∧ p.contentLength = n

/-- The move ends a lease of the blob that was live under the id. -/
def Ends (m : Move ι) (b : BlobPath) (id : String) : Prop :=
  m.before.lease? b = some id ∧ m.after.lease? b ≠ some id

/-- The move changes the size of the blob, or makes or removes it. -/
def Resizes (m : Move ι) (b : BlobPath) : Prop := m.after.size? b ≠ m.before.size? b

end Move

/-- Programs side by side on one store, and the ids that leases were given so far. -/
structure Race (ι α : Type) where
  store : MemoryStore
  drawn : List String
  programs : ι → Program α

namespace Race

variable {ι α σ : Type}

/-- An id for a new lease. -/
def Fresh (w : Race ι α) (id : String) : Prop := id ≠ "" ∧ id ∉ w.drawn

/-- Leases that are live had their ids given to them before. -/
def Known (w : Race ι α) : Prop := ∀ b id, w.store.lease? b = some id → id ∈ w.drawn

/-- The race after a call. -/
def called (w : Race ι α) (fresh : String) (call : StoreCall) : Race ι α :=
  { w with store := (w.store.perform fresh call).2, drawn := fresh :: w.drawn }

variable [DecidableEq ι]

/-- The race in which a program has gone on. -/
def goOn (w : Race ι α) (i : ι) (p : Program α) : Race ι α :=
  { w with programs := Function.update w.programs i p }

/-- One move. -/
inductive Step (w : Race ι α) : Move ι → Race ι α → Prop
  | call {i login call next fresh} : w.programs i = .ask (.store login call) next → w.Fresh fresh →
    Step w ⟨some i, ⟨.store login call, (w.store.perform fresh call).1⟩, w.store,
      (w.store.perform fresh call).2⟩ ((w.called fresh call).goOn i (next (w.store.perform fresh call).1))
  | other {i e next} (answer : e.Answer) : w.programs i = .ask e next →
    (∀ login call, e ≠ .store login call) →
    Step w ⟨some i, ⟨e, answer⟩, w.store, w.store⟩ (w.goOn i (next answer))
  | visit {login call fresh} : w.Fresh fresh →
    Step w ⟨none, ⟨.store login call, (w.store.perform fresh call).1⟩, w.store,
      (w.store.perform fresh call).2⟩ (w.called fresh call)

/-- Moves one after the other. -/
inductive Reaches (w₀ : Race ι α) : List (Move ι) → Race ι α → Prop
  | refl : Reaches w₀ [] w₀
  | step {moves m w w'} : Reaches w₀ moves w → Step w m w' → Reaches w₀ (moves ++ [m]) w'

variable {w w' : Race ι α} {m : Move ι} {b : BlobPath} {id : String}

theorem Reaches.cons {moves : List (Move ι)} {w'' : Race ι α} (hr : w'.Reaches moves w'')
    (h : w.Step m w') : w.Reaches (m :: moves) w'' := by
  induction hr with
  | refl => exact .step .refl h
  | step _ hs ih => exact .step ih hs

theorem Step.before_eq (h : Step w m w') : m.before = w.store := by cases h <;> rfl

theorem Step.after_eq (h : Step w m w') : m.after = w'.store := by cases h <;> rfl

theorem Step.mem_drawn (h : Step w m w') (hid : id ∈ w.drawn) : id ∈ w'.drawn := by
  cases h with
  | call | visit => exact List.mem_cons_of_mem _ hid
  | other => exact hid

/-- The store after a move is that before it, or that after a call with a fresh id. -/
theorem Step.store_eq (h : Step w m w') :
    w'.store = w.store ∨ ∃ fresh call, w.Fresh fresh ∧ fresh ∈ w'.drawn ∧
      w'.store = (w.store.perform fresh call).2 := by
  cases h with
  | call _ hf => exact .inr ⟨_, _, hf, List.mem_cons_self, rfl⟩
  | other => exact .inl rfl
  | visit hf => exact .inr ⟨_, _, hf, List.mem_cons_self, rfl⟩

/-- A lease whose id has been given already is no new one. -/
theorem Step.lease?_of_drawn (h : Step w m w') (hid : id ∈ w.drawn)
    (hlive : w'.store.lease? b = some id) : w.store.lease? b = some id := by
  rcases h.store_eq with hs | ⟨fresh, call, ⟨-, hfresh⟩, -, hs⟩
  · rwa [hs] at hlive
  · rw [hs] at hlive
    rcases w.store.lease?_perform fresh b call with hl | ⟨-, hl⟩ | hl
    · rwa [hl] at hlive
    · rw [hl] at hlive
      cases hlive
      exact (hfresh hid).elim
    · rw [hl] at hlive
      cases hlive

theorem Step.known (h : Step w m w') (hw : w.Known) : w'.Known := by
  intro b id hlive
  rcases h.store_eq with hs | ⟨fresh, call, -, hmem, hs⟩
  · rw [hs] at hlive
    exact h.mem_drawn (hw b id hlive)
  · rw [hs] at hlive
    rcases w.store.lease?_perform fresh b call with hl | ⟨-, hl⟩ | hl
    · rw [hl] at hlive
      exact h.mem_drawn (hw b id hlive)
    · rw [hl] at hlive
      cases hlive
      exact hmem
    · rw [hl] at hlive
      cases hlive

/-- A move that leaves a lease live leaves the size of its blob as it is. -/
theorem Step.size?_eq (h : Step w m w') (hold : w.store.lease? b = some id)
    (hnew : w'.store.lease? b = some id) : w'.store.size? b = w.store.size? b := by
  rcases h.store_eq with hs | ⟨fresh, call, -, -, hs⟩
  · rw [hs]
  · rw [hs] at hnew ⊢
    exact MemoryStore.size?_perform_of_lease? hold hnew

theorem event_eq_take {login : Credentials} {call : StoreCall} {store : MemoryStore} {fresh : String}
    (hold : store.lease? b ≠ some id) (hnew : (store.perform fresh call).2.lease? b = some id) :
    ∃ duration, (⟨.store login call, (store.perform fresh call).1⟩ : Event)
      = ⟨.store login (.acquireLease b duration), .ok id⟩ := by
  obtain ⟨duration, rfl⟩ := MemoryStore.acquireLease_of_lease? hold hnew
  refine ⟨duration, ?_⟩
  cases hanswer : (store.perform fresh (.acquireLease b duration)).1 with
  | ok id' =>
    obtain ⟨rfl, -, hlive⟩ := MemoryStore.perform_acquireLease_ok hanswer
    rw [hnew] at hlive
    cases hlive
    rfl
  | error e =>
    rw [MemoryStore.lease?_of_acquireLease_error hanswer] at hnew
    exact (hold hnew).elim

/-- A lease that was not live before a move was taken by it. -/
theorem Step.takes (h : Step w m w') (hold : w.store.lease? b ≠ some id)
    (hnew : w'.store.lease? b = some id) : m.Takes b id := by
  cases h with
  | call | visit => exact ⟨_, event_eq_take hold hnew⟩
  | other => exact (hold hnew).elim

/-- Leases are taken without a change of size. -/
theorem Step.size?_of_takes (h : Step w m w') (htake : m.Takes b id) :
    w'.store.size? b = w.store.size? b := by
  obtain ⟨login, duration, hevent⟩ := htake
  cases h with
  | call | visit =>
    injection hevent with heffect _
    cases heffect
    exact MemoryStore.size?_perform_eq nofun nofun
  | other => rfl

theorem Step.programs_eq (h : Step w m w') {i : ι} (hi : m.actor ≠ some i) :
    w'.programs i = w.programs i := by
  cases h with
  | call | other => exact Function.update_of_ne (fun e => hi (congrArg some e.symm)) _ _
  | visit => rfl

/-- A program that obeys a monitor makes a move that the monitor allows, and obeys it afterwards. -/
theorem Step.obeys {M : Monitor σ} {s : σ} {post : α → σ → Prop} {i : ι} (h : Step w m w')
    (hp : (w.programs i).Obeys M s post) (hi : m.actor = some i) :
    M.allows s m.event.effect ∧
      (w'.programs i).Obeys M (M.next s m.event.effect m.event.answer) post := by
  cases h with
  | call hask _ =>
    cases hi
    rw [hask] at hp
    exact ⟨hp.1, by simpa only [goOn, Function.update_self] using hp.2 _⟩
  | other answer hask _ =>
    cases hi
    rw [hask] at hp
    exact ⟨hp.1, by simpa only [goOn, Function.update_self] using hp.2 answer⟩
  | visit => cases hi

/-! ## Runs -/

variable {w₀ : Race ι α} {moves : List (Move ι)}

theorem Reaches.known (hrun : w₀.Reaches moves w) (hw : w₀.Known) : w.Known := by
  induction hrun with
  | refl => exact hw
  | step _ hs ih => exact hs.known ih

/-- A lease that has ended does not come back. -/
theorem Reaches.lease?_of_ends (hrun : w₀.Reaches moves w) (hw : w₀.Known) (hm : m ∈ moves)
    (hend : m.Ends b id) : id ∈ w.drawn ∧ w.store.lease? b ≠ some id := by
  induction hrun with
  | refl => cases hm
  | @step moves m' w w' hrun hs ih =>
    rcases List.mem_append.mp hm with hm | hm
    · obtain ⟨hid, hdead⟩ := ih hm
      exact ⟨hs.mem_drawn hid, fun hlive => hdead (hs.lease?_of_drawn hid hlive)⟩
    · rw [List.mem_singleton] at hm
      subst hm
      obtain ⟨hlive, hdead⟩ := hend
      rw [hs.before_eq] at hlive
      rw [hs.after_eq] at hdead
      exact ⟨hs.mem_drawn (hrun.known hw b id hlive), hdead⟩

/-- Somebody other than `i` ended the lease. -/
def EndedByOther (i : ι) (b : BlobPath) (id : String) (moves : List (Move ι)) : Prop :=
  ∃ m ∈ moves, m.actor ≠ some i ∧ m.Ends b id

/-- The lease is live, or somebody other than `i` ended it. -/
def LiveOrEnded (i : ι) (b : BlobPath) (id : String) (moves : List (Move ι)) (w : Race ι α) : Prop :=
  w.store.lease? b = some id ∨ EndedByOther i b id moves

omit [DecidableEq ι] in
theorem LiveOrEnded.own {i : ι} (h : LiveOrEnded i b id moves w)
    (hkeep : w'.store.lease? b = w.store.lease? b) : LiveOrEnded i b id (moves ++ [m]) w' := by
  rcases h with hlive | ⟨m', hm', hended⟩
  · exact .inl (hkeep ▸ hlive)
  · exact .inr ⟨m', List.mem_append_left _ hm', hended⟩

theorem LiveOrEnded.other {i : ι} (h : LiveOrEnded i b id moves w) (hs : w.Step m w')
    (hi : m.actor ≠ some i) : LiveOrEnded i b id (moves ++ [m]) w' := by
  rcases h with hlive | ⟨m', hm', hended⟩
  · -- If the lease is gone now, it was this move that ended it.
    by_cases hlive' : w'.store.lease? b = some id
    · exact .inl hlive'
    · refine .inr ⟨m, List.mem_append_right _ List.mem_cons_self, hi, ?_, ?_⟩
      · rw [hs.before_eq, hlive]
      · rwa [hs.after_eq]
  · exact .inr ⟨m', List.mem_append_left _ hm', hended⟩

/-- What holds of a race and of the progress of one of its programs, if the moves of that program keep
it by what its monitor allows, and the moves of all others keep it whatever they are. -/
theorem Reaches.follow {M : Monitor σ} {s₀ : σ} {post : α → σ → Prop} {i : ι}
    (holds : List (Move ι) → Race ι α → σ → Prop) (hrun : w₀.Reaches moves w)
    (hobeys : (w₀.programs i).Obeys M s₀ post) (hstart : holds [] w₀ s₀)
    (hown : ∀ {moves w m w' s}, holds moves w s → w.Step m w' → m.actor = some i →
      M.allows s m.event.effect → holds (moves ++ [m]) w' (M.next s m.event.effect m.event.answer))
    (hother : ∀ {moves w m w' s}, holds moves w s → w.Step m w' → m.actor ≠ some i →
      holds (moves ++ [m]) w' s) :
    ∃ s, (w.programs i).Obeys M s post ∧ holds moves w s := by
  induction hrun with
  | refl => exact ⟨s₀, hobeys, hstart⟩
  | @step moves m w w' _ hs ih =>
    obtain ⟨s, hp, hholds⟩ := ih
    by_cases hi : m.actor = some i
    · obtain ⟨ha, hp'⟩ := hs.obeys hp hi
      exact ⟨_, hp', hown hholds hs hi ha⟩
    · exact ⟨s, hs.programs_eq hi ▸ hp, hother hholds hs hi⟩

end Race

end BlobDisk
