import BlobDisk.Client
import BlobDisk.Proofs.Race

/-!
# Races by the script

A script says who moves when. `Race.play` plays it, and what is played is a run of the race, so a run
can be given by its script and its end be computed.

* `Race.play_reaches`: what is played is a run;
* `Race.exists_reaches`, `Race.exists_step`: a run whose end meets a condition that was computed;
* `Sample`: a disk and a host on which nothing fails, for the runs shown beside theorems.
-/

namespace BlobDisk

/-- A turn of a script: a program goes on, or another client calls the store. Both have an id at hand. -/
inductive Turn (ι : Type)
  | go (i : ι) (fresh : String)
  | visit (login : Credentials) (call : StoreCall) (fresh : String)

/-- The value of a program that has succeeded. -/
def Program.success? {α : Type} : Program (Except Error α) → Option α
  | .done (.ok a) => some a
  | _ => none

theorem Program.success?_eq_some {α : Type} {p : Program (Except Error α)} {a : α} :
    p.success? = some a ↔ p = .done (.ok a) := by
  cases p with
  | ask e next => simp [success?]
  | done r => cases r <;> simp [success?]

namespace Race

variable {ι α : Type} [DecidableEq ι]

instance (w : Race ι α) (id : String) : Decidable (w.Fresh id) :=
  inferInstanceAs (Decidable (_ ∧ _))

/-- The move of a program, and the race after it. Effects other than calls are answered by `answers`. -/
def go (answers : (e : Effect) → e.Answer) (w : Race ι α) (i : ι) (fresh : String) :
    Program α → Option (Move ι × Race ι α)
  | .done _ => none
  | .ask (.store login call) next =>
    if w.Fresh fresh then
      some (⟨some i, ⟨.store login call, (w.store.perform fresh call).1⟩, w.store,
        (w.store.perform fresh call).2⟩, (w.called fresh call).goOn i (next (w.store.perform fresh call).1))
    else none
  | .ask e next => some (⟨some i, ⟨e, answers e⟩, w.store, w.store⟩, w.goOn i (next (answers e)))

/-- The move of a turn, and the race after it. -/
def turn (answers : (e : Effect) → e.Answer) (w : Race ι α) : Turn ι → Option (Move ι × Race ι α)
  | .go i fresh => w.go answers i fresh (w.programs i)
  | .visit login call fresh =>
    if w.Fresh fresh then
      some (⟨none, ⟨.store login call, (w.store.perform fresh call).1⟩, w.store,
        (w.store.perform fresh call).2⟩, w.called fresh call)
    else none

/-- The moves of a script, and the race after them. -/
def play (answers : (e : Effect) → e.Answer) (w : Race ι α) : List (Turn ι) → Option (List (Move ι) × Race ι α)
  | [] => some ([], w)
  | t :: rest => do
    let (m, w') ← w.turn answers t
    let (moves, last) ← w'.play answers rest
    return (m :: moves, last)

variable {answers : (e : Effect) → e.Answer} {w w' : Race ι α} {m : Move ι}

theorem step_of_turn {t : Turn ι} (h : w.turn answers t = some (m, w')) : w.Step m w' := by
  cases t with
  | visit login call fresh =>
    simp only [turn, Option.ite_none_right_eq_some, Option.some.injEq, Prod.mk.injEq] at h
    obtain ⟨hf, rfl, rfl⟩ := h
    exact .visit hf
  | go i fresh =>
    simp only [turn] at h
    cases hp : w.programs i with
    | done a =>
      rw [hp] at h
      cases h
    | ask e next =>
      rw [hp] at h
      cases e with
      | store login call =>
        simp only [go, Option.ite_none_right_eq_some, Option.some.injEq, Prod.mk.injEq] at h
        obtain ⟨hf, rfl, rfl⟩ := h
        exact .call hp hf
      | _ =>
        cases h
        exact .other _ hp fun _ _ => Effect.noConfusion

theorem play_reaches {turns : List (Turn ι)} {moves : List (Move ι)}
    (h : w.play answers turns = some (moves, w')) : w.Reaches moves w' := by
  induction turns generalizing w moves with
  | nil =>
    cases h
    exact .refl
  | cons t rest ih =>
    simp only [play, bind, pure, Option.bind_eq_some_iff] at h
    obtain ⟨⟨m, w₁⟩, ht, ⟨later, last⟩, hrest, h⟩ := h
    cases h
    exact (ih hrest).cons (step_of_turn ht)

theorem exists_reaches (answers : (e : Effect) → e.Answer) (turns : List (Turn ι))
    (holds : List (Move ι) → Race ι α → Prop) [∀ moves w, Decidable (holds moves w)]
    (h : (w.play answers turns).any (fun p => decide (holds p.1 p.2)) = true) :
    ∃ moves w', w.Reaches moves w' ∧ holds moves w' := by
  obtain ⟨⟨moves, w'⟩, hplay, hholds⟩ := (Option.any_eq_true _ _).mp h
  exact ⟨moves, w', play_reaches hplay, of_decide_eq_true hholds⟩

theorem exists_step (answers : (e : Effect) → e.Answer) (turns : List (Turn ι)) (last : Turn ι)
    (holds : List (Move ι) → Race ι α → Move ι → Race ι α → Prop)
    [∀ moves w m w', Decidable (holds moves w m w')]
    (h : (w.play answers turns).any (fun p =>
      (p.2.turn answers last).any fun q => decide (holds p.1 p.2 q.1 q.2)) = true) :
    ∃ moves w₁ m w₂, w.Reaches moves w₁ ∧ w₁.Step m w₂ ∧ holds moves w₁ m w₂ := by
  obtain ⟨⟨moves, w₁⟩, hplay, hlast⟩ := (Option.any_eq_true _ _).mp h
  obtain ⟨⟨m, w₂⟩, hturn, hholds⟩ := (Option.any_eq_true _ _).mp hlast
  exact ⟨moves, w₁, m, w₂, play_reaches hplay, step_of_turn hturn, of_decide_eq_true hholds⟩

end Race

/-! ## Conditions on moves -/

/-- The blob and the id of a lease that is taken. -/
def Event.taken? : Event → Option (BlobPath × String)
  | ⟨.store _ (.acquireLease b _), .ok id⟩ => some (b, id)
  | _ => none

/-- The buffer of a mount that is sent. -/
def Event.mountBuffer? : Event → Option Buffer
  | ⟨.submit .mount buffer, _⟩ => some buffer
  | _ => none

theorem Event.mountBuffer?_eq_some {e : Event} {buffer : Buffer} (h : e.mountBuffer? = some buffer) :
    e.effect = .submit .mount buffer := by
  unfold mountBuffer? at h
  split at h
  · cases h
    rfl
  · cases h

namespace Move

variable {ι : Type} {m : Move ι} {b : BlobPath} {id : String}

theorem takes_iff : m.Takes b id ↔ m.event.taken? = some (b, id) := by
  refine ⟨fun ⟨login, duration, h⟩ => by rw [h]; rfl, fun h => ?_⟩
  unfold Event.taken? at h
  split at h
  · rename_i login b' duration id' hevent
    cases h
    exact ⟨login, duration, hevent⟩
  · cases h

instance : Decidable (m.Takes b id) := decidable_of_iff _ takes_iff.symm

instance : Decidable (m.Ends b id) := inferInstanceAs (Decidable (_ ∧ _))

end Move

/-! ## A sample -/

namespace Sample

/-- Answers where nothing fails and the device manager says the text, whatever it is asked. -/
def answers (text : String) : (e : Effect) → e.Answer
  | .openChannel | .connect _ => .ok ()
  | .submit .. => .ok ⟨Buffer.zero.overwrite (Utf8.encode text.toList), 0⟩
  | .closeChannel => ()
  | .store .. => .error (.io "no store")
  | .resolve _ => .ok (.v4 10 0 0 1)
  | .freshName => "disk"
  | .footerStamp => (default : Vhd.Stamp)

/-- The answers with a store at hand, which leases under one id. -/
def handle (text : String) : (e : Effect) → MemoryStore → e.Answer × MemoryStore
  | .store _ call, m => m.perform "lease" call
  | e, m => (answers text e, m)

theorem eq_ok_of_toOption {ε α : Type} {v : Except ε α} {a : α} (h : v.toOption = some a) : v = .ok a := by
  cases v with
  | error e => cases h
  | ok b => exact congrArg Except.ok (Option.some.inj h)

/-- The error of a failure. -/
theorem eq_error {α : Type} {v : Except Error α} {e : Error}
    (h : (match v with | .ok _ => none | .error e => some e) = some e) : v = .error e := by
  cases v with
  | ok a => cases h
  | error e' => exact congrArg Except.error (Option.some.inj h)

def blob : BlobPath := ⟨"dysks", "disk"⟩

/-- A store with nothing but the blob, which holds some gigabytes. -/
def store (gb : Nat) : MemoryStore where
  containers := ["dysks"]
  blobs := [(blob, .fresh (UInt64.ofNat (gb * Size.gib)) .page)]

def record : Record where
  name := "disk"
  accountName := "account"
  accountKey := "a2V5"
  path := "/dysks/disk"

def client : Client where
  credentials := none

/-- The mount of the record, which takes a lease and breaks none of another, on a store with a blob of
some gigabytes. -/
def mounting (gb : Nat) : Race Unit (Except Error Record) where
  store := store gb
  drawn := []
  programs := fun _ => (client.mountRecord record { autoLease := true }).run

theorem known_mounting (gb : Nat) : (mounting gb).Known := by
  intro b id h
  simp only [mounting, store, MemoryStore.lease?, MemoryStore.blob?, Pairs.lookup_cons] at h
  split at h <;> cases h

/-- A refusal. -/
def refused : String := "ERR\nno room\n"

/-- A success whose payload is a record. -/
def accepted : String := "OK\nRW\ndisk\n2097152\naccount\na2V5\n/dysks/disk\nhost\n10.0.0.1\nlease\n8\n1\n0\n"

end Sample

end BlobDisk
