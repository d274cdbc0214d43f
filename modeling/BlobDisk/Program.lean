import BlobDisk.Channel.Buffer
import BlobDisk.Channel.Command
import BlobDisk.Net.Address
import BlobDisk.Store.Call
import BlobDisk.Store.Credentials
import BlobDisk.Vhd.Footer

/-!
# Programs over the outside world

An operation on a disk talks to the device manager, to blob stores and to a resolver, and needs a few
values that nobody can foresee. `Effect` lists everything it can ask for, `Effect.Answer` what it is
told. A `Program` is an operation cut at its effects, and so a value: what a run does in what order
can be stated for all answers, and runs of several programs can be interleaved.

* `Program.run`: the program under a handler of effects, which threads a state;
* `Program.runIn`: the program under a handler in any monad;
* `Program.bind_done`, `Program.bind_assoc`, `Program.run_bind`: programs form a monad, and running
  respects it;
* `Action`: programs that can fail.
-/

namespace BlobDisk

/-- What an operation can ask of the outside world. -/
inductive Effect
  /-- Opens the control channel. -/
  | openChannel
  /-- Submits the control buffer under a command. -/
  | submit (command : Command) (buffer : Buffer)
  | closeChannel
  /-- Opens the blob store of an account. -/
  | connect (login : Credentials)
  /-- Calls the blob store that was opened with the credentials. -/
  | store (login : Credentials) (call : StoreCall)
  | resolve (host : String)
  /-- Makes up a name for a disk. -/
  | freshName
  /-- Reads the clock and makes up an id, for a footer. -/
  | footerStamp

/-- What the device manager leaves behind: the buffer, and how many bytes of it it reports. -/
structure Reply where
  buffer : Buffer
  length : Nat

/-- What an operation is told. -/
def Effect.Answer : Effect → Type
  | openChannel => Except Error Unit
  | submit .. => Except String Reply
  | closeChannel => Unit
  | connect _ => Except Error Unit
  | store _ call => Except Error call.Answer
  | resolve _ => Except Error IpAddress
  | freshName => String
  | footerStamp => Vhd.Stamp

/-- An operation: done with a value, or an effect and what to do with each answer. -/
inductive Program (α : Type) : Type
  | done (value : α)
  | ask (effect : Effect) (next : effect.Answer → Program α)

namespace Program

variable {α β γ σ : Type}

/-- The second program goes on with the value of the first. -/
def bind : Program α → (α → Program β) → Program β
  | done a, f => f a
  | ask e next, f => ask e fun answer => (next answer).bind f

instance : Monad Program where
  pure := done
  bind := bind

/-- The effect alone. -/
def perform (e : Effect) : Program e.Answer := ask e done

/-- The value of the program and the last state, where `handle` answers each effect. -/
def run (handle : (e : Effect) → σ → e.Answer × σ) : Program α → σ → α × σ
  | done a, s => (a, s)
  | ask e next, s => (next (handle e s).1).run handle (handle e s).2

/-- The value of the program in a monad, where `handle` answers each effect. -/
def runIn {m : Type → Type} [Monad m] (handle : (e : Effect) → m e.Answer) : Program α → m α
  | done a => pure a
  | ask e next => do (next (← handle e)).runIn handle

@[simp] theorem bind_done (a : α) (f : α → Program β) : (done a).bind f = f a := rfl

theorem done_bind (p : Program α) : p.bind done = p := by
  induction p with
  | done a => rfl
  | ask e next ih => simp only [bind]; congr; funext a; exact ih a

theorem bind_assoc (p : Program α) (f : α → Program β) (g : β → Program γ) :
    (p.bind f).bind g = p.bind fun a => (f a).bind g := by
  induction p with
  | done a => rfl
  | ask e next ih => simp only [bind]; congr; funext a; exact ih a

instance : LawfulMonad Program := .mk' Program done_bind (fun _ _ => rfl) bind_assoc

theorem run_bind (handle : (e : Effect) → σ → e.Answer × σ) (p : Program α) (f : α → Program β)
    (s : σ) : (p.bind f).run handle s = (f (p.run handle s).1).run handle (p.run handle s).2 := by
  induction p generalizing s with
  | done a => rfl
  | ask e next ih => exact ih _ _

end Program

/-- A program that can fail. -/
abbrev Action (α : Type) := ExceptT Error Program α

namespace Action

/-- Opens the control channel. -/
def openChannel : Action Unit := ExceptT.mk (Program.perform .openChannel)

/-- Opens the blob store of an account. -/
def connect (login : Credentials) : Action Unit := ExceptT.mk (Program.perform (.connect login))

/-- Calls the blob store that was opened with the credentials. -/
def store (login : Credentials) (call : StoreCall) : Action call.Answer :=
  ExceptT.mk (Program.perform (.store login call))

/-- The address of a host. -/
def resolve (host : String) : Action IpAddress := ExceptT.mk (Program.perform (.resolve host))

/-- A program that cannot fail. -/
def always {α : Type} (p : Program α) : Action α := ExceptT.mk (p.bind fun a => .done (.ok a))

/-- A result that is already known. -/
def ofExcept {α : Type} (r : Except Error α) : Action α := ExceptT.mk (.done r)

/-- The program with its error as a value. -/
def outcome {α : Type} (a : Action α) : Program (Except Error α) := a.run

end Action

end BlobDisk
