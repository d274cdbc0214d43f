/-!
# What can go wrong

An operation on a disk fails for one of twelve causes, and the cause decides the exit status of the
command line:

* `Error.message`: the text shown to a user, the cause's own heading before its detail;
* `Error.kind`, `Error.ofKind?`: the name of the kind, and back;
* `Error.exitCode`: the status of a process that ends with the error;
* `Error.isBackend`: whether the blob service itself refused;
* `pure_eq_ok`, `bind_eq_ok`, `check_eq_ok`, `map_eq_ok`, `guard_eq_ok`: when a sequence of steps that can fail succeeds;
* `bind_eq_error`: when it fails.
-/

namespace BlobDisk

/-- The reason why an operation failed. Each carries the detail that its message shows. -/
inductive Error
  /-- An argument breaks a rule that is checked before anything is sent. -/
  | validation (detail : String)
  /-- An answer of the device manager cannot be read as a record. -/
  | decode (detail : String)
  /-- A record cannot be written for the device manager. -/
  | encode (detail : String)
  /-- The control channel itself failed. -/
  | channel (detail : String)
  /-- The device manager answered with a refusal, given here word for word. -/
  | device (detail : String)
  | notFound (detail : String)
  | leaseAlreadyPresent (detail : String)
  | leaseMismatch (detail : String)
  | backend (detail : String)
  | config (detail : String)
  | serialization (detail : String)
  | io (detail : String)
deriving DecidableEq, Repr, Inhabited

namespace Error

/-- The text shown to a user: refusals of a rule or of the device manager speak for themselves, the
others are headed by their kind. -/
def message : Error → String
  | validation d => d
  | decode d => "Failed to decode device record: " ++ d
  | encode d => "Failed to encode device record: " ++ d
  | channel d => "Control channel error: " ++ d
  | device d => d
  | notFound d => "Not found: " ++ d
  | leaseAlreadyPresent d => "Lease already present: " ++ d
  | leaseMismatch d => "Lease mismatch: " ++ d
  | backend d => "Backend error: " ++ d
  | config d => "Configuration error: " ++ d
  | serialization d => "Serialization error: " ++ d
  | io d => "I/O error: " ++ d

/-- The name of the kind of error. -/
def kind : Error → String
  | validation _ => "Validation"
  | decode _ => "Decode"
  | encode _ => "Encode"
  | channel _ => "Channel"
  | device _ => "Device"
  | notFound _ => "NotFound"
  | leaseAlreadyPresent _ => "LeaseAlreadyPresent"
  | leaseMismatch _ => "LeaseMismatch"
  | backend _ => "Backend"
  | config _ => "Config"
  | serialization _ => "Serialization"
  | io _ => "Io"

/-- The error of a kind with the given detail. -/
def ofKind? (kind detail : String) : Option Error :=
  [validation, decode, encode, channel, device, notFound, leaseAlreadyPresent, leaseMismatch,
    backend, config, serialization, io].findSome? fun make =>
      if (make detail).kind = kind then some (make detail) else none

/-- The status of a process that ends with the error, one per part of the system. -/
def exitCode : Error → Nat
  | serialization _ | io _ => 1
  | validation _ | encode _ => 2
  | config _ => 3
  | channel _ => 4
  | device _ | decode _ => 5
  | notFound _ | leaseAlreadyPresent _ | leaseMismatch _ | backend _ => 6

/-- Whether the blob service raised the error. -/
def isBackend : Error → Bool
  | notFound _ | leaseAlreadyPresent _ | leaseMismatch _ | backend _ => true
  | _ => false

/-- The errors of the blob service are exactly those with the status six. -/
theorem isBackend_iff_exitCode (e : Error) : e.isBackend = true ↔ e.exitCode = 6 := by
  cases e <;> simp [isBackend, exitCode]

end Error

/-! ## Steps in sequence -/

section

variable {ε α β : Type} {x : Except ε α} {f : α → Except ε β}

theorem pure_eq_ok {a b : α} : (pure a : Except ε α) = .ok b ↔ a = b := Except.ok.injEq a b ▸ Iff.rfl

theorem bind_eq_ok {b : β} : x >>= f = .ok b ↔ ∃ a, x = .ok a ∧ f a = .ok b := by
  cases x with
  | ok a => simp [bind, Except.bind]
  | error e => simp [bind, Except.bind]

theorem bind_eq_error {e : ε} :
    x >>= f = .error e ↔ x = .error e ∨ ∃ a, x = .ok a ∧ f a = .error e := by
  cases x with
  | ok a => simp [bind, Except.bind]
  | error e' => simp [bind, Except.bind]

/-- A step without a value. -/
theorem check_eq_ok {x : Except ε Unit} {f : Unit → Except ε β} {b : β} :
    x >>= f = .ok b ↔ x = .ok () ∧ f () = .ok b := by
  rw [bind_eq_ok]
  exact ⟨fun ⟨⟨⟩, h⟩ => h, fun h => ⟨(), h⟩⟩

theorem map_eq_ok {f : α → β} {b : β} : x.map f = .ok b ↔ ∃ a, x = .ok a ∧ f a = b := by
  cases x with
  | ok a => simp [Except.map]
  | error e => simp [Except.map]

theorem ite_error_eq_ok {c : Prop} [Decidable c] {e : ε} {y : Except ε β} {b : β} :
    (if c then .error e else y) = .ok b ↔ ¬ c ∧ y = .ok b := by
  by_cases hc : c <;> simp [hc]

/-- A step that only refuses. -/
theorem guard_eq_ok {c : Prop} [Decidable c] {e : ε} {y : Except ε β} {b : β} :
    (if c then (throw e : Except ε α) >>= f else y) = .ok b ↔ ¬ c ∧ y = .ok b := by
  by_cases hc : c
  · simp [hc, bind_eq_ok, throw, throwThe, MonadExceptOf.throw]
  · simp [hc]

end

end BlobDisk
