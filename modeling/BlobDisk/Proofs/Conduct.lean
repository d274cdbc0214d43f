import BlobDisk.Program

/-!
# The conduct of programs

What a program does is judged for all answers that the outside world can give. A `Monitor` follows a
run effect by effect: its state notes what has been asked and answered so far, and says which effect
may come next.

* `Program.Obeys`: for all answers, every effect of the program is allowed and what holds in the end
  is the given condition;
* `Program.obeys_bind`, `Action.obeys_bind`: a sequence is judged part by part;
* `Program.Runs`: the program ends with a value after a list of events;
* `Program.trace`, `Program.runs_trace`: the run under a handler;
* `Program.Obeys.rest`, `Program.Obeys.runs`: what a monitor says of a program, said of the events of
  its runs.
-/

namespace BlobDisk

/-- An effect and its answer. -/
structure Event where
  effect : Effect
  answer : effect.Answer

/-- What follows a run: which effects may come in a state, and the state after an event. -/
structure Monitor (σ : Type) where
  allows : σ → Effect → Prop
  next : σ → (e : Effect) → e.Answer → σ

namespace Monitor

variable {σ : Type}

/-- The state after some more events. -/
def after (M : Monitor σ) (s : σ) (events : List Event) : σ :=
  events.foldl (fun s event => M.next s event.effect event.answer) s

@[simp] theorem after_nil (M : Monitor σ) (s : σ) : M.after s [] = s := rfl

@[simp] theorem after_cons (M : Monitor σ) (s : σ) (event : Event) (events : List Event) :
    M.after s (event :: events) = M.after (M.next s event.effect event.answer) events := rfl

end Monitor

namespace Program

variable {α β σ : Type}

/-- For all answers the program performs allowed effects only, and ends with a value and in a state
that meet `post`. -/
def Obeys (M : Monitor σ) : Program α → σ → (α → σ → Prop) → Prop
  | done a, s, post => post a s
  | ask e next, s, post => M.allows s e ∧ ∀ answer, (next answer).Obeys M (M.next s e answer) post

variable {M : Monitor σ} {s : σ} {post : α → σ → Prop}

@[simp] theorem obeys_done {a : α} : (done a).Obeys M s post ↔ post a s := Iff.rfl

@[simp] theorem obeys_pure {a : α} : (pure a : Program α).Obeys M s post ↔ post a s := Iff.rfl

@[simp] theorem obeys_ask {e : Effect} {next : e.Answer → Program α} :
    (ask e next).Obeys M s post ↔
      M.allows s e ∧ ∀ answer, (next answer).Obeys M (M.next s e answer) post := Iff.rfl

@[simp] theorem obeys_perform {e : Effect} {post : e.Answer → σ → Prop} :
    (perform e).Obeys M s post ↔ M.allows s e ∧ ∀ answer, post answer (M.next s e answer) := Iff.rfl

theorem obeys_bind {p : Program α} {f : α → Program β} {post : β → σ → Prop} :
    (p >>= f).Obeys M s post ↔ p.Obeys M s fun a s => (f a).Obeys M s post := by
  change (p.bind f).Obeys M s post ↔ _
  induction p generalizing s with
  | done a => rfl
  | ask e next ih => simp only [bind, obeys_ask, ih]

theorem Obeys.mono {p : Program α} {post post' : α → σ → Prop} (h : p.Obeys M s post)
    (hpost : ∀ a s, post a s → post' a s) : p.Obeys M s post' := by
  induction p generalizing s with
  | done a => exact hpost a s h
  | ask e next ih => exact ⟨h.1, fun answer => ih answer (h.2 answer)⟩

/-- The program ends with the value after the events. -/
inductive Runs : Program α → List Event → α → Prop
  | done (a : α) : Runs (.done a) [] a
  | ask {e : Effect} {next : e.Answer → Program α} {events : List Event} {a : α} (answer : e.Answer) :
    Runs (next answer) events a → Runs (.ask e next) (⟨e, answer⟩ :: events) a

/-- A run of the first program goes on with a run of the second. -/
theorem Runs.bind {p : Program α} {f : α → Program β} {front back : List Event} {a : α} {b : β}
    (hp : p.Runs front a) (hf : (f a).Runs back b) : (p >>= f).Runs (front ++ back) b := by
  induction hp with
  | done a => exact hf
  | ask answer _ ih => exact .ask answer (ih hf)

/-- The events of the program under a handler, and its value. -/
def trace {τ : Type} (handle : (e : Effect) → τ → e.Answer × τ) : Program α → τ → List Event × α
  | done a, _ => ([], a)
  | ask e next, t =>
    let (events, a) := (next (handle e t).1).trace handle (handle e t).2
    (⟨e, (handle e t).1⟩ :: events, a)

theorem runs_trace {τ : Type} (handle : (e : Effect) → τ → e.Answer × τ) (p : Program α) (t : τ) :
    p.Runs (p.trace handle t).1 (p.trace handle t).2 := by
  induction p generalizing t with
  | done a => exact .done a
  | ask e next ih => exact .ask _ (ih _ _)

/-- What is left of a run after some events is a run of a program that obeys the monitor. -/
theorem Obeys.rest {p : Program α} (h : p.Obeys M s post) {front back : List Event} {a : α}
    (hr : p.Runs (front ++ back) a) :
    ∃ q : Program α, q.Runs back a ∧ q.Obeys M (M.after s front) post := by
  induction front generalizing p s with
  | nil => exact ⟨p, hr, h⟩
  | cons event front ih =>
    cases hr with
    | ask answer hr => exact ih (h.2 answer) hr

theorem Obeys.runs {p : Program α} (h : p.Obeys M s post) {events : List Event} {a : α}
    (hr : p.Runs events a) : post a (M.after s events) := by
  rw [← List.append_nil events] at hr
  obtain ⟨q, hq, hobeys⟩ := h.rest hr
  cases hq
  exact hobeys

end Program

namespace Action

variable {α β σ : Type}

/-- For all answers the action performs allowed effects only; where it succeeds it ends with a value
and in a state that meet `good`, where it fails with an error and in a state that meet `bad`. -/
def Obeys (M : Monitor σ) (a : Action α) (s : σ) (good : α → σ → Prop) (bad : Error → σ → Prop) : Prop :=
  Program.Obeys M a.run s fun
    | .ok x, s => good x s
    | .error e, s => bad e s

variable {M : Monitor σ} {s : σ} {good : α → σ → Prop} {bad : Error → σ → Prop}

theorem Obeys.mono {a : Action α} {good' : α → σ → Prop} {bad' : Error → σ → Prop}
    (h : a.Obeys M s good bad) (hgood : ∀ x s, good x s → good' x s)
    (hbad : ∀ e s, bad e s → bad' e s) : a.Obeys M s good' bad' := by
  refine Program.Obeys.mono h fun r s hr => ?_
  cases r with
  | ok x => exact hgood x s hr
  | error e => exact hbad e s hr

/-- What holds of the last state whether the action succeeds or fails. -/
theorem Obeys.run {a : Action α} {post : σ → Prop} (h : a.Obeys M s (fun _ => post) fun _ => post) :
    Program.Obeys M a.run s fun _ => post := by
  refine Program.Obeys.mono h fun r s hr => ?_
  cases r <;> exact hr

theorem obeys_bind {a : Action α} {f : α → Action β} {good : β → σ → Prop} :
    (a >>= f).Obeys M s good bad ↔ a.Obeys M s (fun x s => (f x).Obeys M s good bad) bad := by
  simp only [Obeys, ExceptT.run_bind, Program.obeys_bind]
  refine ⟨fun h => Program.Obeys.mono h fun r s hr => ?_, fun h => Program.Obeys.mono h fun r s hr => ?_⟩ <;>
  · cases r <;> exact hr

theorem obeys_map {a : Action α} {f : α → β} {good : β → σ → Prop} :
    (f <$> a).Obeys M s good bad ↔ a.Obeys M s (fun x s => good (f x) s) bad := by
  refine Program.obeys_bind.trans ⟨fun h => Program.Obeys.mono h fun r s hr => ?_,
    fun h => Program.Obeys.mono h fun r s hr => ?_⟩ <;>
  · cases r <;> exact hr

/-- A step that only refuses. -/
theorem obeys_guard {c : Prop} {_ : Decidable c} {e : Error} {f : α → Action β} {y : Action β}
    {good : β → σ → Prop} : (if c then (throw e : Action α) >>= f else y).Obeys M s good bad ↔
      (c → bad e s) ∧ (¬ c → y.Obeys M s good bad) := by
  by_cases hc : c
  · simp only [hc, if_true, not_true, false_implies, and_true, true_implies]
    exact Iff.rfl
  · simp only [hc, if_false, not_false_eq_true, false_implies, true_and, true_implies]

@[simp] theorem obeys_pure {x : α} : (pure x : Action α).Obeys M s good bad ↔ good x s := Iff.rfl

@[simp] theorem obeys_throw {e : Error} : (throw e : Action α).Obeys M s good bad ↔ bad e s := Iff.rfl

theorem obeys_ofExcept {r : Except Error α} :
    (ofExcept r).Obeys M s good bad ↔ (∀ x, r = .ok x → good x s) ∧ ∀ e, r = .error e → bad e s := by
  cases r <;> simp [Obeys, ofExcept]

theorem obeys_always {p : Program α} :
    (always p).Obeys M s good bad ↔ p.Obeys M s good := Program.obeys_bind

theorem obeys_outcome {a : Action α} {post : Except Error α → σ → Prop} :
    a.outcome.Obeys M s post ↔
      a.Obeys M s (fun x s => post (.ok x) s) fun e s => post (.error e) s := by
  refine ⟨fun h => h.mono fun r s hr => ?_, fun h => Program.Obeys.mono h fun r s hr => ?_⟩ <;>
  · cases r <;> exact hr

/-! ## Single effects -/

theorem forall_except {β : Type} {holds : Except Error β → Prop} :
    (∀ r, holds r) ↔ (∀ x, holds (.ok x)) ∧ ∀ e, holds (.error e) := by
  refine ⟨fun h => ⟨fun x => h (.ok x), fun e => h (.error e)⟩, fun h r => ?_⟩
  cases r with
  | ok x => exact h.1 x
  | error e => exact h.2 e

theorem obeys_openChannel {good : Unit → σ → Prop} : openChannel.Obeys M s good bad ↔
    M.allows s .openChannel ∧ (∀ x, good x (M.next s .openChannel (.ok x))) ∧
      ∀ e, bad e (M.next s .openChannel (.error e)) :=
  and_congr_right fun _ => forall_except

theorem obeys_connect {login : Credentials} {good : Unit → σ → Prop} :
    (connect login).Obeys M s good bad ↔
      M.allows s (.connect login) ∧ (∀ x, good x (M.next s (.connect login) (.ok x))) ∧
        ∀ e, bad e (M.next s (.connect login) (.error e)) :=
  and_congr_right fun _ => forall_except

theorem obeys_store {login : Credentials} {call : StoreCall} {good : call.Answer → σ → Prop} :
    (store login call).Obeys M s good bad ↔
      M.allows s (.store login call) ∧ (∀ x, good x (M.next s (.store login call) (.ok x))) ∧
        ∀ e, bad e (M.next s (.store login call) (.error e)) :=
  and_congr_right fun _ => forall_except

theorem obeys_resolve {host : String} {good : IpAddress → σ → Prop} :
    (resolve host).Obeys M s good bad ↔
      M.allows s (.resolve host) ∧ (∀ x, good x (M.next s (.resolve host) (.ok x))) ∧
        ∀ e, bad e (M.next s (.resolve host) (.error e)) :=
  and_congr_right fun _ => forall_except

end Action

end BlobDisk
