import BlobDisk.Channel.Exchange
import BlobDisk.Proofs.Conduct

/-!
# Programs in a world

A world has a state, and says how an effect can be answered in it and which states can follow. More
than one answer may be possible, as where calls can fail at any time. A run of a program in a world is
kept as its scenes: the events with the states in which they came.

* `Outside`, `Outside.Passes`: a world, and a passage of scenes through it;
* `Program.RunsIn`: the runs of a program in a world;
* `Program.Ensures`, `Action.Ensures`: what holds of all runs, judged part by part;
* `Program.ensures_iff`: the judgement is exact;
* `Outside.Passes.map`, `Program.Ensures.comap`: what is seen through a view of the state;
* `Outside.Where`: a world where only events of one kind happen;
* `Program.scenes`, `Program.runsIn_scenes`: the run under a handler.
-/

namespace BlobDisk

/-- A world: the event can come in the first state and leave the second. -/
abbrev Outside (σ : Type) := σ → Event → σ → Prop

/-- An event and the state in which it came. -/
structure Scene (σ : Type) where
  state : σ
  event : Event

namespace Scene

variable {σ τ : Type}

/-- The scene with its state seen through a view. -/
def map (view : σ → τ) (x : Scene σ) : Scene τ := ⟨view x.state, x.event⟩

/-- The events of scenes. -/
def events (scenes : List (Scene σ)) : List Event := scenes.map (·.event)

theorem events_map (view : σ → τ) (scenes : List (Scene σ)) :
    events (scenes.map (map view)) = events scenes := List.map_map

end Scene

namespace Outside

variable {σ τ : Type} {W : Outside σ}

/-- The scenes lead from one state to the other. -/
inductive Passes (W : Outside σ) : σ → List (Scene σ) → σ → Prop
  | nil (s : σ) : Passes W s [] s
  | cons {s s₁ s' : σ} {event : Event} {scenes : List (Scene σ)} :
    W s event s₁ → Passes W s₁ scenes s' → Passes W s (⟨s, event⟩ :: scenes) s'

/-- Events of a kind that changes nothing change nothing. -/
theorem Passes.frame {E : Effect → Prop}
    (hW : ∀ s event s', W s event s' → E event.effect → s' = s) {s s' : σ} {scenes : List (Scene σ)}
    (h : W.Passes s scenes s') (hE : ∀ e ∈ Scene.events scenes, E e.effect) : s' = s := by
  induction h with
  | nil s => rfl
  | cons hstep _ ih =>
    have hs := hW _ _ _ hstep (hE _ List.mem_cons_self)
    exact (ih fun e he => hE e (List.mem_cons_of_mem _ he)).trans hs

/-- A view that every event respects is respected by every passage. -/
theorem Passes.map {V : Outside τ} {view : σ → τ}
    (h : ∀ s event s', W s event s' → V (view s) event (view s')) {s s' : σ} {scenes : List (Scene σ)}
    (hp : W.Passes s scenes s') : V.Passes (view s) (scenes.map (Scene.map view)) (view s') := by
  induction hp with
  | nil s => exact .nil _
  | cons hstep _ ih => exact .cons (h _ _ _ hstep) ih

/-- The events of a world that are of a kind. -/
def Where (W : Outside σ) (good : Event → Prop) : Outside σ := fun s event s' => W s event s' ∧ good event

theorem Passes.restrict {good : Event → Prop} {s s' : σ} {scenes : List (Scene σ)}
    (h : W.Passes s scenes s') (hgood : ∀ e ∈ Scene.events scenes, good e) :
    (W.Where good).Passes s scenes s' := by
  induction h with
  | nil s => exact .nil s
  | cons hstep _ ih =>
    exact .cons ⟨hstep, hgood _ List.mem_cons_self⟩ (ih fun e he => hgood e (List.mem_cons_of_mem _ he))

end Outside

namespace Program

variable {α β σ τ : Type} {W : Outside σ} {s s' : σ} {a : α}

/-- The program ends with the value after the scenes, which lead from one state to the other. -/
def RunsIn (W : Outside σ) (p : Program α) (s : σ) (scenes : List (Scene σ)) (a : α) (s' : σ) : Prop :=
  p.Runs (Scene.events scenes) a ∧ W.Passes s scenes s'

theorem RunsIn.map {V : Outside τ} {view : σ → τ}
    (h : ∀ s event s', W s event s' → V (view s) event (view s')) {p : Program α}
    {scenes : List (Scene σ)} (hr : p.RunsIn W s scenes a s') :
    p.RunsIn V (view s) (scenes.map (Scene.map view)) a (view s') :=
  ⟨(Scene.events_map view scenes).symm ▸ hr.1, hr.2.map h⟩

/-- A run with events of one kind only. -/
theorem RunsIn.restrict {good : Event → Prop} {p : Program α} {scenes : List (Scene σ)}
    (h : p.RunsIn W s scenes a s') (hgood : ∀ e ∈ Scene.events scenes, good e) :
    p.RunsIn (W.Where good) s scenes a s' :=
  ⟨h.1, h.2.restrict hgood⟩

/-- For all answers that the world can give, the program ends with scenes, a value and a state that
meet `post`. -/
def Ensures (W : Outside σ) : Program α → σ → (List (Scene σ) → α → σ → Prop) → Prop
  | done a, s, post => post [] a s
  | ask e next, s, post => ∀ answer s', W s ⟨e, answer⟩ s' →
    (next answer).Ensures W s' fun scenes => post (⟨s, e, answer⟩ :: scenes)

variable {post : List (Scene σ) → α → σ → Prop}

@[simp] theorem ensures_done {a : α} : (done a).Ensures W s post ↔ post [] a s := Iff.rfl

theorem ensures_perform {e : Effect} {post : List (Scene σ) → e.Answer → σ → Prop} :
    (perform e).Ensures W s post ↔
      ∀ answer s', W s ⟨e, answer⟩ s' → post [⟨s, e, answer⟩] answer s' := Iff.rfl

/-- Nothing comes after a program that is done. -/
theorem ensures_done_append {a : α} {front : List (Scene σ)} :
    ((done a).Ensures W s fun back => post (front ++ back)) ↔ post front a s := by
  rw [ensures_done, List.append_nil]

theorem Ensures.mono {p : Program α} {post' : List (Scene σ) → α → σ → Prop} (h : p.Ensures W s post)
    (hpost : ∀ scenes a s', post scenes a s' → post' scenes a s') : p.Ensures W s post' := by
  induction p generalizing s post post' with
  | done a => exact hpost _ _ _ h
  | ask e next ih =>
    exact fun answer s' hstep => ih answer (h answer s' hstep) fun scenes => hpost _

theorem ensures_congr {p : Program α} {post' : List (Scene σ) → α → σ → Prop}
    (h : ∀ scenes a s', post scenes a s' ↔ post' scenes a s') :
    p.Ensures W s post ↔ p.Ensures W s post' :=
  ⟨fun hp => hp.mono fun scenes a s' => (h scenes a s').mp,
    fun hp => hp.mono fun scenes a s' => (h scenes a s').mpr⟩

theorem ensures_bind {p : Program α} {f : α → Program β} {post : List (Scene σ) → β → σ → Prop} :
    (p >>= f).Ensures W s post ↔
      p.Ensures W s fun front a s' => (f a).Ensures W s' fun back => post (front ++ back) := by
  change (p.bind f).Ensures W s post ↔ _
  induction p generalizing s post with
  | done a => rfl
  | ask e next ih =>
    exact forall_congr' fun answer => forall_congr' fun s' => forall_congr' fun _ => ih answer

/-- What is judged of a program is what holds of all its runs. -/
theorem ensures_iff {p : Program α} :
    p.Ensures W s post ↔ ∀ scenes a s', p.RunsIn W s scenes a s' → post scenes a s' := by
  constructor
  · rintro h scenes a s' ⟨hruns, hpasses⟩
    induction hpasses generalizing p post with
    | nil s =>
      cases hruns
      exact h
    | cons hstep _ ih =>
      cases hruns with
      | ask answer hruns => exact ih (h answer _ hstep) hruns
  · intro h
    induction p generalizing s post with
    | done a => exact h [] a s ⟨.done a, .nil s⟩
    | ask e next ih =>
      exact fun answer s' hstep => ih answer fun scenes a s'' hr =>
        h _ a s'' ⟨.ask answer hr.1, .cons hstep hr.2⟩

/-- What holds of all runs that are seen through a view holds of all runs. -/
theorem Ensures.comap {V : Outside τ} {view : σ → τ}
    (h : ∀ s event s', W s event s' → V (view s) event (view s')) {p : Program α} {s : σ}
    {post : List (Scene τ) → α → τ → Prop} (hp : p.Ensures V (view s) post) :
    p.Ensures W s fun scenes a s' => post (scenes.map (Scene.map view)) a (view s') :=
  ensures_iff.mpr fun _ _ _ hr => ensures_iff.mp hp _ _ _ (hr.map h)

theorem Ensures.and {p : Program α} {post' : List (Scene σ) → α → σ → Prop} (h : p.Ensures W s post)
    (h' : p.Ensures W s post') :
    p.Ensures W s fun scenes a s' => post scenes a s' ∧ post' scenes a s' :=
  ensures_iff.mpr fun scenes a s' hr => ⟨ensures_iff.mp h scenes a s' hr, ensures_iff.mp h' scenes a s' hr⟩

/-- The scenes of the program under a handler, its value and the last state. -/
def scenes (handle : (e : Effect) → σ → e.Answer × σ) : Program α → σ → List (Scene σ) × α × σ
  | done a, s => ([], a, s)
  | ask e next, s =>
    let (scenes, last) := (next (handle e s).1).scenes handle (handle e s).2
    (⟨s, e, (handle e s).1⟩ :: scenes, last)

/-- Under a handler that keeps to the world where its answers are good, the program runs in the world. -/
theorem runsIn_scenes {handle : (e : Effect) → σ → e.Answer × σ} {good : Event → Prop}
    (h : ∀ e s, good ⟨e, (handle e s).1⟩ → W s ⟨e, (handle e s).1⟩ (handle e s).2) (p : Program α)
    (s : σ) (hgood : ∀ event ∈ Scene.events (p.scenes handle s).1, good event) :
    p.RunsIn W s (p.scenes handle s).1 (p.scenes handle s).2.1 (p.scenes handle s).2.2 := by
  induction p generalizing s with
  | done a => exact ⟨.done a, .nil s⟩
  | ask e next ih =>
    obtain ⟨hruns, hpasses⟩ := ih (handle e s).1 (handle e s).2
      fun event hevent => hgood event (List.mem_cons_of_mem _ hevent)
    exact ⟨.ask _ hruns, .cons (h e s (hgood _ List.mem_cons_self)) hpasses⟩

end Program

namespace Action

variable {α β σ : Type} {W : Outside σ} {s : σ}

/-- For all answers that the world can give, the action ends with scenes, a value and a state that meet
`good` where it succeeds, and with scenes, an error and a state that meet `bad` where it fails. -/
def Ensures (W : Outside σ) (a : Action α) (s : σ) (good : List (Scene σ) → α → σ → Prop)
    (bad : List (Scene σ) → Error → σ → Prop) : Prop :=
  Program.Ensures W a.run s fun scenes r s' =>
    match r with
    | .ok x => good scenes x s'
    | .error e => bad scenes e s'

variable {good : List (Scene σ) → α → σ → Prop} {bad : List (Scene σ) → Error → σ → Prop}

theorem Ensures.mono {a : Action α} {good' : List (Scene σ) → α → σ → Prop}
    {bad' : List (Scene σ) → Error → σ → Prop} (h : a.Ensures W s good bad)
    (hgood : ∀ scenes x s', good scenes x s' → good' scenes x s')
    (hbad : ∀ scenes e s', bad scenes e s' → bad' scenes e s') : a.Ensures W s good' bad' := by
  refine Program.Ensures.mono h fun scenes r s' hr => ?_
  cases r with
  | ok x => exact hgood scenes x s' hr
  | error e => exact hbad scenes e s' hr

theorem ensures_of_forall {a : Action α} (hgood : ∀ scenes x s', good scenes x s')
    (hbad : ∀ scenes e s', bad scenes e s') : a.Ensures W s good bad := by
  refine Program.ensures_iff.mpr fun scenes r s' _ => ?_
  cases r with
  | ok x => exact hgood scenes x s'
  | error e => exact hbad scenes e s'

theorem Ensures.and {a : Action α} {good' : List (Scene σ) → α → σ → Prop}
    {bad' : List (Scene σ) → Error → σ → Prop} (h : a.Ensures W s good bad)
    (h' : a.Ensures W s good' bad') :
    a.Ensures W s (fun scenes x s' => good scenes x s' ∧ good' scenes x s')
      fun scenes e s' => bad scenes e s' ∧ bad' scenes e s' := by
  refine Program.Ensures.mono (Program.Ensures.and h h') fun scenes r s' hr => ?_
  cases r <;> exact hr

theorem Ensures.comap {τ : Type} {V : Outside τ} {view : σ → τ}
    (h : ∀ s event s', W s event s' → V (view s) event (view s')) {a : Action α}
    {good : List (Scene τ) → α → τ → Prop} {bad : List (Scene τ) → Error → τ → Prop}
    (ha : a.Ensures V (view s) good bad) :
    a.Ensures W s (fun scenes x s' => good (scenes.map (Scene.map view)) x (view s'))
      fun scenes e s' => bad (scenes.map (Scene.map view)) e (view s') := by
  refine Program.Ensures.mono (Program.Ensures.comap h ha) fun scenes r s' hr => ?_
  cases r <;> exact hr

theorem ensures_bind {a : Action α} {f : α → Action β} {good : List (Scene σ) → β → σ → Prop} :
    (a >>= f).Ensures W s good bad ↔
      a.Ensures W s (fun front x s' => (f x).Ensures W s' (fun back => good (front ++ back))
        fun back => bad (front ++ back)) bad := by
  simp only [Ensures, ExceptT.run_bind, Program.ensures_bind]
  refine Program.ensures_congr fun front r s' => ?_
  cases r with
  | ok x => exact Iff.rfl
  | error e => exact Program.ensures_done_append (W := W)

theorem ensures_map {a : Action α} {f : α → β} {good : List (Scene σ) → β → σ → Prop} :
    (f <$> a).Ensures W s good bad ↔ a.Ensures W s (fun scenes x => good scenes (f x)) bad := by
  refine Program.ensures_bind.trans (Program.ensures_congr fun front r s' => ?_)
  cases r <;> exact Program.ensures_done_append (W := W)

/-- A step that only refuses. -/
theorem ensures_guard {c : Prop} {_ : Decidable c} {e : Error} {f : α → Action β} {y : Action β}
    {good : List (Scene σ) → β → σ → Prop} :
    (if c then (throw e : Action α) >>= f else y).Ensures W s good bad ↔
      (c → bad [] e s) ∧ (¬ c → y.Ensures W s good bad) := by
  by_cases hc : c
  · simp only [hc, if_true, not_true, false_implies, and_true, true_implies]
    exact Iff.rfl
  · simp only [hc, if_false, not_false_eq_true, false_implies, true_and, true_implies]

theorem ensures_ofExcept {r : Except Error α} :
    (ofExcept r).Ensures W s good bad ↔
      (∀ x, r = .ok x → good [] x s) ∧ ∀ e, r = .error e → bad [] e s := by
  cases r <;> simp [Ensures, ofExcept]

theorem ensures_always {p : Program α} :
    (always p).Ensures W s good bad ↔ p.Ensures W s good :=
  Program.ensures_bind.trans (Program.ensures_congr fun _ _ _ => Program.ensures_done_append (W := W))

theorem ensures_outcome {a : Action α} {post : List (Scene σ) → Except Error α → σ → Prop} :
    a.outcome.Ensures W s post ↔
      a.Ensures W s (fun scenes x => post scenes (.ok x)) fun scenes e => post scenes (.error e) := by
  refine Program.ensures_congr fun scenes r s' => ?_
  cases r <;> exact Iff.rfl

/-! ## Single effects -/

theorem ensures_openChannel {good : List (Scene σ) → Unit → σ → Prop} :
    openChannel.Ensures W s good bad ↔
      (∀ x s', W s ⟨.openChannel, .ok x⟩ s' → good [⟨s, .openChannel, .ok x⟩] x s') ∧
        ∀ e s', W s ⟨.openChannel, .error e⟩ s' → bad [⟨s, .openChannel, .error e⟩] e s' :=
  forall_except

theorem ensures_connect {login : Credentials} {good : List (Scene σ) → Unit → σ → Prop} :
    (connect login).Ensures W s good bad ↔
      (∀ x s', W s ⟨.connect login, .ok x⟩ s' → good [⟨s, .connect login, .ok x⟩] x s') ∧
        ∀ e s', W s ⟨.connect login, .error e⟩ s' → bad [⟨s, .connect login, .error e⟩] e s' :=
  forall_except

theorem ensures_store {login : Credentials} {call : StoreCall}
    {good : List (Scene σ) → call.Answer → σ → Prop} :
    (store login call).Ensures W s good bad ↔
      (∀ x s', W s ⟨.store login call, .ok x⟩ s' → good [⟨s, .store login call, .ok x⟩] x s') ∧
        ∀ e s', W s ⟨.store login call, .error e⟩ s' → bad [⟨s, .store login call, .error e⟩] e s' :=
  forall_except

theorem ensures_resolve {host : String} {good : List (Scene σ) → IpAddress → σ → Prop} :
    (resolve host).Ensures W s good bad ↔
      (∀ x s', W s ⟨.resolve host, .ok x⟩ s' → good [⟨s, .resolve host, .ok x⟩] x s') ∧
        ∀ e s', W s ⟨.resolve host, .error e⟩ s' → bad [⟨s, .resolve host, .error e⟩] e s' :=
  forall_except

end Action

namespace Channel

variable {α σ : Type} {W : Outside σ} {s : σ} {bad : List (Scene σ) → Error → σ → Prop}

theorem ensures_exchangeBuffer {command : Command} {buffer : Buffer}
    {good : List (Scene σ) → String → σ → Prop} :
    (exchangeBuffer command buffer).Ensures W s good bad ↔
      (∀ detail s', W s ⟨.submit command buffer, .error detail⟩ s' →
        bad [⟨s, .submit command buffer, .error detail⟩] (.channel detail) s') ∧
      ∀ (reply : Reply) s', W s ⟨.submit command buffer, .ok reply⟩ s' →
        (∀ payload, (Envelope.ofBuffer reply.buffer reply.length).result = .ok payload →
          good [⟨s, .submit command buffer, .ok reply⟩] payload s') ∧
        ∀ e, (Envelope.ofBuffer reply.buffer reply.length).result = .error e →
          bad [⟨s, .submit command buffer, .ok reply⟩] e s' := by
  unfold exchangeBuffer
  rw [Action.ensures_bind, Action.ensures_always, Program.ensures_perform]
  refine ⟨fun h => ⟨fun detail => h (.error detail), fun reply s' hstep => ?_⟩,
    fun ⟨herror, hok⟩ answer s' hstep => ?_⟩
  · exact (Action.ensures_ofExcept (W := W)).mp (h (.ok reply) s' hstep)
  · cases answer with
    | error detail => exact herror detail s' hstep
    | ok reply => exact (Action.ensures_ofExcept (W := W)).mpr (hok reply s' hstep)

/-- The control channel is closed before the result is known. -/
theorem ensures_close {result : Except Error α} {good : List (Scene σ) → α → σ → Prop} :
    (do Action.always (Program.perform .closeChannel); Action.ofExcept result).Ensures W s good bad ↔
      ∀ s', W s ⟨.closeChannel, ()⟩ s' → (∀ x, result = .ok x → good [⟨s, .closeChannel, ()⟩] x s') ∧
        ∀ e, result = .error e → bad [⟨s, .closeChannel, ()⟩] e s' := by
  refine Action.ensures_bind.trans (Action.ensures_always.trans (Program.ensures_perform.trans ?_))
  exact ⟨fun h s' hstep => (Action.ensures_ofExcept (W := W)).mp (h () s' hstep),
    fun h _ s' hstep => (Action.ensures_ofExcept (W := W)).mpr (h s' hstep)⟩

theorem ensures_withChannel {body : Action α} {good : List (Scene σ) → α → σ → Prop} :
    (withChannel body).Ensures W s good bad ↔
      (∀ x s₁, W s ⟨.openChannel, .ok x⟩ s₁ → body.Ensures W s₁
        (fun scenes a s₂ => ∀ s₃, W s₂ ⟨.closeChannel, ()⟩ s₃ →
          good (⟨s, .openChannel, .ok x⟩ :: (scenes ++ [⟨s₂, .closeChannel, ()⟩])) a s₃)
        fun scenes e s₂ => ∀ s₃, W s₂ ⟨.closeChannel, ()⟩ s₃ →
          bad (⟨s, .openChannel, .ok x⟩ :: (scenes ++ [⟨s₂, .closeChannel, ()⟩])) e s₃) ∧
      ∀ e s', W s ⟨.openChannel, .error e⟩ s' → bad [⟨s, .openChannel, .error e⟩] e s' := by
  unfold withChannel
  rw [Action.ensures_bind, Action.ensures_openChannel]
  refine and_congr_left fun _ => forall_congr' fun x => forall_congr' fun s₁ => forall_congr' fun _ => ?_
  rw [Action.ensures_bind, Action.ensures_always, Action.ensures_outcome]
  simp only [ensures_close, Except.ok.injEq, Except.error.injEq, reduceCtorEq, forall_eq',
    false_implies, implies_true, and_true, true_and, List.singleton_append]

end Channel

end BlobDisk
