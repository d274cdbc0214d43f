import BlobDisk.Proofs.Scope

/-!
# Runs taken apart

A run of a sequence is a run of its first part and, unless that failed, one of its second part.

* `Program.runs_bind`, `Action.runs_bind`: the runs of a sequence;
* `Program.runsIn_bind`, `Action.runsIn_bind`: its runs in a world;
* `Program.Only.deterministic`: a program has one run in a world that leaves its effects no choice;
* `Channel.payload`, `Channel.runs_exchangeBuffer`: the runs of a request to the device manager;
* `Channel.runs_withChannel`: the runs of an operation with the control channel open.
-/

namespace BlobDisk

namespace Program

variable {α β σ : Type} {events : List Event} {W : Outside σ} {s s' s'' : σ} {scenes : List (Scene σ)}

theorem runs_done {a b : α} : (done a).Runs events b ↔ events = [] ∧ b = a := by
  refine ⟨fun h => ?_, ?_⟩
  · cases h
    exact ⟨rfl, rfl⟩
  · rintro ⟨rfl, rfl⟩
    exact .done _

theorem runs_perform {e : Effect} {answer : e.Answer} :
    (perform e).Runs events answer ↔ events = [⟨e, answer⟩] := by
  refine ⟨fun h => ?_, ?_⟩
  · cases h with
    | ask answer h =>
      cases h
      rfl
  · rintro rfl
    exact .ask answer (.done answer)

theorem runs_bind {p : Program α} {f : α → Program β} {b : β} :
    (p >>= f).Runs events b ↔
      ∃ front a back, events = front ++ back ∧ p.Runs front a ∧ (f a).Runs back b := by
  refine ⟨fun h => ?_, fun ⟨front, a, back, hevents, hp, hf⟩ => hevents ▸ hp.bind hf⟩
  change (p.bind f).Runs events b at h
  induction p generalizing events with
  | done a => exact ⟨[], a, events, rfl, .done a, h⟩
  | ask e next ih =>
    cases h with
    | ask answer h =>
      obtain ⟨front, a, back, rfl, hp, hf⟩ := ih answer h
      exact ⟨⟨e, answer⟩ :: front, a, back, rfl, .ask answer hp, hf⟩

end Program

namespace Outside

variable {σ : Type} {W : Outside σ} {s s' : σ}

theorem passes_append {front back : List (Scene σ)} :
    W.Passes s (front ++ back) s' ↔ ∃ s₁, W.Passes s front s₁ ∧ W.Passes s₁ back s' := by
  constructor
  · intro h
    induction front generalizing s with
    | nil => exact ⟨s, .nil s, h⟩
    | cons x front ih =>
      cases h with
      | cons hstep h =>
        obtain ⟨s₁, hfront, hback⟩ := ih h
        exact ⟨s₁, .cons hstep hfront, hback⟩
  · rintro ⟨s₁, hfront, hback⟩
    induction hfront with
    | nil s => exact hback
    | cons hstep _ ih => exact .cons hstep (ih hback)

end Outside

namespace Program

variable {α β σ : Type} {W : Outside σ} {s s' : σ} {scenes : List (Scene σ)}

theorem runsIn_done {a b : α} :
    (done a).RunsIn W s scenes b s' ↔ scenes = [] ∧ b = a ∧ s' = s := by
  simp only [RunsIn, runs_done, Scene.events, List.map_eq_nil_iff]
  refine ⟨fun ⟨⟨hscenes, hb⟩, hpasses⟩ => ⟨hscenes, hb, ?_⟩, ?_⟩
  · subst hscenes
    cases hpasses
    rfl
  · rintro ⟨rfl, rfl, rfl⟩
    exact ⟨⟨rfl, rfl⟩, .nil _⟩

theorem runsIn_bind {p : Program α} {f : α → Program β} {b : β} :
    (p >>= f).RunsIn W s scenes b s' ↔
      ∃ front a s₁ back, scenes = front ++ back ∧ p.RunsIn W s front a s₁ ∧
        (f a).RunsIn W s₁ back b s' := by
  constructor
  · rintro ⟨hruns, hpasses⟩
    obtain ⟨events, a, events', hevents, hp, hf⟩ := runs_bind.mp hruns
    obtain ⟨front, back, rfl, rfl, rfl⟩ := List.map_eq_append_iff.mp hevents
    obtain ⟨s₁, hfront, hback⟩ := Outside.passes_append.mp hpasses
    exact ⟨front, a, s₁, back, rfl, ⟨hp, hfront⟩, hf, hback⟩
  · rintro ⟨front, a, s₁, back, rfl, ⟨hp, hfront⟩, hf, hback⟩
    refine ⟨?_, Outside.passes_append.mpr ⟨s₁, hfront, hback⟩⟩
    rw [Scene.events, List.map_append]
    exact hp.bind hf

/-- In a world that gives the effects of a program one answer and one next state, it has one run. -/
theorem Only.deterministic {E : Effect → Prop}
    (hW : ∀ {s e answer answer' s₁ s₂}, E e → W s ⟨e, answer⟩ s₁ → W s ⟨e, answer'⟩ s₂ →
      answer' = answer ∧ s₂ = s₁) {p : Program α} (hp : p.Only E) {a a' : α} {s₂ : σ}
    {scenes₂ : List (Scene σ)} (h : p.RunsIn W s scenes a s') (h₂ : p.RunsIn W s scenes₂ a' s₂) :
    scenes₂ = scenes ∧ a' = a ∧ s₂ = s' := by
  obtain ⟨hruns, hpasses⟩ := h
  obtain ⟨hruns₂, hpasses₂⟩ := h₂
  induction hpasses generalizing p scenes₂ with
  | nil s =>
    cases hruns
    cases hpasses₂ with
    | nil =>
      cases hruns₂
      exact ⟨rfl, rfl, rfl⟩
    | cons => cases hruns₂
  | cons hstep _ ih =>
    cases hruns with
    | ask answer hruns =>
      cases hpasses₂ with
      | nil => cases hruns₂
      | cons hstep₂ hpasses₂ =>
        cases hruns₂ with
        | ask answer' hruns₂ =>
          obtain ⟨rfl, rfl⟩ := hW hp.1 hstep hstep₂
          obtain ⟨rfl, hrest⟩ := ih (hp.2 answer') hruns hruns₂ hpasses₂
          exact ⟨rfl, hrest⟩

end Program

namespace Action

variable {α β σ : Type} {events : List Event} {W : Outside σ} {s s' : σ} {scenes : List (Scene σ)}

theorem runs_bind {a : Action α} {f : α → Action β} {v : Except Error β} :
    (a >>= f).run.Runs events v ↔
      (∃ e, v = .error e ∧ a.run.Runs events (.error e)) ∨
        ∃ front x back, events = front ++ back ∧ a.run.Runs front (.ok x) ∧ (f x).run.Runs back v := by
  rw [ExceptT.run_bind, Program.runs_bind]
  constructor
  · rintro ⟨front, r, back, rfl, ha, hf⟩
    cases r with
    | ok x => exact .inr ⟨front, x, back, rfl, ha, hf⟩
    | error e =>
      obtain ⟨rfl, rfl⟩ := Program.runs_done.mp hf
      exact .inl ⟨e, rfl, (List.append_nil front).symm ▸ ha⟩
  · rintro (⟨e, rfl, ha⟩ | ⟨front, x, back, rfl, ha, hf⟩)
    · exact ⟨events, .error e, [], (List.append_nil events).symm, ha, .done _⟩
    · exact ⟨front, .ok x, back, rfl, ha, hf⟩

theorem runsIn_bind {a : Action α} {f : α → Action β} {v : Except Error β} :
    (a >>= f).run.RunsIn W s scenes v s' ↔
      (∃ e, v = .error e ∧ a.run.RunsIn W s scenes (.error e) s') ∨
        ∃ front x s₁ back, scenes = front ++ back ∧ a.run.RunsIn W s front (.ok x) s₁ ∧
          (f x).run.RunsIn W s₁ back v s' := by
  rw [ExceptT.run_bind, Program.runsIn_bind]
  constructor
  · rintro ⟨front, r, s₁, back, rfl, ha, hf⟩
    cases r with
    | ok x => exact .inr ⟨front, x, s₁, back, rfl, ha, hf⟩
    | error e =>
      obtain ⟨rfl, rfl, rfl⟩ := Program.runsIn_done.mp hf
      exact .inl ⟨e, rfl, (List.append_nil front).symm ▸ ha⟩
  · rintro (⟨e, rfl, ha⟩ | ⟨front, x, s₁, back, rfl, ha, hf⟩)
    · exact ⟨scenes, .error e, s', [], (List.append_nil scenes).symm, ha, .done _, .nil s'⟩
    · exact ⟨front, .ok x, s₁, back, rfl, ha, hf⟩

theorem runs_ofExcept {r v : Except Error α} :
    (ofExcept r).run.Runs events v ↔ events = [] ∧ v = r :=
  Program.runs_done

theorem runs_always {p : Program α} {v : Except Error α} :
    (always p).run.Runs events v ↔ ∃ a, v = .ok a ∧ p.Runs events a := by
  refine Program.runs_bind.trans ⟨?_, ?_⟩
  · rintro ⟨front, a, back, rfl, hp, hdone⟩
    obtain ⟨rfl, rfl⟩ := Program.runs_done.mp hdone
    exact ⟨a, rfl, (List.append_nil front).symm ▸ hp⟩
  · rintro ⟨a, rfl, hp⟩
    exact ⟨events, a, [], (List.append_nil events).symm, hp, .done _⟩

/-- What is known after a step that cannot fail. -/
theorem runs_always_bind {p : Program α} {f : α → Action β} {v : Except Error β} :
    (always p >>= f).run.Runs events v ↔
      ∃ front a back, events = front ++ back ∧ p.Runs front a ∧ (f a).run.Runs back v := by
  simp only [runs_bind, runs_always, Except.ok.injEq, reduceCtorEq, false_and, exists_false, and_false,
    false_or, exists_eq_left']

/-- A step that is known to go through, or not. -/
theorem runs_ofExcept_bind {r : Except Error α} {f : α → Action β} {v : Except Error β} :
    (ofExcept r >>= f).run.Runs events v ↔
      (∃ e, r = .error e ∧ events = [] ∧ v = .error e) ∨ ∃ x, r = .ok x ∧ (f x).run.Runs events v := by
  rw [runs_bind]
  simp only [runs_ofExcept]
  constructor
  · rintro (⟨e, rfl, rfl, rfl⟩ | ⟨_, x, back, rfl, ⟨rfl, rfl⟩, hf⟩)
    · exact .inl ⟨e, rfl, rfl, rfl⟩
    · exact .inr ⟨x, rfl, hf⟩
  · rintro (⟨e, rfl, rfl, rfl⟩ | ⟨x, rfl, hf⟩)
    · exact .inl ⟨e, rfl, rfl, rfl⟩
    · exact .inr ⟨[], x, events, rfl, ⟨rfl, rfl⟩, hf⟩

/-- A step whose value is looked at afterwards. -/
theorem runs_bind_ofExcept {a : Action α} {f : α → Except Error β} {v : Except Error β} :
    (a >>= fun x => ofExcept (f x)).run.Runs events v ↔ ∃ r, a.run.Runs events r ∧ v = r >>= f := by
  simp only [runs_bind, runs_ofExcept]
  constructor
  · rintro (⟨e, rfl, ha⟩ | ⟨front, x, _, rfl, ha, rfl, rfl⟩)
    · exact ⟨.error e, ha, rfl⟩
    · exact ⟨.ok x, (List.append_nil front).symm ▸ ha, rfl⟩
  · rintro ⟨e | x, ha, rfl⟩
    · exact .inl ⟨e, rfl, ha⟩
    · exact .inr ⟨events, x, [], (List.append_nil events).symm, ha, rfl, rfl⟩

theorem runs_map {a : Action α} {f : α → β} {v : Except Error β} :
    (f <$> a).run.Runs events v ↔ ∃ r, a.run.Runs events r ∧ v = f <$> r := by
  rw [map_eq_pure_bind]
  refine (runs_bind_ofExcept (f := fun x => .ok (f x))).trans ?_
  have hmap : ∀ r : Except Error α, (r >>= fun x => .ok (f x)) = f <$> r := fun r => by cases r <;> rfl
  simp only [hmap]

end Action

namespace Channel

variable {α : Type} {events : List Event}

/-- What an answer of the device manager comes to: its payload, or how the request failed. -/
def payload : Except String Reply → Except Error String
  | .error detail => .error (.channel detail)
  | .ok reply => (Envelope.ofBuffer reply.buffer reply.length).result

/-- A request that fits the buffer is one event, and its answer tells the rest. -/
theorem runs_exchangeBuffer {command : Command} {buffer : Buffer} {v : Except Error String} :
    (exchangeBuffer command buffer).run.Runs events v ↔
      ∃ answer : Except String Reply, events = [⟨.submit command buffer, answer⟩] ∧ v = payload answer := by
  unfold exchangeBuffer
  rw [Action.runs_always_bind]
  constructor
  · rintro ⟨front, answer, back, rfl, hask, hrest⟩
    rw [Program.runs_perform] at hask
    refine ⟨answer, ?_⟩
    cases answer <;>
    · obtain ⟨rfl, rfl⟩ := Program.runs_done.mp hrest
      exact ⟨by rw [hask]; rfl, rfl⟩
  · rintro ⟨answer, rfl, rfl⟩
    refine ⟨[_], answer, [], rfl, Program.runs_perform.mpr rfl, ?_⟩
    cases answer <;> exact .done _

/-- The control channel is closed before the result is known. -/
theorem runs_close {result v : Except Error α} :
    (do Action.always (Program.perform .closeChannel); Action.ofExcept result).run.Runs events v ↔
      events = [⟨.closeChannel, ()⟩] ∧ v = result := by
  refine Action.runs_always_bind.trans ⟨?_, ?_⟩
  · rintro ⟨front, ⟨⟩, back, rfl, hclose, hend⟩
    obtain ⟨rfl, rfl⟩ := Action.runs_ofExcept.mp hend
    obtain rfl : front = [⟨.closeChannel, ()⟩] := Program.runs_perform.mp hclose
    exact ⟨rfl, rfl⟩
  · rintro ⟨rfl, rfl⟩
    exact ⟨[_], (), [], rfl, Program.runs_perform.mpr rfl, Action.runs_ofExcept.mpr ⟨rfl, rfl⟩⟩

/-- An operation with the control channel open has a run for each run of its own, and ends with the same
result. -/
theorem runs_withChannel {body : Action α} {v : Except Error α} :
    (withChannel body).run.Runs events v ↔
      (∃ e, events = [⟨.openChannel, .error e⟩] ∧ v = .error e) ∨
        ∃ inner, events = ⟨.openChannel, .ok ()⟩ :: (inner ++ [⟨.closeChannel, ()⟩]) ∧
          body.run.Runs inner v := by
  have hopen : ∀ {r : Except Error Unit} {events}, Action.openChannel.run.Runs events r ↔
      events = [⟨.openChannel, r⟩] := Program.runs_perform
  unfold withChannel
  simp only [Action.runs_bind (a := Action.openChannel), hopen, Action.runs_always_bind, runs_close,
    Action.outcome]
  constructor
  · rintro (⟨e, rfl, rfl⟩ | ⟨_, ⟨⟩, _, rfl, rfl, inner, result, _, rfl, hbody, rfl, rfl⟩)
    · exact .inl ⟨e, rfl, rfl⟩
    · exact .inr ⟨inner, rfl, hbody⟩
  · rintro (⟨e, rfl, rfl⟩ | ⟨inner, rfl, hbody⟩)
    · exact .inl ⟨e, rfl, rfl⟩
    · exact .inr ⟨_, (), _, rfl, rfl, inner, v, _, rfl, hbody, rfl, rfl⟩

end Channel

end BlobDisk
