import BlobDisk.Proofs.Device.Session

/-!
# The discipline of the control channel

An operation opens the control channel once at most, sends its requests while the channel is open, and
closes it however the operation ends. None of this depends on what the outside world answers.

* `channelOpen`: whether the channel is open after some events;
* `Disciplined`: events in which the channel is handled as it should be;
* `Monitor.channel`: the discipline as a monitor, with effects that have to wait until the channel has
  been closed;
* `Client.mountRecord_channel`, `Client.mount_channel`, `Client.unmount_channel`, `Client.get_channel`,
  `Client.list_channel`: what becomes of the channel in the operations that open it;
* `Operation.disciplined`: every operation keeps to the discipline, and unmounting calls no store before
  its channel has been closed.
-/

namespace BlobDisk

/-! ## The discipline -/

/-- Whether the channel is open after the event, where `before` says whether it was open before. -/
def Event.leavesOpen (before : Bool) : Event → Bool
  | ⟨.openChannel, .ok _⟩ => true
  | ⟨.closeChannel, _⟩ => false
  | _ => before

/-- Whether the channel is open after the events. -/
def channelOpen (events : List Event) : Bool := events.foldl Event.leavesOpen false

namespace Effect

/-- Whether the effect opens the control channel. -/
def opensChannel : Effect → Bool
  | openChannel => true
  | _ => false

/-- Whether the effect needs an open control channel: a request, or closing it. -/
def usesChannel : Effect → Bool
  | submit .. | closeChannel => true
  | _ => false

/-- Whether the effect opens or closes the control channel. -/
def movesChannel : Effect → Bool
  | openChannel | closeChannel => true
  | _ => false

/-- Whether the effect goes to a blob store: a connection to it or a call. -/
def callsStore : Effect → Bool
  | connect _ | store .. => true
  | _ => false

end Effect

/-- The channel is opened once at most, is open when it is used, and is not left open. -/
structure Disciplined (events : List Event) : Prop where
  opens : events.countP (·.effect.opensChannel) ≤ 1
  uses : ∀ front event back, events = front ++ event :: back → event.effect.usesChannel = true →
    channelOpen front = true
  closed : channelOpen events = false

/-! ## Watching the channel -/

/-- What has become of the control channel. -/
inductive ChannelPhase
  | unopened
  | opened
  | closed
  | refused
deriving DecidableEq

namespace ChannelPhase

/-- The phase after an event. -/
def next : ChannelPhase → Event → ChannelPhase
  | _, ⟨.openChannel, .ok _⟩ => opened
  | unopened, ⟨.openChannel, .error _⟩ => refused
  | _, ⟨.closeChannel, _⟩ => closed
  | phase, _ => phase

variable {phase : ChannelPhase} {event : Event}

theorem next_eq_self (h : event.effect.movesChannel = false) : phase.next event = phase := by
  rcases event with ⟨_ | _ | _ | _ | _ | _ | _ | _, answer⟩
  case openChannel | closeChannel => cases h
  all_goals cases phase <;> rfl

theorem next_eq_opened (phase : ChannelPhase) (event : Event) :
    decide (phase.next event = opened) = event.leavesOpen (decide (phase = opened)) := by
  rcases event with ⟨_ | _ | _ | _ | _ | _ | _ | _, answer⟩
  case openChannel => cases phase <;> cases answer <;> rfl
  case closeChannel => rfl
  all_goals cases phase <;> rfl

theorem next_ne_unopened (h : event.effect.opensChannel = true ∨ phase ≠ unopened) :
    phase.next event ≠ unopened := by
  rcases event with ⟨_ | _ | _ | _ | _ | _ | _ | _, answer⟩
  case openChannel => cases phase <;> cases answer <;> nofun
  case closeChannel => nofun
  all_goals
    rw [next_eq_self rfl]
    exact h.resolve_left nofun

/-- Only closing the channel makes it a closed one. -/
theorem eq_closed_of_next (h : phase.next event = closed) :
    phase = closed ∨ event.effect = .closeChannel := by
  rcases event with ⟨_ | _ | _ | _ | _ | _ | _ | _, answer⟩
  case openChannel =>
    cases phase <;> cases answer <;> cases h
    exact .inl rfl
  case closeChannel => exact .inr rfl
  all_goals
    rw [next_eq_self rfl] at h
    exact .inl h

end ChannelPhase

open ChannelPhase

/-- Follows the channel through its phases. Effects that are `late` have to wait until it has been
closed. -/
def Monitor.channel (late : Effect → Prop) : Monitor ChannelPhase where
  allows phase e := (e.opensChannel = true → phase = unopened) ∧ (e.usesChannel = true → phase = opened) ∧
    (late e → phase = closed)
  next phase e answer := phase.next ⟨e, answer⟩

namespace Monitor

variable {late : Effect → Prop} {phase : ChannelPhase} {events : List Event}

theorem channel_after_eq_opened :
    decide ((channel late).after phase events = opened) =
      events.foldl Event.leavesOpen (decide (phase = opened)) := by
  induction events generalizing phase with
  | nil => rfl
  | cons event events ih =>
    rw [after_cons, List.foldl_cons, ih, ← next_eq_opened]
    rfl

theorem closes_of_channel_after (h : (channel late).after phase events = closed) :
    phase = closed ∨ ∃ event ∈ events, event.effect = .closeChannel := by
  induction events generalizing phase with
  | nil => exact .inl h
  | cons event events ih =>
    rcases ih h with hnext | ⟨e, he, hcloses⟩
    · exact (eq_closed_of_next hnext).imp_right fun hcloses => ⟨event, List.mem_cons_self, hcloses⟩
    · exact .inr ⟨e, List.mem_cons_of_mem _ he, hcloses⟩

theorem channel_allows {e : Effect} (hstays : e.movesChannel = false)
    (huses : e.usesChannel = true → phase = opened) (hlate : late e → phase = closed) :
    (channel late).allows phase e := by
  refine ⟨fun hopens => ?_, huses, hlate⟩
  cases e <;> cases hopens
  cases hstays

theorem channelOpen_eq (late : Effect → Prop) :
    channelOpen events = decide ((channel late).after unopened events = opened) :=
  (@channel_after_eq_opened late unopened events).symm

end Monitor

namespace Program

variable {α σ : Type} {M : Monitor σ} {s : σ} {p : Program α}

/-- Each effect of a run comes where the monitor allows it. -/
theorem Obeys.allowed {post : α → σ → Prop} (h : p.Obeys M s post) {front back : List Event}
    {event : Event} {a : α} (hr : p.Runs (front ++ event :: back) a) :
    M.allows (M.after s front) event.effect := by
  obtain ⟨q, hq, hobeys⟩ := h.rest hr
  cases hq
  exact hobeys.1

/-- A program obeys a monitor that allows its effects and does not move at them. -/
theorem Only.obeys {E : Effect → Prop} (h : p.Only E) (hallows : ∀ e, E e → M.allows s e)
    (hnext : ∀ e answer, E e → M.next s e answer = s) : p.Obeys M s fun _ s' => s' = s := by
  induction p with
  | done a => rfl
  | ask e next ih =>
    refine ⟨hallows e h.1, fun answer => ?_⟩
    rw [hnext e answer h.1]
    exact ih answer (h.2 answer)

variable {late : Effect → Prop} {events : List Event} {a : α}

/-- A run opens the channel no more than once, and only from its first phase. -/
theorem Obeys.countP_opensChannel {phase : ChannelPhase} {post : α → ChannelPhase → Prop}
    (h : p.Obeys (Monitor.channel late) phase post) (hr : p.Runs events a) :
    events.countP (·.effect.opensChannel) ≤ if phase = unopened then 1 else 0 := by
  induction hr generalizing phase with
  | done a => exact Nat.zero_le _
  | @ask e next events a answer hr ih =>
    have hrest : events.countP (·.effect.opensChannel) ≤
        if phase.next ⟨e, answer⟩ = unopened then 1 else 0 := ih (h.2 answer)
    have hleft : e.opensChannel = true ∨ phase ≠ unopened → phase.next ⟨e, answer⟩ ≠ unopened :=
      @next_ne_unopened phase ⟨e, answer⟩
    rw [List.countP_cons]
    by_cases hopens : e.opensChannel = true
    · rw [if_neg (hleft (.inl hopens))] at hrest
      rw [if_pos hopens, if_pos (h.1.1 hopens)]
      omega
    · rw [if_neg hopens, Nat.add_zero]
      by_cases hphase : phase = unopened
      · rw [if_pos hphase]
        split at hrest <;> omega
      · rw [if_neg (hleft (.inr hphase))] at hrest
        rwa [if_neg hphase]

/-- A program that obeys the monitor and leaves no channel open is disciplined. -/
theorem Obeys.disciplined_events
    (h : p.Obeys (Monitor.channel late) unopened fun _ phase => phase ≠ opened) (hr : p.Runs events a) :
    Disciplined events where
  opens := h.countP_opensChannel hr
  uses := by
    rintro front event back rfl huses
    rw [Monitor.channelOpen_eq late, decide_eq_true_iff]
    exact (h.allowed hr).2.1 huses
  closed := by
    rw [Monitor.channelOpen_eq late, decide_eq_false_iff_not]
    exact h.runs hr

end Program

/-! ## Operations -/

/-- The phases in which an operation can end. -/
def ChannelPhase.Settled (phase : ChannelPhase) : Prop := phase ≠ opened

section

variable {α : Type} {late : Effect → Prop} {a : Action α} {phase : ChannelPhase}

/-- An action that leaves the channel as it is. -/
theorem Action.Only.obeys_channel
    (h : a.Only fun e => e.movesChannel = false ∧ (Monitor.channel late).allows phase e) :
    a.Obeys (Monitor.channel late) phase (fun _ phase' => phase' = phase) fun _ phase' => phase' = phase := by
  refine (Program.Only.obeys h (fun _ he => he.2) fun e answer he => ?_).mono fun r _ hr => ?_
  · exact next_eq_self he.1
  · cases r <;> exact hr

theorem Action.Only.settled
    (h : a.Only fun e => e.movesChannel = false ∧ (Monitor.channel late).allows phase e)
    (hphase : phase.Settled) :
    a.Obeys (Monitor.channel late) phase (fun _ => Settled) fun _ => Settled :=
  (Action.Only.obeys_channel h).mono (fun _ _ h => h ▸ hphase) fun _ _ h => h ▸ hphase

/-- The channel of an operation is closed in the end, if it could be opened. -/
theorem Channel.withChannel_closed (hopen : ¬ late .openChannel) (hclose : ¬ late .closeChannel)
    (h : a.Only fun e => e.movesChannel = false ∧ ¬ late e) :
    (withChannel a).Obeys (Monitor.channel late) unopened (fun _ phase => phase = closed)
      fun _ => Settled := by
  have hbody : a.Obeys (Monitor.channel late) opened (fun _ phase => phase = opened)
      fun _ phase => phase = opened := by
    refine Action.Only.obeys_channel (Program.Only.mono h fun e he => ⟨he.1, ?_⟩)
    exact Monitor.channel_allows he.1 (fun _ => rfl) fun hlate => absurd hlate he.2
  have hcloses : (Monitor.channel late).allows opened .closeChannel :=
    ⟨nofun, fun _ => rfl, fun h => absurd h hclose⟩
  refine obeys_withChannel.mpr ⟨⟨fun _ => rfl, nofun, fun h => absurd h hopen⟩, fun _ => ?_,
    fun _ => nofun⟩
  refine hbody.mono ?_ ?_
  · rintro _ _ rfl
    exact ⟨hcloses, rfl⟩
  · rintro _ _ rfl
    exact ⟨hcloses, nofun⟩

end

namespace Client

variable {c : Client}

/-- The monitor of an operation in which nothing has to wait. -/
abbrev channel : Monitor ChannelPhase := Monitor.channel fun _ => False

section

variable {α : Type} {a : Action α} {phase : ChannelPhase}

/-- What an action asks for that has nothing to do with the channel is allowed at any time. -/
theorem channel_of_apart (h : a.Only fun e => e.movesChannel = false ∧ e.usesChannel = false) :
    a.Only fun e => e.movesChannel = false ∧ channel.allows phase e :=
  Program.Only.mono h fun _ he =>
    ⟨he.1, Monitor.channel_allows he.1 (fun huses => nomatch he.2.symm.trans huses) False.elim⟩

/-- An action that has nothing to do with the channel can come first. -/
theorem channel_first (h : a.Only fun e => e.movesChannel = false ∧ e.usesChannel = false) :
    a.Obeys channel unopened (fun _ phase => phase = unopened) fun _ => Settled :=
  (Action.Only.obeys_channel (channel_of_apart h)).mono (fun _ _ h => h) fun _ _ h => h ▸ nofun

/-- It can also come last. -/
theorem channel_last (h : a.Only fun e => e.movesChannel = false ∧ e.usesChannel = false)
    (hphase : phase.Settled) : a.Obeys channel phase (fun _ => Settled) fun _ => Settled :=
  Action.Only.settled (channel_of_apart h) hphase

/-- An operation with the channel open, in which nothing has to wait. -/
theorem withChannel_settled (h : a.Only fun e => e.movesChannel = false) :
    (Channel.withChannel a).Obeys channel unopened (fun _ => Settled) fun _ => Settled :=
  (Channel.withChannel_closed id id (Program.Only.mono h fun _ he => ⟨he, id⟩)).mono
    (fun _ _ h => h ▸ nofun) fun _ _ h => h

end

theorem mountRecord_channel {r : Record} {o : LeaseOptions} :
    (c.mountRecord r o).Obeys channel unopened (fun _ => Settled) fun _ => Settled := by
  unfold mountRecord
  refine Action.obeys_bind.mpr ((channel_first fillCredentials_only).mono ?_ fun _ _ h => h)
  rintro r _ rfl
  refine withChannel_settled (Action.only_bind (Program.only_perform rfl) fun _ => ?_)
  refine Action.only_bind Action.only_ofExcept fun blob => ?_
  refine Action.only_bind (Lease.locate_only fun _ _ => rfl) fun properties => ?_
  refine Action.only_bind Action.only_ofExcept fun r => ?_
  exact leaseAndSubmit_only (fun _ => rfl) (fun _ => rfl) fun _ _ => rfl

theorem mount_channel {q : MountRequest} :
    (c.mount q).Obeys channel unopened (fun _ => Settled) fun _ => Settled := by
  unfold mount
  refine Action.obeys_bind.mpr ((channel_first login_only).mono ?_ fun _ _ h => h)
  rintro login _ rfl
  refine Action.obeys_bind.mpr ((channel_first (nameOr_only ⟨rfl, rfl⟩)).mono ?_ fun _ _ h => h)
  rintro name _ rfl
  refine Action.obeys_bind.mpr (Action.obeys_ofExcept.mpr ⟨fun _ _ => ?_, fun _ _ => nofun⟩)
  refine Action.obeys_bind.mpr ((channel_first (prepareBlob_only ⟨rfl, rfl⟩ ⟨rfl, rfl⟩
    fun _ => ⟨rfl, rfl⟩)).mono ?_ fun _ _ h => h)
  rintro ⟨blob, leaseId, createdLease⟩ _ rfl
  refine Action.obeys_bind.mpr (Action.obeys_always.mpr (Action.obeys_outcome.mpr
    (mountRecord_channel.mono (fun _ _ h => h) fun e phase h => ?_)))
  -- The lease on a blob that was made is given up with the channel settled.
  cases createdLease with
  | false => exact h
  | true =>
    have hrelease : Action.Only (fun e => e.movesChannel = false ∧ e.usesChannel = false)
        (Action.always (releaseCreated login blob)) :=
      Action.only_always (releaseCreated_only ⟨rfl, rfl⟩ fun _ => ⟨rfl, rfl⟩)
    exact Action.obeys_bind.mpr ((channel_last hrelease h).mono (fun _ _ h => h) fun _ _ h => h)

/-- The stores have to wait until the channel has been closed. -/
theorem unmount_channel {name : String} {breakLease : Bool} :
    (unmount name breakLease).Obeys (Monitor.channel fun e => e.callsStore = true) unopened
      (fun _ => Settled) fun _ => Settled := by
  unfold unmount
  refine Action.obeys_bind.mpr (Action.obeys_ofExcept.mpr ⟨fun _ _ => ?_, fun _ _ => nofun⟩)
  refine Action.obeys_bind.mpr ((Channel.withChannel_closed nofun nofun
    (removeDevice_only fun _ _ => ⟨rfl, nofun⟩)).mono ?_ fun _ _ h => h)
  rintro mounted _ rfl
  cases mounted with
  | none => nofun
  | some r =>
    have hlater : ∀ {e : Effect}, e.callsStore = true → e.movesChannel = false ∧
        (Monitor.channel fun e => e.callsStore = true).allows closed e := by
      intro e he
      cases e <;> cases he <;> exact ⟨rfl, nofun, nofun, fun _ => rfl⟩
    refine Action.obeys_bind.mpr ((Action.Only.settled (Action.only_always (breakRecordLease_only
      (fun _ => hlater rfl) fun _ _ => hlater rfl)) nofun).mono (fun _ _ h => h) fun _ _ h => h)

theorem get_channel {name : String} :
    (get name).Obeys channel unopened (fun _ => Settled) fun _ => Settled := by
  unfold get
  refine Action.obeys_bind.mpr (Action.obeys_ofExcept.mpr ⟨fun _ _ => ?_, fun _ _ => nofun⟩)
  exact withChannel_settled (getSized_only fun _ _ => rfl)

theorem list_channel : list.Obeys channel unopened (fun _ => Settled) fun _ => Settled := by
  refine withChannel_settled (Action.only_bind (Channel.exchange_only fun _ => rfl) fun payload => ?_)
  exact Action.only_mapM (fun _ => getSized_only fun _ _ => rfl) _

end Client

namespace Operation

variable {c : Client} {o : Operation} {events : List Event} {v : Except Error o.Value}

/-- The effects of an operation that have to wait until its channel has been closed. -/
def late : Operation → Effect → Prop
  | unmount .., e => e.callsStore = true
  | _, _ => False

theorem channel_settled :
    (o.action c).Obeys (Monitor.channel o.late) unopened (fun _ => Settled) fun _ => Settled := by
  have hapart : ∀ {α : Type} {a : Action α},
      a.Only (fun e => e.movesChannel = false ∧ e.usesChannel = false) →
      a.Obeys Client.channel unopened (fun _ => Settled) fun _ => Settled :=
    fun h => Client.channel_last h nofun
  cases o with
  | mount q => exact Client.mount_channel
  | mountRecord r o => exact Client.mountRecord_channel
  | unmount name breakLease => exact Client.unmount_channel
  | get name => exact Client.get_channel
  | list => exact Client.list_channel
  | create q => exact hapart (Client.create_only ⟨rfl, rfl⟩ (fun _ => ⟨rfl, rfl⟩) ⟨rfl, rfl⟩ fun _ _ => ⟨rfl, rfl⟩)
  | delete container name leaseId forceBreak =>
    exact hapart (Client.delete_only (fun _ => ⟨rfl, rfl⟩) fun _ _ => ⟨rfl, rfl⟩)

/-- Whatever the outside world answers, an operation opens the control channel once at most, uses it
only while it is open, and leaves none open; unmounting calls no store before its channel has been
closed. -/
theorem disciplined (h : (o.action c).run.Runs events v) :
    Disciplined events ∧ ∀ name breakLease, o = unmount name breakLease →
      ∀ front event back, events = front ++ event :: back → event.effect.callsStore = true →
        channelOpen front = false ∧ ∃ e ∈ front, e.effect = .closeChannel := by
  have hobeys : (o.action c).run.Obeys (Monitor.channel o.late) unopened fun _ => Settled :=
    Action.Obeys.run channel_settled
  refine ⟨hobeys.disciplined_events h, ?_⟩
  rintro name breakLease rfl front event back rfl hcalls
  have hclosed := (hobeys.allowed h).2.2 hcalls
  rw [Monitor.channelOpen_eq, decide_eq_false_iff_not, hclosed]
  exact ⟨nofun, (Monitor.closes_of_channel_after hclosed).resolve_left nofun⟩

/-- A disk is unmounted and the lease on its blob broken. -/
theorem disciplined_unmount : ∃ events v,
    ((unmount "disk" true).action Sample.client).run.Runs events v ∧ Disciplined events ∧
    ∃ front event back, events = front ++ event :: back ∧ event.effect.callsStore = true ∧
      channelOpen front = false ∧ ∃ e ∈ front, e.effect = .closeChannel := by
  have hruns := (Sample.staged_runs Sample.accepted ((unmount "disk" true).action Sample.client)).1
  have hcalls : ∃ event ∈ Scene.events (Sample.staged Sample.accepted
      ((unmount "disk" true).action Sample.client)).1, event.effect.callsStore = true := by
    decide +kernel
  obtain ⟨event, hmem, hcalls⟩ := hcalls
  obtain ⟨front, back, hsplit⟩ := List.append_of_mem hmem
  have hdisciplined := disciplined hruns
  exact ⟨_, _, hruns, hdisciplined.1, front, event, back, hsplit, hcalls,
    hdisciplined.2 _ _ rfl front event back hsplit hcalls⟩

end Operation

end BlobDisk
