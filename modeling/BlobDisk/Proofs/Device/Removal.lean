import BlobDisk.Proofs.Channel.Answers
import BlobDisk.Proofs.Channel.Discipline
import BlobDisk.Proofs.Mount.Acceptance
import BlobDisk.Proofs.Record.Rules

/-!
# Unmounting, whatever storage does

Whether a device is removed is between the client and the device manager. The lease on its blob is broken
afterwards, as far as that goes.

* `exchanges`: the requests to the device manager with their answers;
* `Client.Removal`, `Client.Breaking`, `Client.Unmounting`: the runs of an unmount and of its two parts;
* `Client.Unmounted`: what each of these runs comes to;
* `Outside.beside`: a world where the device manager is a machine and storage does as it likes;
* `Client.unmount_sure`: unmounting comes to the same for all that storage can do, and only the lease of a
  device that was removed is broken.
-/

namespace BlobDisk

namespace Event

/-- The request in an event, with its answer. -/
def exchange? : Event → Option (Command × Buffer × Except String Reply)
  | ⟨.submit command buffer, answer⟩ => some (command, buffer, answer)
  | _ => none

/-- The answer to the opening of the control channel. -/
def opening? : Event → Option (Except Error Unit)
  | ⟨.openChannel, answer⟩ => some answer
  | _ => none

/-- A break that was sent and refused. -/
def failsToBreak : Event → Bool
  | ⟨.store _ (.breakLease ..), .error _⟩ => true
  | _ => false

theorem callsStore_of_breaks {event : Event} (h : event.breaks = true) : event.effect.callsStore = true := by
  unfold breaks at h
  split at h
  · rfl
  · cases h

theorem callsStore_of_refuses {event : Event} (h : event.refuses = true) : event.effect.callsStore = true := by
  unfold refuses at h
  split at h
  · rfl
  · cases h

theorem callsStore_of_failsToBreak {event : Event} (h : event.failsToBreak = true) :
    event.effect.callsStore = true := by
  unfold failsToBreak at h
  split at h
  · rfl
  · cases h

end Event

/-- The requests to the device manager in order, with their answers. -/
def exchanges (events : List Event) : List (Command × Buffer × Except String Reply) :=
  events.filterMap Event.exchange?

theorem exchanges_append (front back : List Event) :
    exchanges (front ++ back) = exchanges front ++ exchanges back :=
  List.filterMap_append

section

variable (events : List Event)

@[simp] theorem exchanges_nil : exchanges [] = [] := rfl

@[simp] theorem exchanges_openChannel (answer : Except Error Unit) :
    exchanges (⟨.openChannel, answer⟩ :: events) = exchanges events := rfl

@[simp] theorem exchanges_asked (command : Command) (name : String) (answer : Except String Reply) :
    exchanges (Channel.asked command name answer :: events) =
      (command, .holding (Envelope.nameRequest name), answer) :: exchanges events := rfl

@[simp] theorem exchanges_closeChannel : exchanges (⟨.closeChannel, ()⟩ :: events) = exchanges events := rfl

@[simp] theorem exchanges_connect (login : Credentials) (answer : Except Error Unit) :
    exchanges (⟨.connect login, answer⟩ :: events) = exchanges events := rfl

@[simp] theorem exchanges_store (login : Credentials) (call : StoreCall) (answer : Except Error call.Answer) :
    exchanges (⟨.store login call, answer⟩ :: events) = exchanges events := rfl

end

/-- The credentials in a record. -/
def Record.login (r : Record) : Credentials := ⟨r.accountName, r.accountKey⟩

namespace Client

variable {events : List Event} {name : String} {breakLease : Bool} {r : Record}

/-! ## The two parts -/

/-- How a device is removed: by one request, or by two if its record is fetched first. -/
inductive Removal (name : String) : Bool → List Event → Except Error (Option Record) → Prop
  | plain {answer : Except String Reply} {payload : String} : Channel.payload answer = .ok payload →
    Removal name false [Channel.asked .unmount name answer] (.ok none)
  | refused {answer : Except String Reply} {e : Error} : Channel.payload answer = .error e →
    Removal name false [Channel.asked .unmount name answer] (.error e)
  | unfetched {shown : Except String Reply} {e : Error} : Channel.record shown = .error e →
    Removal name true [Channel.asked .get name shown] (.error e)
  | fetched {shown answer : Except String Reply} {r : Record} {payload : String} :
    Channel.record shown = .ok r → Channel.payload answer = .ok payload →
    Removal name true [Channel.asked .get name shown, Channel.asked .unmount name answer] (.ok (some r))
  | kept {shown answer : Except String Reply} {r : Record} {e : Error} :
    Channel.record shown = .ok r → Channel.payload answer = .error e →
    Removal name true [Channel.asked .get name shown, Channel.asked .unmount name answer] (.error e)

/-- How the lease on the blob of a record that was fetched is broken, or why not. -/
inductive Breaking : Option Record → List Event → Option CleanupWarning → Prop
  | unasked : Breaking none [] none
  | unconnected (r : Record) (e : Error) :
    Breaking (some r) [⟨.connect r.login, .error e⟩] (some (.ofBreak r.path e))
  | pathless {r : Record} {e : Error} : BlobPath.parse r.path = .error e →
    Breaking (some r) [⟨.connect r.login, .ok ()⟩] (some (.ofBreak r.path e))
  | refused {r : Record} {blob : BlobPath} (e : Error) : BlobPath.parse r.path = .ok blob →
    Breaking (some r) [⟨.connect r.login, .ok ()⟩, ⟨.store r.login (.breakLease blob 0), .error e⟩]
      (some (.ofBreak blob.text e))
  | broken {r : Record} {blob : BlobPath} : BlobPath.parse r.path = .ok blob →
    Breaking (some r) [⟨.connect r.login, .ok ()⟩, ⟨.store r.login (.breakLease blob 0), .ok ()⟩] none

theorem runs_removeDevice {v : Except Error (Option Record)}
    (hfits : (Envelope.nameRequest name).utf8ByteSize ≤ Buffer.capacity)
    (h : (removeDevice name breakLease).run.Runs events v) : Removal name breakLease events v := by
  have hremove : ∀ {mounted : Option Record} {events}, Program.Runs (ExceptT.run (m := Program) do
      let _ ← Channel.exchange .unmount (Envelope.nameRequest name)
      return mounted) events v → ∃ answer, events = [Channel.asked .unmount name answer] ∧
        v = (fun _ => mounted) <$> Channel.payload answer := by
    intro mounted events h
    rw [bind_pure_comp] at h
    obtain ⟨result, hexchange, rfl⟩ := Action.runs_map.mp h
    obtain ⟨answer, rfl, rfl⟩ := (Channel.runs_exchange hfits).mp hexchange
    exact ⟨answer, rfl, rfl⟩
  have hfetch : ∀ {events} {fetched : Except Error (Option Record)},
      (some <$> Channel.getRecord name : Action _).run.Runs events fetched →
      ∃ shown, events = [Channel.asked .get name shown] ∧ fetched = some <$> Channel.record shown := by
    intro events fetched h
    obtain ⟨result, hget, rfl⟩ := Action.runs_map.mp h
    obtain ⟨shown, rfl, rfl⟩ := (Channel.runs_getRecord hfits).mp hget
    exact ⟨shown, rfl, rfl⟩
  cases breakLease with
  | false =>
    obtain ⟨answer, rfl, rfl⟩ := hremove h
    cases hanswer : Channel.payload answer with
    | ok payload => exact .plain hanswer
    | error e => exact .refused hanswer
  | true =>
    rcases Action.runs_bind.mp h with ⟨e, rfl, hget⟩ | ⟨front, mounted, back, rfl, hget, hrest⟩
    · obtain ⟨shown, rfl, hshown⟩ := hfetch hget
      cases hrecord : Channel.record shown with
      | ok r => rw [hrecord] at hshown; cases hshown
      | error e' => rw [hrecord] at hshown; cases hshown; exact .unfetched hrecord
    · obtain ⟨shown, rfl, hshown⟩ := hfetch hget
      obtain ⟨r, hrecord, rfl⟩ := map_eq_ok.mp hshown.symm
      obtain ⟨answer, rfl, rfl⟩ := hremove hrest
      cases hanswer : Channel.payload answer with
      | ok payload => exact .fetched hrecord hanswer
      | error e => exact .kept hrecord hanswer

theorem runs_breakRecordLease {warning : Option CleanupWarning}
    (h : (breakRecordLease r).Runs events warning) : Breaking (some r) events warning := by
  obtain ⟨front, connected, back, rfl, hconnect, hrest⟩ := Program.runs_bind.mp h
  obtain rfl : front = [⟨.connect r.login, connected⟩] := Program.runs_perform.mp hconnect
  cases connected with
  | error e =>
    obtain ⟨rfl, rfl⟩ := Program.runs_done.mp hrest
    exact .unconnected r e
  | ok _ =>
    cases hpath : BlobPath.parse r.path with
    | error e =>
      rw [hpath] at hrest
      obtain ⟨rfl, rfl⟩ := Program.runs_done.mp hrest
      exact .pathless hpath
    | ok blob =>
      rw [hpath] at hrest
      obtain ⟨sent, answer, rest, rfl, hsent, hend⟩ := Program.runs_bind.mp hrest
      obtain rfl : sent = [⟨.store r.login (.breakLease blob 0), answer⟩] := Program.runs_perform.mp hsent
      cases answer with
      | ok _ =>
        obtain ⟨rfl, rfl⟩ := Program.runs_done.mp hend
        exact .broken hpath
      | error e =>
        obtain ⟨rfl, rfl⟩ := Program.runs_done.mp hend
        exact .refused e hpath

/-! ## What they tell -/

namespace Removal

variable {fetch : Bool} {v : Except Error (Option Record)}

theorem exchanges_plain (h : Removal name false events v) :
    ∃ answer, exchanges events = [(.unmount, .holding (Envelope.nameRequest name), answer)] := by
  cases h with
  | plain hanswer => exact ⟨_, rfl⟩
  | refused hanswer => exact ⟨_, rfl⟩

theorem exchanges_fetching (h : Removal name true events v) : ∃ shown,
    ((∃ e, Channel.record shown = .error e) ∧
      exchanges events = [(.get, .holding (Envelope.nameRequest name), shown)]) ∨
    ∃ r answer, Channel.record shown = .ok r ∧
      exchanges events = [(.get, .holding (Envelope.nameRequest name), shown),
        (.unmount, .holding (Envelope.nameRequest name), answer)] := by
  cases h with
  | unfetched hrecord => exact ⟨_, .inl ⟨⟨_, hrecord⟩, rfl⟩⟩
  | fetched hrecord hanswer => exact ⟨_, .inr ⟨_, _, hrecord, rfl⟩⟩
  | kept hrecord hanswer => exact ⟨_, .inr ⟨_, _, hrecord, rfl⟩⟩

/-- The device is removed just if the request to remove it was a success. -/
theorem success_iff (h : Removal name fetch events v) :
    (∃ mounted, v = .ok mounted) ↔ ∃ answer payload,
      (.unmount, .holding (Envelope.nameRequest name), answer) ∈ exchanges events ∧
      Channel.payload answer = .ok payload := by
  cases h with
  | plain hanswer => simp [hanswer]
  | refused hanswer => simp [hanswer]
  | unfetched hrecord => simp
  | fetched hrecord hanswer => simp [hanswer]
  | kept hrecord hanswer => simp [hanswer]

theorem eq_false_of_none (h : Removal name fetch events (.ok none)) : fetch = false := by
  cases h with
  | plain hanswer => rfl

theorem fetched_of_some (h : Removal name fetch events (.ok (some r))) : fetch = true ∧
    ∃ shown answer payload, exchanges events = [(.get, .holding (Envelope.nameRequest name), shown),
        (.unmount, .holding (Envelope.nameRequest name), answer)] ∧
      Channel.record shown = .ok r ∧ Channel.payload answer = .ok payload := by
  cases h with
  | fetched hrecord hanswer => exact ⟨rfl, _, _, _, rfl, hrecord, hanswer⟩

theorem callsStore (h : Removal name fetch events v) :
    ∀ event ∈ events, event.effect.callsStore = false := by
  cases h <;> simp [Channel.asked, Effect.callsStore]

end Removal

namespace Breaking

variable {mounted : Option Record} {warning : Option CleanupWarning}

theorem exchanges_eq (h : Breaking mounted events warning) : exchanges events = [] := by
  cases h <;> rfl

theorem countP_breaks (h : Breaking mounted events warning) : events.countP Event.breaks ≤ 1 := by
  cases h <;> simp [Event.breaks]

/-- A break comes last, and goes to the blob of the record. -/
theorem breaks (h : Breaking mounted events warning) {event : Event} (hmem : event ∈ events)
    (hbreaks : event.breaks = true) : ∃ r front blob, mounted = some r ∧ events = front ++ [event] ∧
      exchanges front = [] ∧ BlobPath.parse r.path = .ok blob ∧
      event.effect = .store r.login (.breakLease blob 0) := by
  cases h with
  | unasked => cases hmem
  | unconnected r e =>
    obtain rfl := List.mem_singleton.mp hmem
    cases hbreaks
  | pathless hpath =>
    obtain rfl := List.mem_singleton.mp hmem
    cases hbreaks
  | refused e hpath =>
    rcases List.mem_cons.mp hmem with rfl | hmem
    · cases hbreaks
    · obtain rfl := List.mem_singleton.mp hmem
      exact ⟨_, [_], _, rfl, rfl, rfl, hpath, rfl⟩
  | broken hpath =>
    rcases List.mem_cons.mp hmem with rfl | hmem
    · cases hbreaks
    · obtain rfl := List.mem_singleton.mp hmem
      exact ⟨_, [_], _, rfl, rfl, rfl, hpath, rfl⟩

/-- There is a warning just if there was no store, no path or no break. -/
theorem warning_iff (h : Breaking (some r) events warning) :
    warning ≠ none ↔ (∃ event ∈ events, event.refuses = true) ∨ (∃ e, BlobPath.parse r.path = .error e) ∨
      ∃ event ∈ events, event.failsToBreak = true := by
  cases h <;> simp_all [Event.refuses, Event.failsToBreak]

end Breaking

/-! ## The whole -/

/-- The events of an operation with the control channel open. -/
def opened (inner : List Event) : List Event :=
  ⟨.openChannel, .ok ()⟩ :: (inner ++ [⟨.closeChannel, ()⟩])

theorem exchanges_opened (inner : List Event) : exchanges (opened inner) = exchanges inner := by
  rw [opened, exchanges_openChannel, exchanges_append, exchanges_closeChannel, exchanges_nil, List.append_nil]

theorem callsStore_opened {inner : List Event} (h : ∀ event ∈ inner, event.effect.callsStore = false) :
    ∀ event ∈ opened inner, event.effect.callsStore = false := by
  simp only [opened, List.forall_mem_cons, List.forall_mem_append]
  exact ⟨rfl, h, rfl, List.forall_mem_nil _⟩

theorem Breaking.exchanges_opened_append {mounted : Option Record} {tail : List Event}
    {warning : Option CleanupWarning} (h : Breaking mounted tail warning) (inner : List Event) :
    exchanges (opened inner ++ tail) = exchanges inner := by
  rw [exchanges_append, exchanges_opened, h.exchanges_eq, List.append_nil]

namespace Removal

variable {fetch : Bool} {inner tail : List Event} {v : Except Error (Option Record)} {p : Event → Bool}
  {mounted : Option Record} {warning : Option CleanupWarning}

/-- As long as the channel is open, nothing happens that takes a call of the store. -/
theorem absent_opened (h : Removal name fetch inner v)
    (hp : ∀ {event : Event}, p event = true → event.effect.callsStore = true) :
    ∀ event ∈ opened inner, ¬ p event = true := by
  intro event hmem hevent
  have hcalls := hp hevent
  rw [callsStore_opened h.callsStore event hmem] at hcalls
  cases hcalls

theorem exists_mem_opened_append (h : Removal name fetch inner v)
    (hp : ∀ {event : Event}, p event = true → event.effect.callsStore = true) :
    (∃ event ∈ opened inner ++ tail, p event = true) ↔ ∃ event ∈ tail, p event = true := by
  refine ⟨fun ⟨event, hmem, hevent⟩ => ?_, fun ⟨event, hmem, hevent⟩ => ?_⟩
  · have htail := (List.mem_append.mp hmem).resolve_left fun hmem => h.absent_opened hp event hmem hevent
    exact ⟨event, htail, hevent⟩
  · exact ⟨event, List.mem_append_right _ hmem, hevent⟩

/-- A break comes last, after the record was fetched and the device removed, and goes to the blob of that
record. -/
theorem break_fetched (h : Removal name fetch inner (.ok mounted)) (hbreaking : Breaking mounted tail warning)
    {event : Event} (hmem : event ∈ opened inner ++ tail) (hbreak : event.breaks = true) : fetch = true ∧
    ∃ front shown answer r payload blob, opened inner ++ tail = front ++ [event] ∧
      exchanges front = [(.get, .holding (Envelope.nameRequest name), shown),
        (.unmount, .holding (Envelope.nameRequest name), answer)] ∧
      Channel.record shown = .ok r ∧ Channel.payload answer = .ok payload ∧
      BlobPath.parse r.path = .ok blob ∧ event.effect = .store r.login (.breakLease blob 0) := by
  rcases List.mem_append.mp hmem with hmem | hmem
  · exact (h.absent_opened Event.callsStore_of_breaks event hmem hbreak).elim
  obtain ⟨r, front, blob, rfl, rfl, hfront, hpath, heffect⟩ := hbreaking.breaks hmem hbreak
  obtain ⟨rfl, shown, answer, payload, hinner, hrecord, hpayload⟩ := h.fetched_of_some
  refine ⟨rfl, opened inner ++ front, shown, answer, r, payload, blob, ?_, ?_, hrecord, hpayload, hpath, heffect⟩
  · rw [List.append_assoc]
  · rw [exchanges_append, exchanges_opened, hfront, hinner, List.append_nil]

theorem warning_iff (h : Removal name fetch inner (.ok mounted)) (hbreaking : Breaking mounted tail warning) :
    warning ≠ none ↔ fetch = true ∧ ((∃ event ∈ opened inner ++ tail, event.refuses = true) ∨
      (∃ shown r e, (.get, .holding (Envelope.nameRequest name), shown) ∈ exchanges (opened inner ++ tail) ∧
        Channel.record shown = .ok r ∧ BlobPath.parse r.path = .error e) ∨
      ∃ event ∈ opened inner ++ tail, event.failsToBreak = true) := by
  cases mounted with
  | none =>
    -- Without a record there is nothing to break, and no break was asked for.
    obtain rfl := h.eq_false_of_none
    cases hbreaking
    simp
  | some r =>
    obtain ⟨rfl, shown, answer, payload, hinner, hrecord, -⟩ := h.fetched_of_some
    have hpath : (∃ shown r' e, (Command.get, Buffer.holding (Envelope.nameRequest name), shown) ∈
        exchanges (opened inner ++ tail) ∧ Channel.record shown = .ok r' ∧
        BlobPath.parse r'.path = .error e) ↔ ∃ e, BlobPath.parse r.path = .error e := by
      rw [hbreaking.exchanges_opened_append, hinner]
      simp [hrecord]
    rw [hbreaking.warning_iff, h.exists_mem_opened_append Event.callsStore_of_refuses,
      h.exists_mem_opened_append Event.callsStore_of_failsToBreak, hpath]
    exact ⟨fun h => ⟨rfl, h⟩, And.right⟩

end Removal

/-- What is left to do when a device has been removed. It does not fail. -/
def breakFetched (mounted : Option Record) : Program Outcome :=
  match mounted with
  | some r => do return .ofWarning? (← breakRecordLease r)
  | none => return .ofWarning? none

theorem unmount_eq (name : String) (breakLease : Bool) :
    unmount name breakLease = (do
      Action.ofExcept (Rules.lookupName name)
      let mounted ← Channel.withChannel (removeDevice name breakLease)
      Action.always (breakFetched mounted)) := by
  unfold unmount
  congr
  funext _
  congr
  funext mounted
  cases mounted with
  | none => rfl
  | some r =>
    have hwarned := Program.bind_assoc (breakRecordLease r) (fun w => .done (Outcome.ofWarning? w))
      fun o => .done (Except.ok o : Except Error Outcome)
    have hvalue := Program.bind_assoc (breakRecordLease r) (fun w => .done (Except.ok w : Except Error _))
      (ExceptT.bindCont fun w => pure (Outcome.ofWarning? w))
    exact hvalue.trans hwarned.symm

/-- How an unmount goes. -/
inductive Unmounting (name : String) (breakLease : Bool) : List Event → Except Error Outcome → Prop
  | misnamed {e : Error} : Rules.lookupName name = .error e → Unmounting name breakLease [] (.error e)
  | unopened (e : Error) : Rules.lookupName name = .ok () →
    Unmounting name breakLease [⟨.openChannel, .error e⟩] (.error e)
  | failed {inner : List Event} {e : Error} : Rules.lookupName name = .ok () →
    Removal name breakLease inner (.error e) → Unmounting name breakLease (opened inner) (.error e)
  | removed {inner tail : List Event} {mounted : Option Record} {warning : Option CleanupWarning} :
    Rules.lookupName name = .ok () → Removal name breakLease inner (.ok mounted) →
    Breaking mounted tail warning →
    Unmounting name breakLease (opened inner ++ tail) (.ok (.ofWarning? warning))

theorem runs_unmount {v : Except Error Outcome} (h : (unmount name breakLease).run.Runs events v) :
    Unmounting name breakLease events v := by
  rw [unmount_eq] at h
  rcases Action.runs_ofExcept_bind.mp h with ⟨e, hname, rfl, rfl⟩ | ⟨_, hname, h⟩
  · exact .misnamed hname
  have hfits : (Envelope.nameRequest name).utf8ByteSize ≤ Buffer.capacity := by
    have hlimit : name.utf8ByteSize ≤ 32 := (Rules.lookupName_eq_ok.mp hname).1.2
    simp only [Envelope.nameRequest, String.utf8ByteSize_append, Buffer.capacity,
      show "\n".utf8ByteSize = 1 from rfl]
    omega
  rcases Action.runs_bind.mp h with ⟨e, rfl, hchannel⟩ | ⟨front, mounted, back, rfl, hchannel, hrest⟩
  · rcases Channel.runs_withChannel.mp hchannel with ⟨e', rfl, he⟩ | ⟨inner, rfl, hremove⟩
    · cases he
      exact .unopened e hname
    · exact .failed hname (runs_removeDevice hfits hremove)
  · rcases Channel.runs_withChannel.mp hchannel with ⟨e', -, he⟩ | ⟨inner, rfl, hremove⟩
    · cases he
    obtain ⟨o, rfl, hbreak⟩ := Action.runs_always.mp hrest
    have hbroken : ∃ warning, Breaking mounted back warning ∧ o = .ofWarning? warning := by
      cases mounted with
      | none =>
        obtain ⟨rfl, rfl⟩ := Program.runs_done.mp hbreak
        exact ⟨none, .unasked, rfl⟩
      | some r =>
        obtain ⟨tail, warning, rest, rfl, hlease, hend⟩ := Program.runs_bind.mp hbreak
        obtain ⟨rfl, rfl⟩ := Program.runs_done.mp hend
        rw [List.append_nil]
        exact ⟨warning, runs_breakRecordLease hlease, rfl⟩
    obtain ⟨warning, hbreaking, rfl⟩ := hbroken
    exact .removed hname (runs_removeDevice hfits hremove) hbreaking

/-- What the device manager is asked, once the channel is open. -/
structure Asks (name : String) (breakLease : Bool) (events : List Event) : Prop where
  /-- Without a break it is asked once. -/
  plain : breakLease = false →
    ∃ answer, exchanges events = [(.unmount, .holding (Envelope.nameRequest name), answer)]
  /-- With a break it is asked for the record, and to remove the device if it shows one. -/
  fetching : breakLease = true → ∃ shown,
    ((∃ e, Channel.record shown = .error e) ∧
      exchanges events = [(.get, .holding (Envelope.nameRequest name), shown)]) ∨
    ∃ r answer, Channel.record shown = .ok r ∧
      exchanges events = [(.get, .holding (Envelope.nameRequest name), shown),
        (.unmount, .holding (Envelope.nameRequest name), answer)]

theorem Removal.asks {inner : List Event} {v : Except Error (Option Record)}
    (h : Removal name breakLease inner v) (hevents : exchanges events = exchanges inner) :
    Asks name breakLease events := by
  refine ⟨fun hplain => ?_, fun hfetch => ?_⟩
  · subst hplain
    rw [hevents]
    exact h.exchanges_plain
  · subst hfetch
    rw [hevents]
    exact h.exchanges_fetching

/-- What an unmount comes to: whom it asks for what, when it succeeds, and what it does about the lease. -/
structure Unmounted (name : String) (breakLease : Bool) (events : List Event) (v : Except Error Outcome) :
    Prop where
  misnamed : ∀ e, Rules.lookupName name = .error e → events = [] ∧ v = .error e
  named : Rules.lookupName name = .ok () → ∃ answer, events.head?.bind Event.opening? = some answer
  unopened : ∀ e, events.head?.bind Event.opening? = some (.error e) → events.length = 1 ∧ v = .error e
  opened : events.head?.bind Event.opening? = some (.ok ()) → Asks name breakLease events
  /-- It succeeds just if the request to remove the device did. -/
  success : (∃ o, v = .ok o) ↔ ∃ answer payload,
    (.unmount, .holding (Envelope.nameRequest name), answer) ∈ exchanges events ∧
    Channel.payload answer = .ok payload
  once : events.countP Event.breaks ≤ 1
  /-- A break comes last, if it was asked for, after a success, and is sent to the blob of the record that
  was fetched. -/
  breaks : ∀ event ∈ events, event.breaks = true → breakLease = true ∧
    ∃ front shown answer r payload blob, events = front ++ [event] ∧
      exchanges front = [(.get, .holding (Envelope.nameRequest name), shown),
        (.unmount, .holding (Envelope.nameRequest name), answer)] ∧
      Channel.record shown = .ok r ∧ Channel.payload answer = .ok payload ∧
      BlobPath.parse r.path = .ok blob ∧ event.effect = .store r.login (.breakLease blob 0)
  /-- One warning at most, if there was no store, no path or no break. -/
  warns : ∀ o, v = .ok o → o.warnings.length ≤ 1 ∧
    (o.warnings ≠ [] ↔ breakLease = true ∧ ((∃ event ∈ events, event.refuses = true) ∨
      (∃ shown r e, (.get, .holding (Envelope.nameRequest name), shown) ∈ exchanges events ∧
        Channel.record shown = .ok r ∧ BlobPath.parse r.path = .error e) ∨
      ∃ event ∈ events, event.failsToBreak = true))

theorem Removal.unmounted_failed {inner : List Event} {e : Error} (h : Removal name breakLease inner (.error e))
    (hname : Rules.lookupName name = .ok ()) : Unmounted name breakLease (opened inner) (.error e) where
  misnamed := fun e' he' => by rw [hname] at he'; cases he'
  named := fun _ => ⟨.ok (), rfl⟩
  unopened := fun e' he' => by cases he'
  opened := fun _ => h.asks (exchanges_opened inner)
  success := by
    have hiff := h.success_iff
    simp only [reduceCtorEq, exists_false, false_iff] at hiff ⊢
    rw [exchanges_opened]
    exact hiff
  once := by
    rw [List.countP_eq_zero.mpr (h.absent_opened Event.callsStore_of_breaks)]
    exact Nat.zero_le 1
  breaks := fun event hmem hbreak => (h.absent_opened Event.callsStore_of_breaks event hmem hbreak).elim
  warns := nofun

theorem Removal.unmounted {inner tail : List Event} {mounted : Option Record} {warning : Option CleanupWarning}
    (h : Removal name breakLease inner (.ok mounted)) (hbreaking : Breaking mounted tail warning)
    (hname : Rules.lookupName name = .ok ()) :
    Unmounted name breakLease (opened inner ++ tail) (.ok (.ofWarning? warning)) where
  misnamed := fun e' he' => by rw [hname] at he'; cases he'
  named := fun _ => ⟨.ok (), rfl⟩
  unopened := fun e' he' => by cases he'
  opened := fun _ => h.asks (hbreaking.exchanges_opened_append inner)
  success := by
    rw [hbreaking.exchanges_opened_append, ← h.success_iff]
    exact iff_of_true ⟨_, rfl⟩ ⟨_, rfl⟩
  once := by
    rw [List.countP_append, List.countP_eq_zero.mpr (h.absent_opened Event.callsStore_of_breaks), Nat.zero_add]
    exact hbreaking.countP_breaks
  breaks := fun _ hmem hbreak => h.break_fetched hbreaking hmem hbreak
  warns := fun o ho => by
    obtain rfl := Except.ok.inj ho
    refine ⟨by cases warning <;> simp [Outcome.ofWarning?], ?_⟩
    have hwarnings : (Outcome.ofWarning? warning).warnings ≠ [] ↔ warning ≠ none := by
      cases warning <;> simp [Outcome.ofWarning?]
    rw [hwarnings, h.warning_iff hbreaking]

theorem Unmounting.unmounted {v : Except Error Outcome} (h : Unmounting name breakLease events v) :
    Unmounted name breakLease events v := by
  cases h with
  | misnamed hname => constructor <;> simp_all
  | unopened e hname => constructor <;> simp_all [Event.breaks, Event.opening?]
  | failed hname hremoval => exact hremoval.unmounted_failed hname
  | removed hname hremoval hbreaking => exact hremoval.unmounted hbreaking hname

end Client

/-! ## Two runs -/

/-- Whether the effect goes to the device manager. -/
def Effect.isDevice (e : Effect) : Bool := e.movesChannel || e.isRequest

theorem Event.exchange?_eq_none {event : Event} (h : event.effect.isDevice = false) :
    event.exchange? = none := by
  obtain ⟨effect, answer⟩ := event
  cases effect <;> first | rfl | cases h

/-- A world whose device manager is a machine. What else is asked is answered at will. -/
def Outside.beside {δ : Type} (device : (e : Effect) → δ → e.Answer × δ) : Outside δ :=
  fun d event d' =>
    if event.effect.isDevice = true then (event.answer, d') = device event.effect d else d' = d

namespace Client

variable {δ : Type} {device : (e : Effect) → δ → e.Answer × δ} {d d₁ d₂ : δ} {name : String} {breakLease : Bool}

theorem breakFetched_only {mounted : Option Record} :
    (breakFetched mounted).Only fun e => e.isDevice = false := by
  cases mounted with
  | none => exact Program.only_pure
  | some r =>
    exact Program.only_bind (breakRecordLease_only (fun _ => rfl) fun _ _ => rfl) fun _ => Program.only_pure

/-- What is done with the channel open has one run beside a machine. -/
theorem channel_deterministic {v₁ v₂ : Except Error (Option Record)} {scenes₁ scenes₂ : List (Scene δ)}
    (h₁ : (Channel.withChannel (removeDevice name breakLease)).run.RunsIn (.beside device) d scenes₁ v₁ d₁)
    (h₂ : (Channel.withChannel (removeDevice name breakLease)).run.RunsIn (.beside device) d scenes₂ v₂ d₂) :
    scenes₂ = scenes₁ ∧ v₂ = v₁ ∧ d₂ = d₁ := by
  have honly : (Channel.withChannel (removeDevice name breakLease)).Only fun e => e.isDevice = true :=
    Channel.withChannel_only rfl (removeDevice_only fun _ _ => rfl) rfl
  refine Program.Only.deterministic ?_ honly h₁ h₂
  intro s e answer answer' s₁ s₂ he hstep hstep'
  simp only [Outside.beside, he, if_true] at hstep hstep'
  exact Prod.mk.inj (hstep'.trans hstep.symm)

/-- An unmount beside a machine: what was done with the channel open decides whether it succeeds, and
nothing that comes later reaches the machine. -/
theorem unmount_beside {v : Except Error Outcome} {scenes : List (Scene δ)}
    (h : (unmount name breakLease).run.RunsIn (.beside device) d scenes v d₁)
    (hname : Rules.lookupName name = .ok ()) :
    ∃ front result, (Channel.withChannel (removeDevice name breakLease)).run.RunsIn (.beside device) d front
        result d₁ ∧
      exchanges (Scene.events scenes) = exchanges (Scene.events front) ∧
      ((∃ e, result = .error e ∧ v = .error e) ∨ ∃ mounted o, result = .ok mounted ∧ v = .ok o) := by
  have hnamed : unmount name breakLease = (do
      let mounted ← Channel.withChannel (removeDevice name breakLease)
      Action.always (breakFetched mounted)) := by
    rw [unmount_eq, hname]
    rfl
  rw [hnamed] at h
  rcases Action.runsIn_bind.mp h with ⟨e, rfl, hchannel⟩ | ⟨front, mounted, d', back, rfl, hchannel, hrest⟩
  · exact ⟨scenes, .error e, hchannel, rfl, .inl ⟨e, rfl, rfl⟩⟩
  · have hquiet := Program.Only.runs (Action.only_always breakFetched_only) hrest.1
    have hkept : d₁ = d' := hrest.2.frame (E := fun e => e.isDevice = false) (fun s event s' hstep he => by
      simpa only [Outside.beside, he, Bool.false_eq_true, if_false] using hstep) hquiet
    subst hkept
    obtain ⟨o, rfl, -⟩ := Action.runs_always.mp hrest.1
    refine ⟨front, .ok mounted, hchannel, ?_, .inr ⟨mounted, o, rfl, rfl⟩⟩
    have hback : exchanges (Scene.events back) = [] :=
      List.filterMap_eq_nil_iff.mpr fun event hmem => Event.exchange?_eq_none (hquiet event hmem)
    rw [Scene.events, List.map_append, exchanges_append]
    exact (congrArg _ hback).trans (List.append_nil _)

/-- Unmounting is not in the hands of storage. Two runs beside the same machine ask it the same, leave it
in the same state, and both succeed or fail with the same error, whatever the stores answered. Each run
asks the device manager only what is needed, and breaks the lease only of a device that was removed. -/
theorem unmount_sure (name : String) (breakLease : Bool) :
    (∀ {δ : Type} (device : (e : Effect) → δ → e.Answer × δ) (d d₁ d₂ : δ) (scenes₁ scenes₂ : List (Scene δ))
      (v₁ v₂ : Except Error Outcome),
      (unmount name breakLease).run.RunsIn (.beside device) d scenes₁ v₁ d₁ →
      (unmount name breakLease).run.RunsIn (.beside device) d scenes₂ v₂ d₂ →
      ((∃ o, v₁ = .ok o) ↔ ∃ o, v₂ = .ok o) ∧ (∀ e, v₁ = .error e ↔ v₂ = .error e) ∧
      exchanges (Scene.events scenes₁) = exchanges (Scene.events scenes₂) ∧ d₁ = d₂) ∧
    ∀ events v, (unmount name breakLease).run.Runs events v → Unmounted name breakLease events v := by
  refine ⟨?_, fun events v h => (runs_unmount h).unmounted⟩
  intro δ device d d₁ d₂ scenes₁ scenes₂ v₁ v₂ h₁ h₂
  cases hname : Rules.lookupName name with
  | error e =>
    rw [unmount_eq, hname] at h₁ h₂
    obtain ⟨rfl, rfl, rfl⟩ := Program.runsIn_done.mp h₁
    obtain ⟨rfl, rfl, rfl⟩ := Program.runsIn_done.mp h₂
    exact ⟨Iff.rfl, fun _ => Iff.rfl, rfl, rfl⟩
  | ok _ =>
    obtain ⟨front₁, result₁, hchannel₁, hevents₁, hv₁⟩ := unmount_beside h₁ hname
    obtain ⟨front₂, result₂, hchannel₂, hevents₂, hv₂⟩ := unmount_beside h₂ hname
    obtain ⟨rfl, rfl, rfl⟩ := channel_deterministic hchannel₁ hchannel₂
    rw [hevents₁, hevents₂]
    rcases hv₁ with ⟨e, rfl, rfl⟩ | ⟨mounted, o, rfl, rfl⟩
    · rcases hv₂ with ⟨e', he, rfl⟩ | ⟨mounted', o', he, -⟩
      · obtain rfl := Except.error.inj he
        exact ⟨Iff.rfl, fun _ => Iff.rfl, rfl, rfl⟩
      · cases he
    · rcases hv₂ with ⟨e', he, -⟩ | ⟨mounted', o', -, rfl⟩
      · cases he
      · exact ⟨iff_of_true ⟨o, rfl⟩ ⟨o', rfl⟩, fun e => iff_of_false nofun nofun, rfl, rfl⟩

/-- A device manager that shows one record, whatever it is asked. -/
def showing (e : Effect) (_ : Unit) : e.Answer × Unit := (Sample.answers Sample.accepted e, ())

/-- The same with stores that break any lease. -/
def yielding : (e : Effect) → Unit → e.Answer × Unit
  | .store _ (.breakLease ..), _ => (Except.ok (), ())
  | e, d => showing e d

theorem unmount_sure_disk : ∃ scenes₁ scenes₂ o₁ o₂,
    (unmount "disk" true).run.RunsIn (.beside showing) () scenes₁ (.ok o₁) () ∧
    (unmount "disk" true).run.RunsIn (.beside showing) () scenes₂ (.ok o₂) () ∧
    o₁.warnings = [] ∧ o₂.warnings ≠ [] ∧
    exchanges (Scene.events scenes₁) = exchanges (Scene.events scenes₂) ∧
    Unmounted "disk" true (Scene.events scenes₁) (.ok o₁) ∧
    Unmounted "disk" true (Scene.events scenes₂) (.ok o₂) := by
  have hyields : ∀ e d, True → Outside.beside showing d ⟨e, (yielding e d).1⟩ (yielding e d).2 := by
    intro e d _
    cases e <;> rfl
  have hrefuses : ∀ e d, True → Outside.beside showing d ⟨e, (showing e d).1⟩ (showing e d).2 := by
    intro e d _
    cases e <;> rfl
  have hruns₁ := @Program.runsIn_scenes _ _ _ _ (fun _ => True) hyields (unmount "disk" true).run ()
    fun _ _ => trivial
  have hruns₂ := @Program.runsIn_scenes _ _ _ _ (fun _ => True) hrefuses (unmount "disk" true).run ()
    fun _ _ => trivial
  have hclean : ((unmount "disk" true).run.scenes yielding ()).2.1.toOption = some ⟨[]⟩ := by decide +kernel
  have hwarned : ((unmount "disk" true).run.scenes showing ()).2.1.toOption.map (·.warnings.length) = some 1 := by
    decide +kernel
  obtain ⟨o, ho, hlength⟩ := Option.map_eq_some_iff.mp hwarned
  have hsome : o.warnings ≠ [] := List.ne_nil_of_length_eq_add_one hlength
  rw [Sample.eq_ok_of_toOption hclean] at hruns₁
  rw [Sample.eq_ok_of_toOption ho] at hruns₂
  obtain ⟨hsame, hunmounted⟩ := unmount_sure "disk" true
  exact ⟨_, _, _, _, hruns₁, hruns₂, rfl, hsome, (hsame _ _ _ _ _ _ _ _ hruns₁ hruns₂).2.2.1,
    hunmounted _ _ hruns₁.1, hunmounted _ _ hruns₂.1⟩

end Client

end BlobDisk
