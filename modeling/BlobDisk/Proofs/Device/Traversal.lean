import BlobDisk.Proofs.Channel.Answers
import BlobDisk.Proofs.Schedule
import Mathlib.Data.List.Forall2

/-!
# A list, name by name

The device manager answers a list with names only. The records are asked for one by one, in the order of
the names and on the channel on which the list came, until one of them is not shown.

* `Client.Traversal`: what the answers to those requests come to;
* `Client.runs_mapM_getSized`: the requests for the records of names;
* `Client.list_traverses`: all requests of a list, and what their answers come to.
-/

namespace BlobDisk.Client

variable {events : List Event} {names : List String} {v : Except Error (List Record)}

/-- What looking up names comes to, by the answers so far. -/
inductive Traversal (names : List String) : List (Except String Reply) → Except Error (List Record) → Prop
  /-- There is an answer for each name, and each shows a record. -/
  | all {answers : List (Except String Reply)} {records : List Record} :
    answers.length = names.length →
    List.Forall₂ (fun answer r => Channel.sized answer = .ok r) answers records →
    Traversal names answers (.ok records)
  /-- The last answer is the first that shows no record, and the error is its own. -/
  | stopped {front : List (Except String Reply)} {last : Except String Reply} {e : Error} :
    front.length < names.length → (∀ answer ∈ front, ∃ r, Channel.sized answer = .ok r) →
    Channel.sized last = .error e → Traversal names (front ++ [last]) (.error e)

/-- The names are looked up in order, each once, until an answer shows no record. -/
theorem runs_mapM_getSized (hfits : ∀ name ∈ names, (Envelope.nameRequest name).utf8ByteSize ≤ Buffer.capacity)
    (h : (names.mapM getSized).run.Runs events v) :
    ∃ answers, events = List.zipWith (Channel.asked .get) names answers ∧ Traversal names answers v := by
  induction names generalizing events v with
  | nil =>
    obtain ⟨rfl, rfl⟩ := Program.runs_done.mp h
    exact ⟨[], rfl, .all rfl .nil⟩
  | cons name names ih =>
    obtain ⟨hname, hnames⟩ := List.forall_mem_cons.mp hfits
    rw [List.mapM_cons, Action.runs_bind] at h
    rcases h with ⟨e, rfl, hsized⟩ | ⟨front, r, back, rfl, hsized, hrest⟩
    · obtain ⟨answer, rfl, hanswer⟩ := (runs_getSized hname).mp hsized
      have hstopped : Traversal (name :: names) ([] ++ [answer]) (.error e) :=
        .stopped (Nat.succ_pos _) (List.forall_mem_nil _) hanswer.symm
      exact ⟨[answer], by simp, hstopped⟩
    · obtain ⟨answer, rfl, hanswer⟩ := (runs_getSized hname).mp hsized
      obtain ⟨result, hmapM, rfl⟩ :=
        (Action.runs_bind_ofExcept (f := fun records => .ok (r :: records))).mp hrest
      obtain ⟨answers, rfl, htraversal⟩ := ih hnames hmapM
      refine ⟨answer :: answers, rfl, ?_⟩
      cases htraversal with
      | all hlength hshown => exact .all (congrArg Nat.succ hlength) (.cons hanswer.symm hshown)
      | @stopped front last e hlength hshown hlast =>
        have hstopped : Traversal (name :: names) ((answer :: front) ++ [last]) (.error e) :=
          .stopped (Nat.succ_lt_succ hlength) (List.forall_mem_cons.mpr ⟨⟨r, hanswer.symm⟩, hshown⟩) hlast
        exact hstopped

/-- The requests of a list are the one for the list, on a channel that is open, and those for records. -/
theorem runs_list (h : list.run.Runs events v) :
    (∃ e, events = [⟨.openChannel, .error e⟩]) ∨ ∃ answer lookups,
      events = ⟨.openChannel, .ok ()⟩ :: ⟨.submit .list (.holding Envelope.listRequest), answer⟩ ::
        (lookups ++ [⟨.closeChannel, ()⟩]) ∧
      (∀ event ∈ lookups, ∃ buffer, event.effect = .submit .get buffer) ∧
      ∀ payload, Channel.payload answer = .ok payload →
        ((Envelope.names payload).mapM getSized).run.Runs lookups v := by
  have hget : ∀ name, (getSized name).Only fun effect => ∃ buffer, effect = .submit .get buffer := fun name =>
    Action.only_bind (Action.only_bind (Channel.exchange_only fun buffer => ⟨buffer, rfl⟩) fun _ =>
      Action.only_ofExcept) fun _ => Action.only_ofExcept
  have hrequest : Envelope.listRequest.utf8ByteSize ≤ Buffer.capacity := by decide
  unfold list at h
  rcases Channel.runs_withChannel.mp h with ⟨e, rfl, -⟩ | ⟨inner, rfl, hinner⟩
  · exact .inl ⟨e, rfl⟩
  right
  rcases Action.runs_bind.mp hinner with ⟨e, rfl, hlist⟩ | ⟨front, text, lookups, rfl, hlist, hlookups⟩
  · obtain ⟨answer, rfl, hanswer⟩ := (Channel.runs_exchange hrequest).mp hlist
    refine ⟨answer, [], rfl, List.forall_mem_nil _, fun payload hpayload => ?_⟩
    rw [← hanswer] at hpayload
    cases hpayload
  · obtain ⟨answer, rfl, hanswer⟩ := (Channel.runs_exchange hrequest).mp hlist
    refine ⟨answer, lookups, rfl, Program.Only.runs (Action.only_mapM hget _) hlookups, fun payload hpayload => ?_⟩
    rw [← hanswer] at hpayload
    obtain rfl := Except.ok.inj hpayload
    exact hlookups

/-- Where the device manager answers a list with names that are ended, and what may be left of another,
each name is looked up in order and what is left is not. If all of them are shown, the list is their
records; else it fails as the first name that is not, after which no other is looked up. -/
theorem list_traverses {buffer : Buffer} {reply : Reply} {payload rest : String}
    (hruns : list.run.Runs events v) (hlist : ⟨.submit .list buffer, .ok reply⟩ ∈ events)
    (hpayload : Channel.payload (.ok reply) = .ok payload)
    (hutf8 : Utf8.encode payload.toList <:+ reply.bytes)
    (hnames : payload = String.join (names.map Envelope.nameRequest) ++ rest)
    (hended : ∀ name ∈ names, '\n' ∉ name.toList) (hrest : '\n' ∉ rest.toList) :
    ∃ answers, events = ⟨.openChannel, .ok ()⟩ :: ⟨.submit .list (.holding "-"), .ok reply⟩ ::
        (List.zipWith (Channel.asked .get) names answers ++ [⟨.closeChannel, ()⟩]) ∧ Traversal names answers v := by
  rcases runs_list hruns with ⟨e, rfl⟩ | ⟨answer, lookups, rfl, hlookups, htraversal⟩
  · cases List.mem_singleton.mp hlist
  -- The answer to the list is the only one to a request of its kind.
  obtain rfl : answer = .ok reply := by
    rcases List.mem_cons.mp hlist with hopen | hlist
    · cases hopen
    rcases List.mem_cons.mp hlist with hanswer | hlist
    · cases hanswer
      rfl
    rcases List.mem_append.mp hlist with hlookup | hclose
    · obtain ⟨buffer, hget⟩ := hlookups _ hlookup
      cases hget
    · cases List.mem_singleton.mp hclose
  have hruns := htraversal payload hpayload
  have hfits : ∀ name ∈ names, (Envelope.nameRequest name).utf8ByteSize ≤ Buffer.capacity := by
    intro name hname
    calc (Envelope.nameRequest name).utf8ByteSize
        ≤ (String.join (names.map Envelope.nameRequest)).utf8ByteSize :=
          utf8ByteSize_le_join (List.mem_map_of_mem hname)
      _ ≤ payload.utf8ByteSize := by
          rw [hnames, String.utf8ByteSize_append]
          exact Nat.le_add_right _ _
      _ = (Utf8.encode payload.toList).length := (Utf8.length_encode payload).symm
      _ ≤ reply.bytes.length := hutf8.length_le
      _ ≤ Buffer.capacity := reply.length_bytes_le
  rw [hnames, Envelope.names_join hended hrest] at hruns
  obtain ⟨answers, rfl, hcomes⟩ := runs_mapM_getSized hfits hruns
  exact ⟨answers, rfl, hcomes⟩

/-- A device manager that lists two disks and a part of a name, and shows the first disk only. -/
def listing : (e : Effect) → Unit → e.Answer × Unit
  | .submit .list _, _ => (Except.ok (Reply.holding "OK\ndisk\nlost\ndi"), ())
  | .submit _ buffer, _ =>
    (Except.ok (Reply.holding (if buffer.text = "disk\n" then Sample.accepted else Sample.refused)), ())
  | e, _ => (Sample.answers "" e, ())

theorem list_traverses_listing : ∃ events v reply answers, list.run.Runs events v ∧
    Channel.payload (.ok reply) = .ok "disk\nlost\ndi" ∧
    events = ⟨.openChannel, .ok ()⟩ :: ⟨.submit .list (.holding "-"), .ok reply⟩ ::
      (List.zipWith (Channel.asked .get) ["disk", "lost"] answers ++ [⟨.closeChannel, ()⟩]) ∧
    Traversal ["disk", "lost"] answers v := by
  let reply : Reply := .holding "OK\ndisk\nlost\ndi"
  have hruns := Program.runs_trace listing list.run ()
  have hlist : (list.run.trace listing ()).1[1]? = some ⟨.submit .list (.holding "-"), .ok reply⟩ := rfl
  have hpayload : Channel.payload (.ok reply) = .ok "disk\nlost\ndi" :=
    Sample.eq_ok_of_toOption (by decide +kernel)
  have hnames : "disk\nlost\ndi" = String.join (["disk", "lost"].map Envelope.nameRequest) ++ "di" := by
    decide +kernel
  obtain ⟨answers, hevents, htraversal⟩ := list_traverses hruns (List.mem_of_getElem? hlist) hpayload
    (by decide +kernel) hnames (by decide +kernel) (by decide +kernel)
  exact ⟨_, _, reply, answers, hruns, hpayload, hevents, htraversal⟩

end BlobDisk.Client
