import BlobDisk.Client
import BlobDisk.Proofs.Channel.Exchange
import BlobDisk.Proofs.Outside

/-!
# What an operation asks for at all

Most parts of an operation ask for a few kinds of effects and no others, whatever they are answered.

* `Program.Only`, `Action.Only`: all effects of a program are of a kind;
* `Program.Only.runs`: so are all events of its runs;
* `Lease.locate_only` to `Client.breakRecordLease_only`: the parts of operations, for any kind that
  holds what they ask for.
-/

namespace BlobDisk

/-- Allows the effects of a kind, whatever came before. -/
def Monitor.only (E : Effect → Prop) : Monitor Unit := ⟨fun _ e => E e, fun _ _ _ => ()⟩

/-- Whether the call takes a lease or ends one. -/
def StoreCall.movesLease : StoreCall → Bool
  | acquireLease .. | breakLease .. => true
  | _ => false

/-- Whether the effect is a request to the device manager. -/
def Effect.isRequest : Effect → Bool
  | submit .. => true
  | _ => false

namespace Program

variable {α β σ : Type} {E : Effect → Prop}

/-- The program asks for effects of the kind only. -/
def Only (E : Effect → Prop) (p : Program α) : Prop := p.Obeys (Monitor.only E) () fun _ _ => True

theorem only_pure {a : α} : (pure a : Program α).Only E := trivial

theorem only_perform {e : Effect} (h : E e) : (perform e).Only E := ⟨h, fun _ => trivial⟩

theorem only_bind {p : Program α} {f : α → Program β} (hp : p.Only E) (hf : ∀ a, (f a).Only E) :
    (p >>= f).Only E :=
  obeys_bind.mpr (Obeys.mono hp fun a _ _ => hf a)

theorem Only.mono {F : Effect → Prop} {p : Program α} (h : p.Only E) (hF : ∀ e, E e → F e) :
    p.Only F := by
  induction p with
  | done a => exact trivial
  | ask e next ih => exact ⟨hF e h.1, fun answer => ih answer (h.2 answer)⟩

theorem Only.runs {p : Program α} (h : p.Only E) {events : List Event} {a : α}
    (hr : p.Runs events a) : ∀ e ∈ events, E e.effect := by
  induction hr with
  | done a => exact nofun
  | ask answer _ ih =>
    rintro e (_ | ⟨_, he⟩)
    · exact h.1
    · exact ih (h.2 answer) e he

theorem Only.ensures {W : Outside σ} {s : σ} {p : Program α} (h : p.Only E) :
    p.Ensures W s fun scenes _ _ => ∀ x ∈ scenes, E x.event.effect :=
  ensures_iff.mpr fun _ _ _ hr x hx => h.runs hr.1 x.event (List.mem_map_of_mem hx)

/-- A program changes nothing, if none of the effects that it asks for does. -/
theorem Only.frame {W : Outside σ} {s : σ} {p : Program α} (h : p.Only E)
    (hW : ∀ s event s', W s event s' → E event.effect → s' = s) :
    p.Ensures W s fun _ _ s' => s' = s :=
  ensures_iff.mpr fun _ _ _ hr => hr.2.frame hW (h.runs hr.1)

end Program

namespace Action

variable {α β σ : Type} {E : Effect → Prop}

/-- The action asks for effects of the kind only. -/
def Only (E : Effect → Prop) (a : Action α) : Prop := Program.Only E a.run

theorem only_iff {a : Action α} :
    a.Only E ↔ a.Obeys (Monitor.only E) () (fun _ _ => True) fun _ _ => True :=
  ⟨fun h => Program.Obeys.mono h fun r _ _ => by cases r <;> trivial,
    fun h => Program.Obeys.mono h fun _ _ _ => trivial⟩

theorem only_pure {x : α} : (pure x : Action α).Only E := trivial

theorem only_throw {e : Error} : (throw e : Action α).Only E := trivial

theorem only_ofExcept {r : Except Error α} : (ofExcept r).Only E := trivial

theorem only_bind {a : Action α} {f : α → Action β} (ha : a.Only E) (hf : ∀ x, (f x).Only E) :
    (a >>= f).Only E := by
  refine Program.only_bind ha fun r => ?_
  cases r with
  | ok x => exact hf x
  | error e => exact trivial

theorem only_map {a : Action α} {f : α → β} (ha : a.Only E) : (f <$> a).Only E := by
  refine Program.only_bind ha fun r => ?_
  cases r <;> exact trivial

/-- A step that only refuses. -/
theorem only_guard {c : Prop} {_ : Decidable c} {e : Error} {f : α → Action β} {y : Action β}
    (hy : y.Only E) : (if c then (throw e : Action α) >>= f else y).Only E := by
  split
  · exact trivial
  · exact hy

theorem only_always {p : Program α} (hp : p.Only E) : (always p).Only E :=
  Program.only_bind hp fun _ => trivial

theorem only_outcome {a : Action α} (ha : a.Only E) : a.outcome.Only E := ha

theorem only_mapM {f : α → Action β} (hf : ∀ x, (f x).Only E) (xs : List α) : (xs.mapM f).Only E := by
  induction xs with
  | nil => exact only_pure
  | cons x xs ih =>
    rw [List.mapM_cons]
    exact only_bind (hf x) fun _ => only_bind ih fun _ => only_pure

theorem Only.ensures {W : Outside σ} {s : σ} {a : Action α} (h : a.Only E) :
    a.Ensures W s (fun scenes _ _ => ∀ x ∈ scenes, E x.event.effect)
      fun scenes _ _ => ∀ x ∈ scenes, E x.event.effect := by
  refine (Program.Only.ensures h).mono fun scenes r s' hr => ?_
  cases r <;> exact hr

/-- An action changes nothing, if none of the effects that it asks for does. -/
theorem Only.frame {W : Outside σ} {s : σ} {a : Action α} (h : a.Only E)
    (hW : ∀ s event s', W s event s' → E event.effect → s' = s) :
    a.Ensures W s (fun _ _ s' => s' = s) fun _ _ s' => s' = s := by
  refine (Program.Only.frame h hW).mono fun scenes r s' hr => ?_
  cases r <;> exact hr

/-- An action that asks for nothing changes nothing. -/
theorem Only.idle {W : Outside σ} {s : σ} {a : Action α} (h : a.Only fun _ => False) :
    a.Ensures W s (fun scenes _ s' => scenes = [] ∧ s' = s) fun scenes _ s' => scenes = [] ∧ s' = s := by
  have hidle : Program.Ensures W a.run s fun scenes _ s' => scenes = [] ∧ s' = s := by
    refine Program.ensures_iff.mpr fun scenes v s' hr => ?_
    cases hr.2 with
    | nil => exact ⟨rfl, rfl⟩
    | cons _ _ => exact (Program.Only.runs h hr.1 _ List.mem_cons_self).elim
  refine hidle.mono fun scenes r s' hr => ?_
  cases r <;> exact hr

end Action

variable {E : Effect → Prop} {login : Credentials} {blob : BlobPath}

/-! ## Requests -/

namespace Channel

variable {α : Type}

theorem exchangeBuffer_only {command : Command} {buffer : Buffer} (h : E (.submit command buffer)) :
    (exchangeBuffer command buffer).Only E := by
  refine Action.only_bind (Action.only_always (Program.only_perform h)) fun answer => ?_
  cases answer with
  | error detail => exact Action.only_throw
  | ok reply => exact Action.only_ofExcept

theorem exchange_only {command : Command} {request : String}
    (h : ∀ buffer, E (.submit command buffer)) : (exchange command request).Only E :=
  Action.only_bind Action.only_ofExcept fun buffer => exchangeBuffer_only (h buffer)

theorem getRecord_only {name : String} (h : ∀ command buffer, E (.submit command buffer)) :
    (getRecord name).Only E :=
  Action.only_bind (exchange_only (h _)) fun _ => Action.only_ofExcept

theorem withChannel_only {body : Action α} (hopen : E .openChannel) (hbody : body.Only E)
    (hclose : E .closeChannel) : (withChannel body).Only E := by
  refine Action.only_bind (Program.only_perform hopen) fun _ => ?_
  refine Action.only_bind (Action.only_always (Action.only_outcome hbody)) fun _ => ?_
  refine Action.only_bind (Action.only_always (Program.only_perform hclose)) fun _ => ?_
  exact Action.only_ofExcept

end Channel

/-! ## Leases -/

namespace Lease

theorem locate_only (h : ∀ call, call.movesLease = false → E (.store login call)) :
    (locate login blob).Only E := by
  refine Action.only_bind (Program.only_perform (h _ rfl)) fun _ => Action.only_guard ?_
  refine Action.only_bind (Program.only_perform (h _ rfl)) fun _ => Action.only_guard ?_
  exact Program.only_perform (h _ rfl)

theorem acquire_only {breakExisting : Bool} (h : ∀ call, E (.store login call)) :
    (acquire login blob breakExisting).Only E := by
  refine Action.only_bind (Action.only_always (Program.only_perform (h _))) fun answer => ?_
  cases answer with
  | ok id => exact Action.only_pure
  | error e =>
    cases breakExisting with
    | false => cases e <;> exact Action.only_throw
    | true =>
      cases e with
      | leaseAlreadyPresent detail =>
        exact Action.only_bind (Program.only_perform (h _)) fun _ => Program.only_perform (h _)
      | _ => exact Action.only_throw

theorem verifyWritable_only {id : String} {mode : AccessMode}
    (h : ∀ call, call.movesLease = false → E (.store login call)) :
    (verifyWritable login blob id mode).Only E := by
  refine Action.only_bind (Program.only_perform (h _ rfl)) fun _ => Action.only_guard ?_
  cases mode with
  | readOnly => exact Action.only_pure
  | readWrite => exact Action.only_bind (Program.only_perform (h _ rfl)) fun _ => Action.only_pure

theorem breakBestEffort_only (h : ∀ call, E (.store login call)) :
    (breakBestEffort login blob).Only E := by
  refine Program.only_bind (Action.only_outcome (Program.only_perform (h _))) fun answer => ?_
  cases answer <;> exact Program.only_pure

end Lease

/-! ## Records -/

theorem Record.validate_only {r : Record} {domain : String} (hresolve : ∀ host, E (.resolve host))
    (hstore : ∀ call, call.movesLease = false → E (.store login call)) :
    (r.validate login domain).Only E := by
  unfold validate
  split
  · exact Program.only_pure
  · refine Program.only_bind (Action.only_outcome (Action.only_bind (Program.only_perform
      (hresolve _)) fun _ => Action.only_guard Action.only_pure)) fun answer => ?_
    cases answer with
    | error e => exact Program.only_pure
    | ok r => exact Program.only_bind (Lease.verifyWritable_only hstore) fun _ => Program.only_pure

/-! ## New blobs -/

namespace Provision

theorem writeFooter_only {objectSize payloadSize : UInt64} (hstamp : E .footerStamp)
    (hstore : ∀ call, E (.store login call)) :
    (writeFooter login blob objectSize payloadSize).Only E :=
  Action.only_bind (Action.only_always (Program.only_perform hstamp)) fun _ =>
    Program.only_perform (hstore _)

theorem create_only {gb : UInt64} {container name : String} {vhd lease : Bool}
    (hstamp : E .footerStamp) (hstore : ∀ call, E (.store login call)) :
    (create login gb container name vhd lease).Only E := by
  have hlease : ∀ blob : BlobPath, Action.Only E (do
      let leaseId ← if lease then some <$> Lease.acquire login blob false else pure none
      return (⟨blob, gb, vhd, leaseId⟩ : CreatedBlob)) := by
    intro blob
    cases lease with
    | false => exact Action.only_pure
    | true => exact Action.only_bind (Action.only_map (Lease.acquire_only hstore)) fun _ => Action.only_pure
  unfold create
  refine Action.only_bind Action.only_ofExcept fun _ => ?_
  refine Action.only_bind Action.only_ofExcept fun objectSize => ?_
  refine Action.only_bind (Program.only_perform (hstore _)) fun _ => ?_
  refine Action.only_bind (Program.only_perform (hstore _)) fun _ => ?_
  cases vhd with
  | false => exact hlease _
  | true =>
    refine Action.only_bind Action.only_ofExcept fun payloadSize => ?_
    exact Action.only_bind (writeFooter_only hstamp hstore) fun _ => hlease _

theorem delete_only {leaseId : Option String} {forceBreak : Bool}
    (hstore : ∀ call, E (.store login call)) :
    (delete login blob leaseId forceBreak).Only E := by
  cases forceBreak with
  | false => exact Action.only_bind (Program.only_perform (hstore _)) fun _ => Action.only_pure
  | true =>
    refine Action.only_bind (Action.only_always (Lease.breakBestEffort_only hstore)) fun _ => ?_
    exact Action.only_bind (Program.only_perform (hstore _)) fun _ => Action.only_pure

end Provision

/-! ## Operations -/

namespace Client

variable {c : Client}

theorem login_only : c.login.Only E := by
  unfold login
  split
  · exact Action.only_pure
  · exact Action.only_throw

theorem nameOr_only {name : Option String} (h : E .freshName) : (nameOr name).Only E := by
  cases name with
  | some name => exact Action.only_pure
  | none => exact Action.only_always (Program.only_perform h)

theorem fillCredentials_only {r : Record} : (c.fillCredentials r).Only E := by
  unfold fillCredentials
  split
  · exact Action.only_bind login_only fun _ => Action.only_pure
  · exact Action.only_pure

theorem submitMount_only {r : Record} (hresolve : ∀ host, E (.resolve host))
    (hstore : ∀ call, call.movesLease = false → E (.store login call))
    (hsubmit : ∀ command buffer, E (.submit command buffer)) : (c.submitMount login r).Only E := by
  refine Action.only_bind (Action.only_always (Record.validate_only hresolve hstore)) ?_
  rintro ⟨r, verdict⟩
  refine Action.only_bind Action.only_ofExcept fun _ => ?_
  refine Action.only_bind Action.only_ofExcept fun buffer => ?_
  refine Action.only_bind (Channel.exchangeBuffer_only (hsubmit _ _)) fun payload => ?_
  exact Action.only_bind Action.only_ofExcept fun _ => Action.only_pure

theorem leaseAndSubmit_only {r : Record} {o : LeaseOptions} (hresolve : ∀ host, E (.resolve host))
    (hstore : ∀ call, E (.store login call)) (hsubmit : ∀ command buffer, E (.submit command buffer)) :
    (c.leaseAndSubmit login blob r o).Only E := by
  have hmount : ∀ r, (c.submitMount login r).Only E :=
    fun r => submitMount_only hresolve (fun call _ => hstore call) hsubmit
  unfold leaseAndSubmit
  split
  · refine Action.only_bind (Lease.acquire_only hstore) fun leaseId => ?_
    refine Action.only_bind (Action.only_always (Action.only_outcome (hmount _))) fun answer => ?_
    cases answer with
    | ok mounted => exact Action.only_pure
    | error e =>
      exact Action.only_bind (Action.only_always (Lease.breakBestEffort_only hstore)) fun _ =>
        Action.only_throw
  · exact hmount r

theorem prepareBlob_only {q : MountRequest} {object : String} (hconnect : E (.connect login))
    (hstamp : E .footerStamp) (hstore : ∀ call, E (.store login call)) :
    (prepareBlob login q object).Only E := by
  unfold prepareBlob
  split
  · refine Action.only_bind (Program.only_perform hconnect) fun _ => ?_
    refine Action.only_bind (Provision.create_only hstamp hstore) fun created => ?_
    cases created.leaseId <;> exact Action.only_pure
  · exact Action.only_pure

theorem releaseCreated_only (hconnect : E (.connect login)) (hstore : ∀ call, E (.store login call)) :
    (releaseCreated login blob).Only E := by
  refine Program.only_bind (Action.only_outcome (Program.only_perform hconnect)) fun answer => ?_
  cases answer with
  | ok _ => exact Program.only_bind (Lease.breakBestEffort_only hstore) fun _ => Program.only_pure
  | error e => exact Program.only_pure

theorem breakRecordLease_only {r : Record} (hconnect : ∀ login, E (.connect login))
    (hstore : ∀ login call, E (.store login call)) : (breakRecordLease r).Only E := by
  refine Program.only_bind (Action.only_outcome (Program.only_perform (hconnect _))) fun answer => ?_
  cases answer with
  | error e => exact Program.only_pure
  | ok _ =>
    dsimp only
    split
    · exact Program.only_pure
    · exact Lease.breakBestEffort_only (hstore _)

theorem removeDevice_only {name : String} {fetch : Bool}
    (h : ∀ command buffer, E (.submit command buffer)) : (removeDevice name fetch).Only E := by
  have hrest : ∀ mounted, Action.Only E (do
      let _ ← Channel.exchange .unmount (Envelope.nameRequest name)
      return (mounted : Option Record)) := fun mounted =>
    Action.only_bind (Channel.exchange_only (h _)) fun _ => Action.only_pure
  cases fetch with
  | false => exact hrest none
  | true => exact Action.only_bind (Action.only_map (Channel.getRecord_only h)) hrest

theorem getSized_only {name : String} (h : ∀ command buffer, E (.submit command buffer)) :
    (getSized name).Only E :=
  Action.only_bind (Channel.getRecord_only h) fun _ => Action.only_ofExcept

theorem get_only {name : String} (hopen : E .openChannel)
    (h : ∀ command buffer, E (.submit command buffer)) (hclose : E .closeChannel) :
    (get name).Only E :=
  Action.only_bind Action.only_ofExcept fun _ => Channel.withChannel_only hopen (getSized_only h) hclose

theorem list_only (hopen : E .openChannel) (h : ∀ command buffer, E (.submit command buffer))
    (hclose : E .closeChannel) : list.Only E := by
  refine Channel.withChannel_only hopen ?_ hclose
  exact Action.only_bind (Channel.exchange_only (h _)) fun _ => Action.only_mapM (fun _ => getSized_only h) _

theorem create_only {q : CreateRequest} (hname : E .freshName) (hconnect : ∀ login, E (.connect login))
    (hstamp : E .footerStamp) (hstore : ∀ login call, E (.store login call)) :
    (c.create q).Only E := by
  refine Action.only_bind (nameOr_only hname) fun name => ?_
  refine Action.only_bind login_only fun login => ?_
  refine Action.only_bind (Program.only_perform (hconnect login)) fun _ => ?_
  exact Provision.create_only hstamp (hstore login)

theorem delete_only {container name : String} {leaseId : Option String} {forceBreak : Bool}
    (hconnect : ∀ login, E (.connect login)) (hstore : ∀ login call, E (.store login call)) :
    (c.delete container name leaseId forceBreak).Only E := by
  refine Action.only_bind login_only fun login => ?_
  refine Action.only_bind (Program.only_perform (hconnect login)) fun _ => ?_
  exact Provision.delete_only (hstore login)

end Client

end BlobDisk
