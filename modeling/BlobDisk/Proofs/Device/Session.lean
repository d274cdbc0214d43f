import BlobDisk.Proofs.Device.Table
import BlobDisk.Proofs.Store.Profiles

/-!
# Sessions

Clients work one after the other, on the stores of all accounts and one table of devices.

* `Operation`, `Session`: what clients do, in any world;
* `Site.Step`: the stores and the table as one world;
* `Site.handle`, `Site.step_handle`: a site behind the effects;
* `Sample.visit`: runs on a site with one blob.
-/

namespace BlobDisk

/-! ## Sessions -/

/-- What a client can be asked to do. -/
inductive Operation
  | mount (q : MountRequest)
  | mountRecord (r : Record) (o : LeaseOptions)
  | unmount (name : String) (breakLease : Bool)
  | get (name : String)
  | list
  | create (q : CreateRequest)
  | delete (container name : String) (leaseId : Option String) (forceBreak : Bool)

namespace Operation

/-- What the operation answers. -/
abbrev Value : Operation → Type
  | mount _ | mountRecord .. | get _ => Record
  | unmount .. | delete .. => Outcome
  | list => List Record
  | create _ => CreatedBlob

/-- The operation of a client. -/
def action (c : Client) : (o : Operation) → Action o.Value
  | mount q => c.mount q
  | mountRecord r o => c.mountRecord r o
  | unmount name breakLease => Client.unmount name breakLease
  | get name => Client.get name
  | list => Client.list
  | create q => c.create q
  | delete container name leaseId forceBreak => c.delete container name leaseId forceBreak

end Operation

/-- An operation and how it ended. -/
structure Entry where
  operation : Operation
  result : Except Error operation.Value

/-- Operations one after the other, of any clients, each allowed in the state in which it starts. -/
inductive Session {σ : Type} (W : Outside σ) (allowed : σ → Operation → Prop) (s₀ : σ) :
    List Entry → σ → Prop
  | start : Session W allowed s₀ [] s₀
  | step {entries : List Entry} {s s' : σ} {c : Client} {o : Operation} {scenes : List (Scene σ)}
    {v : Except Error o.Value} : Session W allowed s₀ entries s → allowed s o →
    (o.action c).run.RunsIn W s scenes v s' → Session W allowed s₀ (entries ++ [⟨o, v⟩]) s'

/-- A session seen through a view of the state. -/
theorem Session.map {σ τ : Type} {W : Outside σ} {V : Outside τ} {view : σ → τ}
    {allowed : σ → Operation → Prop} {allowed' : τ → Operation → Prop}
    (h : ∀ s event s', W s event s' → V (view s) event (view s'))
    (hallowed : ∀ s o, allowed s o → allowed' (view s) o) {s₀ s : σ} {entries : List Entry}
    (hs : Session W allowed s₀ entries s) : Session V allowed' (view s₀) entries (view s) := by
  induction hs with
  | start => exact .start
  | step _ ho hr ih => exact .step ih (hallowed _ _ ho) (hr.map h)

/-! ## Sites -/

/-- The stores of all accounts and the table of devices. -/
structure Site where
  stores : Stores
  table : DeviceTable

/-- A request has no answer. -/
def Event.unanswered : Event → Bool
  | ⟨.submit .., .error _⟩ => true
  | _ => false

namespace Site

variable {s s' : Site}

/-- An event in the stores and in the table. -/
structure Step (s : Site) (event : Event) (s' : Site) : Prop where
  stores : Stores.Step s.stores event s'.stores
  table : DeviceTable.Step s.table event s'.table

theorem runs_stores {α : Type} {p : Program α} {scenes : List (Scene Site)} {a : α}
    (h : p.RunsIn Step s scenes a s') :
    p.RunsIn Stores.Step s.stores (scenes.map (Scene.map stores)) a s'.stores :=
  h.map fun _ _ _ hstep => hstep.stores

theorem runs_table {α : Type} {p : Program α} {scenes : List (Scene Site)} {a : α}
    (h : p.RunsIn Step s scenes a s') :
    p.RunsIn DeviceTable.Step s.table (scenes.map (Scene.map table)) a s'.table :=
  h.map fun _ _ _ hstep => hstep.table

/-- The site behind the effects, where calls take leases under one id and all else is answered by
`answers`. -/
def handle (answers : (e : Effect) → e.Answer) (fresh : String) : (e : Effect) → Site → e.Answer × Site
  | .openChannel, s => (.ok (), s)
  | .submit command buffer, s =>
    (Testbed.World.written (s.table.answer command buffer.text).1,
      { s with table := (s.table.answer command buffer.text).2 })
  | e, s =>
    ((Stores.handle answers fresh e s.stores).1,
      { s with stores := (Stores.handle answers fresh e s.stores).2 })

/-- The handler keeps to the site where every answer of the device manager fits the buffer. -/
theorem step_handle (answers : (e : Effect) → e.Answer) (fresh : String) (e : Effect) (s : Site)
    (hfits : Event.unanswered ⟨e, (handle answers fresh e s).1⟩ = false) :
    Step s ⟨e, (handle answers fresh e s).1⟩ (handle answers fresh e s).2 := by
  cases e with
  | openChannel => exact ⟨.other _ nofun, .opened⟩
  | submit command buffer =>
    refine ⟨.other _ nofun, ?_⟩
    cases hw : Testbed.World.written (s.table.answer command buffer.text).1 with
    | error detail =>
      rw [handle, hw] at hfits
      cases hfits
    | ok reply =>
      rw [handle, hw]
      exact .answered hw
  | _ => exact ⟨Stores.step_handle answers fresh _ s.stores, .other _ nofun rfl⟩

end Site

namespace Sample

/-- One blob in the store of every account, and no devices. -/
def site : Site := ⟨fun _ => store 1, {}⟩

/-- The run of an operation on a site where no call fails. -/
def visit (s : Site) (c : Client) (o : Operation) : List (Scene Site) × Except Error o.Value × Site :=
  (o.action c).run.scenes (Site.handle (answers "") "lease") s

theorem visit_runs {s : Site} {c : Client} {o : Operation}
    (h : ∀ event ∈ Scene.events (visit s c o).1, event.unanswered = false) :
    (o.action c).run.RunsIn Site.Step s (visit s c o).1 (visit s c o).2.1 (visit s c o).2.2 :=
  Program.runsIn_scenes (Site.step_handle (answers "") "lease") _ s h

/-- The mount of the record, which takes a lease. -/
abbrev leased : Operation := .mountRecord record { autoLease := true }

/-- What the mount answers. -/
def mounted : Record :=
  { record with
    sectorCount := 2097152, host := "account.blob.core.windows.net", ip := "10.0.0.1",
    leaseId := "lease", major := 252, sizeGb := 1 }

theorem runs_leased :
    ∃ scenes s, (leased.action client).run.RunsIn Site.Step site scenes (.ok mounted) s := by
  have hrun : (∀ event ∈ Scene.events (visit site client leased).1, event.unanswered = false) ∧
      (visit site client leased).2.1.toOption = some mounted := by decide +kernel
  have hruns := visit_runs hrun.1
  rw [eq_ok_of_toOption hrun.2] at hruns
  exact ⟨_, _, hruns⟩

end Sample

end BlobDisk
