import BlobDisk.Proofs.Device.Session
import BlobDisk.Proofs.Store.Survival

/-!
# A site where nothing fails

The channel can be opened, every call reaches its store, and hosts have fixed addresses. What can still go
wrong is what the stores and the device manager say, and an answer that does not fit the buffer.

* `Site.Calm`: the world, and `Site.calmly`, a site behind the effects that keeps to it;
* `Site.exists_run`: every program runs to an end;
* `Site.Prompt`: the world where every answer of the device manager fits the buffer;
* `Site.ensures_store_ok`, `Site.ensures_read`: calls whose answer is known;
* `Lease.locate_found`, `Lease.verifyWritable_held`: what is known of a blob that was located and probed;
* `Lease.locate_calm`, `Lease.verifyWritable_calm`: blobs that are located, and probed, without fail.
-/

namespace BlobDisk

namespace Site

/-- The site after a call of the store of an account. -/
def called (s : Site) (account fresh : String) (call : StoreCall) : Site :=
  { s with stores := Function.update s.stores account ((s.stores account).perform fresh call).2 }

/-- The site after a request to the device manager. -/
def asked (s : Site) (command : Command) (request : String) : Site :=
  { s with table := (s.table.answer command request).2 }

/-- Nothing fails for a reason of its own: the channel can be opened, the device manager answers what fits
the buffer, a key in base 64 opens a store, a call is carried out, with some id at hand for a lease, and
hosts have the addresses of a table. -/
def Calm (resolver : String → Except Error IpAddress) : Outside Site
  | s, ⟨.openChannel, answer⟩, s' => answer = .ok () ∧ s' = s
  | s, ⟨.submit command buffer, answer⟩, s' =>
    answer = Testbed.World.written (s.table.answer command buffer.text).1 ∧ s' = s.asked command buffer.text
  | s, ⟨.connect login, answer⟩, s' => answer = (Rules.keyBytes login.key).map (fun _ => ()) ∧ s' = s
  | s, ⟨.store login call, answer⟩, s' => ∃ fresh,
    answer = ((s.stores login.account).perform fresh call).1 ∧ s' = s.called login.account fresh call
  | s, ⟨.resolve host, answer⟩, s' => answer = resolver host ∧ s' = s
  | s, _, s' => s' = s

/-- The site behind the effects, where leases are taken under one id. -/
def calmly (resolver : String → Except Error IpAddress) (fresh : String) :
    (e : Effect) → Site → e.Answer × Site
  | .openChannel, s => (.ok (), s)
  | .submit command buffer, s =>
    (Testbed.World.written (s.table.answer command buffer.text).1, s.asked command buffer.text)
  | .closeChannel, s => ((), s)
  | .connect login, s => ((Rules.keyBytes login.key).map fun _ => (), s)
  | .store login call, s =>
    (((s.stores login.account).perform fresh call).1, s.called login.account fresh call)
  | .resolve host, s => (resolver host, s)
  | .freshName, s => ("disk", s)
  | .footerStamp, s => ((default : Vhd.Stamp), s)

variable {resolver : String → Except Error IpAddress} {s s' : Site} {event : Event}

theorem calm_calmly (resolver : String → Except Error IpAddress) (fresh : String) (e : Effect) (s : Site) :
    Calm resolver s ⟨e, (calmly resolver fresh e s).1⟩ (calmly resolver fresh e s).2 := by
  cases e with
  | store login call => exact ⟨fresh, rfl, rfl⟩
  | openChannel | submit | connect | resolve => exact ⟨rfl, rfl⟩
  | closeChannel | freshName | footerStamp => exact rfl

/-- The run of a program on a calm site. -/
theorem runs_calmly {α : Type} (resolver : String → Except Error IpAddress) (fresh : String) (p : Program α)
    (s : Site) : p.RunsIn (Calm resolver) s (p.scenes (calmly resolver fresh) s).1
      (p.scenes (calmly resolver fresh) s).2.1 (p.scenes (calmly resolver fresh) s).2.2 :=
  Program.runsIn_scenes (fun e s _ => calm_calmly resolver fresh e s) p s fun _ _ => trivial

/-- On a calm site every program runs to an end. -/
theorem exists_run {α : Type} (resolver : String → Except Error IpAddress) (p : Program α) (s : Site) :
    ∃ scenes v s', p.RunsIn (Calm resolver) s scenes v s' :=
  ⟨_, _, _, runs_calmly resolver "lease" p s⟩

/-- What happens on the site happens to the contents of its stores. -/
theorem Calm.contents (h : Calm resolver s event s') :
    Contents.Step s.stores.contents event s'.stores.contents := by
  obtain ⟨e, answer⟩ := event
  cases e with
  | store login call =>
    obtain ⟨fresh, rfl, rfl⟩ := h
    exact Stores.serves_perform s.stores login call fresh
  | openChannel | submit | connect | resolve =>
    obtain ⟨-, rfl⟩ := h
    exact rfl
  | closeChannel | freshName | footerStamp =>
    obtain rfl := h
    exact rfl

/-! ## Answers that fit the buffer -/

/-- The calm site where every answer of the device manager fits the buffer. -/
def Prompt (resolver : String → Except Error IpAddress) : Outside Site :=
  (Calm resolver).Where fun event => event.unanswered = false

theorem Prompt.contents (h : Prompt resolver s event s') :
    Contents.Step s.stores.contents event s'.stores.contents := h.1.contents

/-- What happens on the site happens to its table of devices. -/
theorem Prompt.table (h : Prompt resolver s event s') : DeviceTable.Step s.table event s'.table := by
  obtain ⟨h, hfits⟩ := h
  obtain ⟨e, answer⟩ := event
  cases e with
  | submit command buffer =>
    obtain ⟨hanswer, rfl⟩ := h
    cases answer with
    | error detail => cases hfits
    | ok reply => exact .answered hanswer.symm
  | openChannel =>
    obtain ⟨rfl, rfl⟩ := h
    exact .opened
  | store login call =>
    obtain ⟨fresh, rfl, rfl⟩ := h
    exact .other _ nofun rfl
  | connect | resolve =>
    obtain ⟨rfl, rfl⟩ := h
    exact .other _ nofun rfl
  | closeChannel | freshName | footerStamp =>
    obtain rfl := h
    exact .other _ nofun rfl

/-- What holds of all runs in the contents of the stores holds of all runs on the site. -/
theorem ensures_of_contents {α : Type} {a : Action α} {good : α → Contents → Prop} {bad : Error → Contents → Prop}
    (h : a.Ensures Contents.Step s.stores.contents (fun _ => good) fun _ => bad) :
    a.Ensures (Prompt resolver) s (fun _ x s' => good x s'.stores.contents)
      fun _ e s' => bad e s'.stores.contents := by
  have hview : ∀ s event s', Prompt resolver s event s' →
      Contents.Step s.stores.contents event s'.stores.contents := fun _ _ _ => Prompt.contents
  exact Action.Ensures.comap hview h

/-- What holds of all runs in the table of devices holds of all runs on the site. -/
theorem ensures_of_table {α : Type} {a : Action α} {good : α → DeviceTable → Prop}
    {bad : Error → DeviceTable → Prop} (h : a.Ensures DeviceTable.Step s.table (fun _ => good) fun _ => bad) :
    a.Ensures (Prompt resolver) s (fun _ x s' => good x s'.table) fun _ e s' => bad e s'.table := by
  have hview : ∀ s event s', Prompt resolver s event s' → DeviceTable.Step s.table event s'.table :=
    fun _ _ _ => Prompt.table
  exact Action.Ensures.comap hview h

/-- A call whose answer does not depend on the id for a lease. -/
theorem ensures_store_ok {login : Credentials} {call : StoreCall} {x : call.Answer} {m : MemoryStore}
    (h : ∀ fresh, (s.stores login.account).perform fresh call = (.ok x, m))
    {good : call.Answer → Site → Prop} {bad : Error → Site → Prop}
    (hgood : good x { s with stores := Function.update s.stores login.account m }) :
    (Action.store login call).Ensures (Prompt resolver) s (fun _ => good) fun _ => bad := by
  refine Action.ensures_store.mpr ⟨?_, ?_⟩
  · rintro y _ ⟨⟨fresh, hy, rfl⟩, -⟩
    rw [h fresh] at hy
    obtain rfl := Except.ok.inj hy
    rw [called, h fresh]
    exact hgood
  · rintro e _ ⟨⟨fresh, he, -⟩, -⟩
    rw [h fresh] at he
    cases he

/-- A call that leaves its store as it is. -/
theorem ensures_read {login : Credentials} {call : StoreCall} {x : call.Answer}
    (h : ∀ fresh, (s.stores login.account).perform fresh call = (.ok x, s.stores login.account))
    {good : call.Answer → Site → Prop} {bad : Error → Site → Prop} (hgood : good x s) :
    (Action.store login call).Ensures (Prompt resolver) s (fun _ => good) fun _ => bad :=
  ensures_store_ok h (by rwa [Function.update_eq_self])

/-- The opening and the closing of the channel change nothing. -/
theorem ensures_withChannel {α : Type} {body : Action α} {good : α → Site → Prop} {bad : Error → Site → Prop}
    (h : body.Ensures (Prompt resolver) s (fun _ => good) fun _ => bad) :
    (Channel.withChannel body).Ensures (Prompt resolver) s (fun _ => good) fun _ => bad := by
  refine Channel.ensures_withChannel.mpr ⟨?_, ?_⟩
  · rintro _ _ ⟨⟨-, rfl⟩, -⟩
    refine h.mono ?_ ?_
    all_goals
      rintro _ _ s hs _ ⟨rfl, -⟩
      exact hs
  · rintro e _ ⟨⟨he, -⟩, -⟩
    cases he

end Site

/-! ## Blobs that are located and probed -/

namespace Lease

variable {login : Credentials} {blob : BlobPath} {id : String} {mode : AccessMode} {x : Contents}

theorem locate_found : (locate login blob).Ensures Contents.Step x
    (fun _ q x' => x' = x ∧ blob.container ∈ x.containers login.account ∧
      ∃ s, x.blobs (login.account, blob) = some s ∧ q = s.properties) fun _ _ _ => True := by
  unfold locate
  refine Action.ensures_bind.mpr (Action.ensures_store.mpr ⟨?_, fun _ _ _ => trivial⟩)
  rintro hasContainer _ ⟨rfl, rfl⟩
  refine Action.ensures_guard.mpr ⟨fun _ => trivial, fun hcontainer => ?_⟩
  refine Action.ensures_bind.mpr (Action.ensures_store.mpr ⟨?_, fun _ _ _ => trivial⟩)
  rintro hasBlob _ ⟨-, rfl⟩
  refine Action.ensures_guard.mpr ⟨fun _ => trivial, fun _ => ?_⟩
  refine Action.ensures_store.mpr ⟨?_, fun _ _ _ => trivial⟩
  rintro q _ ⟨⟨s, hs, -, rfl⟩, rfl⟩
  exact ⟨rfl, by simpa using hcontainer, s, hs, rfl⟩

/-- A blob that passes the probe is a page blob under the lease that was presented. -/
theorem verifyWritable_held (hid : id ≠ "") : (verifyWritable login blob id mode).Ensures Contents.Step x
    (fun _ _ x' => ∃ s, x'.blobs (login.account, blob) = some s ∧ s.kind = .page ∧ s.leaseId = some id)
    fun _ _ _ => True := by
  unfold verifyWritable
  refine Action.ensures_bind.mpr (Action.ensures_store.mpr ⟨?_, fun _ _ _ => trivial⟩)
  rintro q x ⟨⟨s, hs, hread, rfl⟩, rfl⟩
  refine Action.ensures_guard.mpr ⟨fun _ => trivial, fun hkind => ?_⟩
  have hkind : s.kind = .page := by simpa [StoredBlob.properties] using hkind
  have hlease : s.leaseId = some id := (MemoryStore.checkReadLease_eq_ok hid).mp hread
  cases mode with
  | readOnly => exact ⟨s, hs, hkind, hlease⟩
  | readWrite =>
    refine Action.ensures_bind.mpr (Action.ensures_store.mpr ⟨?_, fun _ _ _ => trivial⟩)
    rintro _ _ ⟨s', hs', -, rfl⟩
    obtain rfl : s' = s := Option.some.inj (hs'.symm.trans hs)
    exact ⟨_, Contents.blobs_put_self, hkind, hlease⟩

variable {resolver : String → Except Error IpAddress} {s : Site} {b : StoredBlob}

theorem locate_calm (hcontainer : blob.container ∈ s.stores.contents.containers login.account)
    (hblob : s.stores.contents.blobs (login.account, blob) = some b) :
    (locate login blob).Ensures (Site.Prompt resolver) s (fun _ q s' => s' = s ∧ q = b.properties)
      fun _ _ _ => False := by
  have hcontainer : blob.container ∈ (s.stores login.account).containers := hcontainer
  have hblob : (s.stores login.account).blob? blob = some b := hblob
  have hcontainers : ∀ fresh, (s.stores login.account).perform fresh (.containerExists blob.container) =
      (.ok true, s.stores login.account) := by
    simp only [MemoryStore.perform, hcontainer, decide_true, implies_true]
  have hexists : ∀ fresh, (s.stores login.account).perform fresh (.blobExists blob) =
      (.ok true, s.stores login.account) := by
    simp only [MemoryStore.perform, hblob, Option.isSome_some, implies_true]
  have hproperties : ∀ fresh, (s.stores login.account).perform fresh (.properties blob none) =
      (.ok b.properties, s.stores login.account) := by
    simp only [MemoryStore.perform, MemoryStore.properties, MemoryStore.find_eq_ok.mpr hblob]
    exact fun _ => rfl
  unfold locate
  refine Action.ensures_bind.mpr (Site.ensures_read hcontainers ?_)
  refine Action.ensures_guard.mpr ⟨fun h => h rfl, fun _ => ?_⟩
  refine Action.ensures_bind.mpr (Site.ensures_read hexists ?_)
  refine Action.ensures_guard.mpr ⟨fun h => h rfl, fun _ => ?_⟩
  exact Site.ensures_read hproperties ⟨rfl, rfl⟩

theorem verifyWritable_calm (hid : id ≠ "")
    (hblob : s.stores.contents.blobs (login.account, blob) = some b) (hkind : b.kind = .page)
    (hlease : b.leaseId = some id) :
    (verifyWritable login blob id mode).Ensures (Site.Prompt resolver) s (fun _ _ s' => s'.table = s.table)
      fun _ _ _ => False := by
  have hfind : (s.stores login.account).find blob = .ok b := MemoryStore.find_eq_ok.mpr hblob
  have hread : b.checkReadLease blob (some id) = .ok () := (MemoryStore.checkReadLease_eq_ok hid).mpr hlease
  have hwrite : b.checkWriteLease blob (some id) = .ok () :=
    MemoryStore.checkWriteLease_eq_ok.mpr (hlease.trans (MemoryStore.presented_some hid).symm)
  have hproperties : ∀ fresh, (s.stores login.account).perform fresh (.properties blob (some id)) =
      (.ok b.properties, s.stores login.account) := fun _ =>
    Prod.ext (bind_eq_ok.mpr ⟨b, hfind, bind_eq_ok.mpr ⟨(), hread, rfl⟩⟩) rfl
  obtain ⟨m, hm⟩ : ∃ m, (s.stores login.account).setMetadata blob
      (b.properties.metadata.insert probeKey probeValue) (some id) = .ok m :=
    ⟨_, bind_eq_ok.mpr ⟨b, hfind, bind_eq_ok.mpr ⟨(), hwrite, rfl⟩⟩⟩
  have hset : ∀ fresh, (s.stores login.account).perform fresh
      (.setMetadata blob (b.properties.metadata.insert probeKey probeValue) (some id)) = (.ok (), m) := by
    intro fresh
    rw [MemoryStore.perform, hm]
    rfl
  unfold verifyWritable
  refine Action.ensures_bind.mpr (Site.ensures_read hproperties ?_)
  refine Action.ensures_guard.mpr ⟨fun h => h (congrArg some hkind), fun _ => ?_⟩
  cases mode with
  | readOnly => exact rfl
  | readWrite => exact Action.ensures_bind.mpr (Site.ensures_store_ok hset rfl)

end Lease

namespace Sample

/-- All hosts have one address. -/
def address (_ : String) : Except Error IpAddress := .ok (.v4 10 0 0 1)

/-- The run of an action on a site where nothing fails. -/
def calm {α : Type} (s : Site) (a : Action α) : List (Scene Site) × Except Error α × Site :=
  a.run.scenes (Site.calmly address "lease") s

theorem calm_runs {α : Type} (s : Site) (a : Action α) : a.run.RunsIn (Site.Calm address) s
    (calm s a).1 (calm s a).2.1 (calm s a).2.2 := Site.runs_calmly address "lease" a.run s

end Sample

end BlobDisk
