import BlobDisk.Proofs.Mount.Vetting

/-!
# What a failed mount leaves of leases

A mount can take a lease in two places: on a blob that is made for it, and on the blob of its record.
If it fails, each is broken by a cleanup of its own. No other client is at work.

* `Mount.Hampered`: a call of a cleanup was made to fail;
* `Client.mountRecord_spares`, `Client.mount_spares`: what a mount does to the profiles of blobs;
* `Client.mount_ensures`: what every mount of a record leaves true of its answer, a mount leaves true;
* `Client.mountRecord_given`: the mount of a record under a lease neither takes nor breaks any;
* `Mount.failed_leases`: a failed mount leaves every blob with the lease that it had, or with none.
-/

namespace BlobDisk

open Profiles

namespace Scene

variable {σ : Type}

/-- After the scene there is no control channel. -/
def EndsChannel (x : Scene σ) : Prop :=
  x.event = ⟨.closeChannel, ()⟩ ∨ ∃ e, x.event = ⟨.openChannel, .error e⟩

/-- A store cannot be opened. -/
def Refuses (x : Scene σ) : Prop := ∃ login e, x.event = ⟨.connect login, .error e⟩

end Scene

/-- A call of a cleanup was made to fail: a break, with its lease still live, after the mount had taken
one; or the opening of the store for the break, after the control channel was gone. -/
def Mount.Hampered (scenes : List (Scene Profiles)) : Prop :=
  ∃ x y, List.Sublist [x, y] scenes ∧ (x.Takes ∧ y.Thwarts ∨ x.EndsChannel ∧ y.Refuses)

open Mount (Hampered)

theorem Mount.Hampered.mono {scenes all : List (Scene Profiles)} (h : Hampered scenes)
    (hsub : scenes.Sublist all) : Hampered all := by
  obtain ⟨x, y, hxy, hcause⟩ := h
  exact ⟨x, y, hxy.trans hsub, hcause⟩

theorem Mount.hampered_of_mem {front back : List (Scene Profiles)} {x y : Scene Profiles} (hx : x ∈ front)
    (hy : y ∈ back) (h : x.Takes ∧ y.Thwarts ∨ x.EndsChannel ∧ y.Refuses) : Hampered (front ++ back) :=
  ⟨x, y, (List.singleton_sublist.mpr hx).append (List.singleton_sublist.mpr hy), h⟩

variable {p : Profiles} {force : Bool}

/-! ## Mounts of records -/

/-- An action that fails leaves every blob with the lease that it had, or with none, unless a cleanup is
hampered. Without force it leaves leased blobs alone, whether it fails or not. -/
def Action.Spares (force : Bool) (a : Action Record) (p : Profiles) : Prop :=
  a.Ensures Step p (fun _ _ p' => force = false → Kept p p')
    fun scenes _ p' => (Shed p p' ∨ Hampered scenes) ∧ (force = false → Kept p p')

theorem Action.spares_bind {α : Type} {a : Action α} {f : α → Action Record}
    (h : a.Ensures Step p (fun _ x p' => p' = p ∧ (f x).Spares force p) fun _ _ p' => p' = p) :
    (a >>= f).Spares force p := by
  refine Action.ensures_bind.mpr (h.mono ?_ ?_)
  · rintro front x _ ⟨rfl, hf⟩
    refine hf.mono (fun _ _ _ hkept => hkept) fun back e p' ⟨hshed, hkept⟩ => ⟨?_, hkept⟩
    exact hshed.imp id fun hampered => hampered.mono (List.sublist_append_right front back)
  · rintro front e _ rfl
    exact ⟨.inl (Shed.refl _), fun _ => Kept.refl _⟩

theorem Channel.spares_withChannel {body : Action Record} (h : body.Spares force p) :
    (withChannel body).Spares force p := by
  refine ensures_withChannel_profiles (fun u => ?_) fun e => ⟨.inl (Shed.refl _), fun _ => Kept.refl _⟩
  refine h.mono (fun _ _ _ hkept => hkept) fun scenes e p' ⟨hshed, hkept⟩ => ⟨?_, hkept⟩
  exact hshed.imp id fun hampered =>
    hampered.mono (List.Sublist.cons _ (List.sublist_append_left scenes _))

namespace Client

variable {c : Client} {login : Credentials} {blob : BlobPath} {r : Record} {o : LeaseOptions}

theorem leaseAndSubmit_spares (hb : BlobPath.parse r.path = .ok blob) :
    (c.leaseAndSubmit login blob r o).Spares o.breakLease p := by
  unfold leaseAndSubmit
  split
  · refine Action.ensures_bind.mpr (Lease.acquire_ensures.mono ?_ ?_)
    · rintro front id _ ⟨⟨x, hx, htakes⟩, ⟨f, hf, hfree⟩, rfl⟩
      have hkept : ∀ id? : Option String, o.breakLease = false →
          Kept p (p.setLease (login.account, blob) id?) := by
        intro id? hforce
        refine (Kept.refl p).setLease ((lease_eq hf).trans (hfree.resolve_right ?_)) id?
        simp [hforce]
      refine Action.ensures_bind.mpr (Action.ensures_always.mpr (Action.ensures_outcome.mpr
        ((submitMount_ensures (r := { r with leaseId := id }) hb).mono ?_ ?_)))
      · rintro _ mounted _ ⟨rfl, -⟩
        exact hkept _
      · rintro _ e _ ⟨rfl, -⟩
        refine Action.ensures_bind.mpr (Action.ensures_always.mpr (Lease.breakBestEffort_ensures.mono ?_))
        rintro back _ _ (rfl | ⟨rfl, y, hy, hthwarts⟩)
        · rw [setLease_setLease]
          exact ⟨.inl (Shed.setLease fun _ _ => .inr rfl), hkept none⟩
        · exact ⟨.inr (Mount.hampered_of_mem hx (by simp [hy]) (.inl ⟨htakes, hthwarts⟩)), hkept _⟩
    · rintro _ e _ (rfl | ⟨hforce, rfl⟩)
      · exact ⟨.inl (Shed.refl _), fun _ => Kept.refl _⟩
      · exact ⟨.inl (Shed.setLease fun _ _ => .inr rfl), fun h => by rw [hforce] at h; cases h⟩
  · refine (submitMount_ensures hb).mono ?_ ?_
    · rintro _ mounted _ ⟨rfl, -⟩
      exact fun _ => Kept.refl _
    · rintro _ e _ ⟨rfl, -⟩
      exact ⟨.inl (Shed.refl _), fun _ => Kept.refl _⟩

theorem mountRecord_spares : (c.mountRecord r o).Spares o.breakLease p := by
  unfold mountRecord
  refine Action.spares_bind (fillCredentials_only.idle.mono ?_ fun _ _ _ h => h.2)
  rintro _ r _ ⟨-, rfl⟩
  refine ⟨rfl, Channel.spares_withChannel ?_⟩
  refine Action.spares_bind (Action.ensures_connect.mpr
    ⟨fun _ p₁ h => ?_, fun _ _ h => h.eq_of_other nofun⟩)
  obtain rfl := h.eq_of_other nofun
  refine ⟨rfl, Action.spares_bind (Action.ensures_ofExcept.mpr ⟨fun blob hb => ⟨rfl, ?_⟩, fun _ _ => rfl⟩)⟩
  refine Action.spares_bind (Lease.locate_ensures.mono ?_ fun _ _ _ h => h)
  rintro _ properties _ ⟨rfl, -⟩
  refine ⟨rfl, Action.spares_bind (Action.ensures_ofExcept.mpr ⟨fun q hq => ⟨rfl, ?_⟩, fun _ _ => rfl⟩)⟩
  obtain ⟨hpath, -, -⟩ := fillSize_eq_ok hq
  exact leaseAndSubmit_spares (hpath ▸ hb)

/-- With credentials at hand, the mount of a record fails only when the control channel is gone. -/
theorem mountRecord_ends {σ : Type} {W : Outside σ} {s : σ} (hc : c.credentials ≠ none) :
    (c.mountRecord r o).Ensures W s (fun _ _ _ => True)
      fun scenes _ _ => ∃ x ∈ scenes, x.EndsChannel := by
  have hfill : (c.fillCredentials r).Ensures W s (fun _ _ _ => True) fun _ _ _ => False := by
    unfold fillCredentials login
    cases hlogin : c.credentials with
    | none => exact (hc hlogin).elim
    | some login => split <;> trivial
  unfold mountRecord
  refine Action.ensures_bind.mpr (hfill.mono (fun front r s' _ => ?_) fun _ _ _ h => h.elim)
  refine Channel.ensures_withChannel.mpr ⟨fun _ s₁ _ => ?_, fun e _ _ => ?_⟩
  · refine Action.ensures_of_forall (fun _ _ _ _ _ => trivial) fun scenes e s₂ s₃ _ => ?_
    exact ⟨⟨s₂, .closeChannel, ()⟩, by simp, .inl rfl⟩
  · exact ⟨⟨s', .openChannel, .error e⟩, by simp, .inr ⟨e, rfl⟩⟩

/-! ## Mounts -/

/-- A blob that is made for a mount takes the place of none that is leased; it is under a lease just if
the mount took one. -/
theorem prepareBlob_ensures {q : MountRequest} {object : String} :
    (prepareBlob login q object).Ensures Step p
      (fun scenes prepared p' => (prepared.2.2 = true → (∃ x ∈ scenes, x.Takes) ∧
          p.lease (login.account, prepared.1) = none ∧
          ∃ v, p' = Function.update p (login.account, prepared.1) v) ∧
        (prepared.2.2 = false → Renewed p p'))
      fun _ _ p' => Renewed p p' := by
  unfold prepareBlob
  split
  · refine Action.ensures_bind.mpr (Action.ensures_connect.mpr
      ⟨fun _ p₁ h => ?_, fun _ _ h => .inl (h.eq_of_other nofun)⟩)
    obtain rfl := h.eq_of_other nofun
    refine Action.ensures_bind.mpr (Provision.create_ensures.mono ?_ fun _ _ _ h => h)
    rintro scenes created _ ⟨htakes, hnone, size, rfl⟩
    cases hlease : created.leaseId with
    | some id =>
      obtain ⟨x, hx, htakes⟩ := htakes (hlease ▸ nofun)
      exact ⟨fun _ => ⟨⟨x, by simp [hx], htakes⟩, hnone, _, rfl⟩, nofun⟩
    | none => exact ⟨nofun, fun _ => .inr ⟨_, size, hnone, rfl⟩⟩
  · exact ⟨nofun, fun _ => .inl rfl⟩

theorem releaseCreated_ensures : (releaseCreated login blob).Ensures Step p fun scenes _ p' =>
    p' = p.setLease (login.account, blob) none ∨ p' = p ∧ ∃ x ∈ scenes, x.Thwarts ∨ x.Refuses := by
  unfold releaseCreated
  refine Program.ensures_bind.mpr (Action.ensures_outcome.mpr (Action.ensures_connect.mpr
    ⟨fun _ p₁ h => ?_, fun e p₁ h => ?_⟩))
  · obtain rfl := h.eq_of_other nofun
    refine Program.ensures_bind.mpr (Lease.breakBestEffort_ensures.mono ?_)
    rintro scenes _ _ (rfl | ⟨rfl, x, hx, hthwarts⟩)
    · exact Or.inl rfl
    · exact Or.inr ⟨rfl, x, by simp [hx], .inl hthwarts⟩
  · obtain rfl := h.eq_of_other nofun
    exact Or.inr ⟨rfl, _, List.mem_singleton_self _, .inr ⟨_, _, rfl⟩⟩

theorem nameOr_ensures {name : Option String} :
    (nameOr name).Ensures Step p (fun _ _ p' => p' = p) fun _ _ p' => p' = p :=
  Profiles.ensures_of_only (nameOr_only nofun)

theorem mount_spares {q : MountRequest} : (c.mount q).Spares q.breakLease p := by
  unfold mount
  by_cases hc : c.credentials = none
  · have hlogin : c.login = throw (.config "storage account name and key are required") := by
      rw [login, hc]
    rw [hlogin]
    exact ⟨.inl (Shed.refl _), fun _ => Kept.refl _⟩
  refine Action.spares_bind (login_only.idle.mono ?_ fun _ _ _ h => h.2)
  rintro _ login p ⟨-, rfl⟩
  refine ⟨rfl, Action.spares_bind (nameOr_ensures.mono ?_ fun _ _ _ h => h)⟩
  rintro _ name p rfl
  refine ⟨rfl, Action.spares_bind (Action.ensures_ofExcept.mpr ⟨fun _ _ => ⟨rfl, ?_⟩, fun _ _ => rfl⟩)⟩
  refine Action.ensures_bind.mpr (prepareBlob_ensures.mono ?_
    fun _ e p' h => ⟨.inl h.shed, fun _ => h.kept⟩)
  rintro front ⟨blob, leaseId, createdLease⟩ p₁ ⟨hcreated, hgiven⟩
  refine Action.ensures_bind.mpr (Action.ensures_always.mpr (Action.ensures_outcome.mpr
    ((mountRecord_spares.and (mountRecord_ends hc)).mono ?_ ?_)))
  · rintro scenes mounted p₂ ⟨hkept, -⟩
    cases createdLease with
    | false => exact fun hforce => (hgiven rfl).kept.trans (hkept hforce)
    | true =>
      obtain ⟨-, hnone, v, rfl⟩ := hcreated rfl
      exact fun hforce => ((Kept.refl p).update hnone v).trans (hkept hforce)
  · rintro scenes e p₂ ⟨⟨hshed, hkept⟩, x, hx, hends⟩
    have hmono : ∀ back, Hampered scenes → Hampered (front ++ (scenes ++ back)) := fun back h =>
      h.mono ((List.sublist_append_left scenes back).trans (List.sublist_append_right front _))
    cases createdLease with
    | false =>
      exact ⟨hshed.imp (hgiven rfl).shed.trans (hmono []),
        fun hforce => (hgiven rfl).kept.trans (hkept hforce)⟩
    | true =>
      -- The blob is new and under a lease of this mount, which is broken now.
      obtain ⟨⟨y, hy, htakes⟩, hnone, v, rfl⟩ := hcreated rfl
      have hkept : q.breakLease = false → Kept p p₂ :=
        fun hforce => ((Kept.refl p).update hnone v).trans (hkept hforce)
      refine Action.ensures_bind.mpr (Action.ensures_always.mpr (releaseCreated_ensures.mono ?_))
      rintro back _ _ (rfl | ⟨rfl, z, hz, hthwarts | hrefuses⟩)
      · refine ⟨?_, fun hforce => (hkept hforce).setLease hnone none⟩
        refine hshed.imp (fun h => Shed.setLease fun k' hk => ?_) (hmono _)
        exact (h k').imp id fun hlease => hlease.trans (lease_update_of_ne hk v)
      · exact ⟨.inr (Mount.hampered_of_mem hy (by simp [hz]) (.inl ⟨htakes, hthwarts⟩)), hkept⟩
      · refine ⟨.inr ?_, hkept⟩
        rw [← List.append_assoc]
        exact Mount.hampered_of_mem (List.mem_append_right front hx) (by simp [hz])
          (.inr ⟨hends, hrefuses⟩)

/-- A mount that succeeds answers what the mount of a record answers, and does nothing after it. -/
theorem mount_ensures {σ : Type} {W : Outside σ} {s : σ} {q : MountRequest} {good : Record → σ → Prop}
    (h : ∀ r o s, (c.mountRecord r o).Ensures W s (fun _ m s' => good m s') fun _ _ _ => True) :
    (c.mount q).Ensures W s (fun _ m s' => good m s') fun _ _ _ => True := by
  unfold mount
  refine Action.ensures_bind.mpr (Action.ensures_of_forall (fun _ login _ => ?_) fun _ _ _ => trivial)
  refine Action.ensures_bind.mpr (Action.ensures_of_forall (fun _ name _ => ?_) fun _ _ _ => trivial)
  refine Action.ensures_bind.mpr (Action.ensures_of_forall (fun _ _ _ => ?_) fun _ _ _ => trivial)
  refine Action.ensures_bind.mpr (Action.ensures_of_forall (fun _ prepared _ => ?_) fun _ _ _ => trivial)
  obtain ⟨blob, leaseId, createdLease⟩ := prepared
  refine Action.ensures_bind.mpr (Action.ensures_always.mpr (Action.ensures_outcome.mpr
    ((h _ _ _).mono (fun _ _ _ h => h) fun _ e _ _ => ?_)))
  -- A mount that fails answers no record.
  cases createdLease with
  | false => trivial
  | true => exact Action.ensures_bind.mpr (Action.ensures_of_forall (fun _ _ _ => trivial) fun _ _ _ => trivial)

/-! ## Mounts under a lease -/

/-- The mount of a record that names a lease makes no call that takes or breaks one. -/
theorem mountRecord_given (hr : r.leaseId ≠ "") : (c.mountRecord r o).Only fun e =>
    ∀ login call, e = .store login call → call.movesLease = false := by
  have hstore : ∀ login call, StoreCall.movesLease call = false →
      ∀ login' call', Effect.store login call = .store login' call' → call'.movesLease = false := by
    rintro login call hcall _ _ ⟨⟩
    exact hcall
  unfold mountRecord
  refine Action.only_iff.mpr (Action.obeys_bind.mpr (fillCredentials_obeys.mono ?_ fun _ _ _ => trivial))
  rintro r₁ ⟨⟩ ⟨-, -, hlease⟩
  refine Action.only_iff.mp (Channel.withChannel_only nofun ?_ nofun)
  refine Action.only_bind (Program.only_perform nofun) fun _ => ?_
  refine Action.only_bind Action.only_ofExcept fun blob => ?_
  refine Action.only_bind (Lease.locate_only (hstore _)) fun properties => ?_
  refine Action.only_iff.mpr (Action.obeys_bind.mpr (Action.obeys_ofExcept.mpr
    ⟨fun q hq => ?_, fun _ _ => trivial⟩))
  obtain ⟨-, hlease', -⟩ := fillSize_eq_ok hq
  rw [leaseAndSubmit, if_neg fun h => hr ((hlease'.trans hlease).symm.trans h.1)]
  exact Action.only_iff.mp (submitMount_only (fun _ => nofun) (hstore _) fun _ _ => nofun)

end Client

/-! ## In the stores -/

/-- Every blob has the lease that it had before, or none; and without force every lease that was live
before is live. -/
structure Stores.Spared (force : Bool) (S S' : Stores) : Prop where
  lease_eq : ∀ account b, (S' account).lease? b = none ∨ (S' account).lease? b = (S account).lease? b
  kept : force = false → ∀ account b id, (S account).lease? b = some id →
    (S' account).lease? b = some id

theorem Stores.lease_profiles (S : Stores) (account : String) (b : BlobPath) :
    S.profiles.lease (account, b) = (S account).lease? b := by
  rw [Profiles.lease, profiles, MemoryStore.profile?, MemoryStore.lease?]
  cases (S account).blob? b <;> rfl

theorem Action.Spares.runs {a : Action Record} {S S' : Stores} {scenes : List (Scene Stores)} {e : Error}
    (h : a.Spares force S.profiles) (hr : a.run.RunsIn Stores.Step S scenes (.error e) S')
    (hfair : ¬ Hampered (scenes.map (Scene.map Stores.profiles))) : Stores.Spared force S S' := by
  obtain ⟨hshed, hkept⟩ := Program.ensures_iff.mp h _ _ _ hr.profiles
  refine ⟨fun account b => ?_, fun hforce account b id hid => ?_⟩
  · rw [← Stores.lease_profiles, ← Stores.lease_profiles]
    exact hshed.resolve_right hfair (account, b)
  · rw [← Stores.lease_profiles] at hid ⊢
    obtain ⟨f, hf, hid⟩ := Option.bind_eq_some_iff.mp hid
    rw [Profiles.lease_eq (hkept hforce _ f id hf hid), hid]

/-- Whatever calls fail and whatever the device manager answers: if a mount fails, and its cleanup is not
hampered, then every blob is left with the lease that it had or with none, and without force no lease
is lost; and the mount of a record under a lease neither takes nor breaks any, whether it fails or not. -/
theorem Mount.failed_leases {c : Client} {S S' : Stores} {scenes : List (Scene Stores)} :
    (∀ r o e, (c.mountRecord r o).run.RunsIn Stores.Step S scenes (.error e) S' →
      ¬ Hampered (scenes.map (Scene.map Stores.profiles)) → Stores.Spared o.breakLease S S') ∧
    (∀ q e, (c.mount q).run.RunsIn Stores.Step S scenes (.error e) S' →
      ¬ Hampered (scenes.map (Scene.map Stores.profiles)) → Stores.Spared q.breakLease S S') ∧
    ∀ r o v, r.leaseId ≠ "" → (c.mountRecord r o).run.RunsIn Stores.Step S scenes v S' →
      ∀ e ∈ Scene.events scenes, ∀ login call, e.effect = .store login call → call.movesLease = false :=
  ⟨fun _ _ _ hr => Client.mountRecord_spares.runs hr, fun _ _ hr => Client.mount_spares.runs hr,
    fun _ _ _ hlease hr => Program.Only.runs (Client.mountRecord_given hlease) hr.1⟩

/-- A break or the opening of a store fails. -/
def Event.fails : Event → Bool
  | ⟨.store _ (.breakLease ..), .error _⟩ | ⟨.connect _, .error _⟩ => true
  | _ => false

theorem Mount.not_hampered {scenes : List (Scene Stores)}
    (h : ∀ e ∈ Scene.events scenes, e.fails = false) :
    ¬ Hampered (scenes.map (Scene.map Stores.profiles)) := by
  rintro ⟨x, y, hsub, hcause⟩
  rw [← Scene.events_map Stores.profiles] at h
  have hy := h y.event (List.mem_map_of_mem (hsub.subset (by simp)))
  rcases hcause with ⟨-, login, b, seconds, e, hevent, -⟩ | ⟨-, login, e, hevent⟩ <;>
  · rw [hevent] at hy
    cases hy

/-- A mount that makes a blob. -/
def Sample.request : MountRequest where
  deviceName := some "disk"
  objectName := some "new"
  sizeGb := 1
  vhd := false
  autoCreate := true

/-- A client with credentials. -/
def Sample.owner : Client where
  credentials := some ⟨"account", "a2V5"⟩

/-- Two mounts that the device manager refuses, and one under a lease that is none. -/
theorem Mount.failed_leases_refused :
    (∃ scenes e S', (Sample.client.mountRecord Sample.record { autoLease := true }).run.RunsIn
        Stores.Step (fun _ => Sample.store 1) scenes (.error e) S' ∧
      Stores.Spared false (fun _ => Sample.store 1) S') ∧
    (∃ scenes e S', (Sample.owner.mount Sample.request).run.RunsIn
        Stores.Step (fun _ => Sample.store 1) scenes (.error e) S' ∧
      Stores.Spared false (fun _ => Sample.store 1) S') ∧
    ∃ scenes v S', (Sample.client.mountRecord { Sample.record with leaseId := "gone" } {}).run.RunsIn
        Stores.Step (fun _ => Sample.store 1) scenes v S' ∧
      ∀ e ∈ Scene.events scenes, ∀ login call, e.effect = .store login call → call.movesLease = false := by
  refine ⟨?_, ?_, _, _, _, Sample.staged_runs Sample.refused _,
    failed_leases.2.2 _ _ _ (by decide) (Sample.staged_runs Sample.refused _)⟩
  · have hruns := Sample.staged_runs Sample.refused
      (Sample.client.mountRecord Sample.record { autoLease := true })
    obtain ⟨e, he⟩ := Sample.exists_of_not_isOk (v := (Sample.staged Sample.refused
      (Sample.client.mountRecord Sample.record { autoLease := true })).2.1) (by decide +kernel)
    rw [he] at hruns
    exact ⟨_, e, _, hruns, failed_leases.1 _ _ e hruns (not_hampered (by decide +kernel))⟩
  · have hruns := Sample.staged_runs Sample.refused (Sample.owner.mount Sample.request)
    obtain ⟨e, he⟩ := Sample.exists_of_not_isOk (v := (Sample.staged Sample.refused
      (Sample.owner.mount Sample.request)).2.1) (by decide +kernel)
    rw [he] at hruns
    exact ⟨_, e, _, hruns, failed_leases.2.1 _ e hruns (not_hampered (by decide +kernel))⟩

end BlobDisk
