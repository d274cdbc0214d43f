import BlobDisk.Proofs.Device.Session
import Mathlib.Data.List.Nodup

/-!
# The ledger of mounted disks

Clients that work one after the other on a table of devices see a ledger: a list of the records that
their mounts answered, in order, without those that were unmounted since.

* `ledger`: what the entries of a session leave mounted;
* `DeviceTable.Represents`: the table holds the records of a ledger;
* `DeviceTable.Represents.operation`: every operation keeps table and ledger in step;
* `DeviceTable.shows_ledger`: what is listed and looked up after a session is the ledger.
-/

namespace BlobDisk

/-- The ledger after one more entry: a mount adds its record, an unmount takes out its name. -/
def Entry.settle (mounted : List Record) : Entry → List Record
  | ⟨.mount _, .ok m⟩ | ⟨.mountRecord .., .ok m⟩ => mounted ++ [m]
  | ⟨.unmount name _, .ok _⟩ => mounted.filter (·.name ≠ name)
  | _ => mounted

/-- The records that entries leave mounted, in the order of their mounts. -/
def ledger (entries : List Entry) : List Record := entries.foldl Entry.settle []

theorem ledger_append (entries : List Entry) (e : Entry) :
    ledger (entries ++ [e]) = e.settle (ledger entries) := by
  rw [ledger, List.foldl_append, List.foldl_cons, List.foldl_nil, ledger]

theorem Entry.settle_error (mounted : List Record) {o : Operation} (e : Error) :
    Entry.settle mounted ⟨o, .error e⟩ = mounted := by
  cases o <;> rfl

/-! ## Tables -/

namespace DeviceTable

variable {t t' : DeviceTable} {rs : List Record} {r m : Record} {name : String}

/-- The table holds the records of the ledger. -/
structure Represents (t : DeviceTable) (rs : List Record) : Prop where
  records : t.records = rs.map Record.unsized
  names : (rs.map (·.name)).Nodup
  listed : ∀ r ∈ rs, r.Listed

theorem represents_nil (h : t.records = []) : Represents t [] := ⟨h, List.nodup_nil, nofun⟩

namespace Represents

theorem eq_of_name (h : Represents t rs) (hr : r ∈ rs) (hm : m ∈ rs) (hname : m.name = r.name) : m = r :=
  List.inj_on_of_nodup_map h.names hm hr hname

theorem find?_eq (h : Represents t rs) (name : String) :
    t.find? name = (rs.find? fun r => r.name = name).map Record.unsized := by
  rw [find?, h.records, List.find?_map]
  rfl

theorem find?_of_mem (h : Represents t rs) (hr : r ∈ rs) : t.find? r.name = some r.unsized := by
  rw [h.find?_eq]
  cases hfind : rs.find? fun m => m.name = r.name with
  | none => exact absurd (List.find?_eq_none.mp hfind r hr) (by simp)
  | some m =>
    have hname : m.name = r.name := by simpa using List.find?_some hfind
    rw [h.eq_of_name hr (List.mem_of_find?_eq_some hfind) hname, Option.map_some]

theorem find?_eq_none (h : Represents t rs) : t.find? name = none ↔ ∀ r ∈ rs, r.name ≠ name := by
  simp [h.find?_eq]

theorem add (h : Represents t rs) (hm : m.Listed) (hfree : t.find? m.name = none) :
    Represents (t.add m) (rs ++ [m]) where
  records := by rw [DeviceTable.add, h.records, List.map_append]; rfl
  names := by
    rw [List.map_append, List.nodup_append]
    refine ⟨h.names, by simp, ?_⟩
    simpa using fun r hr => h.find?_eq_none.mp hfree r hr
  listed := by
    simp only [List.mem_append, List.mem_singleton]
    rintro r (hr | rfl)
    · exact h.listed r hr
    · exact hm

/-- A name is taken out just once. -/
theorem remove_eq_filter (hnames : (rs.map (·.name)).Nodup) (name : String) :
    remove name rs = rs.filter (·.name ≠ name) := by
  induction rs with
  | nil => rfl
  | cons r rs ih =>
    obtain ⟨hr, hnames⟩ := List.nodup_cons.mp hnames
    by_cases hname : r.name = name
    · have hrest : ∀ m ∈ rs, m.name ≠ name := by
        rintro m hm rfl
        exact hr (List.mem_map.mpr ⟨m, hm, hname.symm⟩)
      rw [remove, if_pos hname, List.filter_cons_of_neg (by simp [hname]),
        List.filter_eq_self.mpr (by simpa using hrest)]
    · rw [remove, if_neg hname, List.filter_cons_of_pos (by simp [hname]), ih hnames]

theorem remove (h : Represents t rs) (name : String) :
    Represents { t with records := DeviceTable.remove name t.records } (rs.filter (·.name ≠ name)) where
  records := by
    have hnames : (t.records.map (·.name)).Nodup := by
      rw [h.records, List.map_map]
      exact h.names
    rw [remove_eq_filter hnames, h.records, List.filter_map]
    rfl
  names := h.names.sublist (List.filter_sublist.map _)
  listed := fun r hr => h.listed r (List.mem_filter.mp hr).1

/-! ## Looking -/

theorem getRecord_ensures (h : Represents t rs) (hname : Rules.lookupName name = .ok ()) :
    (Channel.getRecord name).Ensures Step t
      (fun _ q t' => t' = t ∧ ∃ r ∈ rs, r.name = name ∧ q = r.unsized)
      fun _ e t' => t' = t ∧ (∀ r ∈ rs, r.name ≠ name) ∧ ∃ detail, e = .device detail := by
  obtain ⟨buffer, hbuffer, htext⟩ := Channel.nameRequest_text hname
  have hanswer : t.answer .get buffer.text = (t.get name, t) := by rw [answer, htext]
  unfold Channel.getRecord
  rw [Channel.exchange_eq hbuffer]
  refine Action.ensures_bind.mpr ?_
  by_cases hmem : ∃ r ∈ rs, r.name = name
  · obtain ⟨r, hr, rfl⟩ := hmem
    obtain ⟨payload, hsaid, hrecord⟩ := (h.listed r hr).said_shown
    have hget : said (t.answer .get buffer.text).1 = .ok payload := by
      rw [hanswer, get, h.find?_of_mem hr]
      exact hsaid
    refine ensures_exchangeBuffer_ok hget ?_
    rw [hrecord, hanswer]
    exact ⟨rfl, r, hr, rfl, rfl⟩
  · have hmem : ∀ r ∈ rs, r.name ≠ name := fun r hr hname => hmem ⟨r, hr, hname⟩
    obtain ⟨detail, hsaid⟩ : ∃ detail, said (t.answer .get buffer.text).1 = .error (.device detail) := by
      rw [hanswer, get, h.find?_eq_none.mpr hmem]
      exact said_refusal (by decide) _ _
    refine ensures_exchangeBuffer_error hsaid ?_
    rw [hanswer]
    exact ⟨rfl, hmem, detail, rfl⟩

/-- A record is looked up as it was mounted. -/
theorem getSized_ensures (h : Represents t rs) (hname : Rules.lookupName name = .ok ()) :
    (Client.getSized name).Ensures Step t (fun _ r t' => t' = t ∧ r ∈ rs ∧ r.name = name)
      fun _ e t' => t' = t ∧ (∀ r ∈ rs, r.name ≠ name) ∧ ∃ detail, e = .device detail := by
  unfold Client.getSized
  refine Action.ensures_bind.mpr ((h.getRecord_ensures hname).mono ?_ fun _ _ _ h => h)
  rintro _ _ t ⟨rfl, r, hr, hname, rfl⟩
  rw [(h.listed r hr).sizeFromSectors]
  exact ⟨rfl, hr, hname⟩

theorem get_ensures (h : Represents t rs) :
    (Client.get name).Ensures Step t (fun _ r t' => t' = t ∧ r ∈ rs ∧ r.name = name)
      fun _ e t' => t' = t ∧ (Rules.lookupName name = .ok () →
        (∀ r ∈ rs, r.name ≠ name) ∧ ∃ detail, e = .device detail) := by
  unfold Client.get
  refine Action.ensures_bind.mpr (Action.ensures_ofExcept.mpr ⟨fun _ hname => ?_, fun e he => ?_⟩)
  · exact ensures_withChannel ((h.getSized_ensures hname).mono (fun _ _ _ h => h)
      fun _ _ _ h => ⟨h.1, fun _ => h.2⟩)
  · exact ⟨rfl, fun hname => by rw [hname] at he; cases he⟩

/-- The names of a list come back. -/
theorem said_list (h : Represents t rs) :
    ∃ payload, said t.list = .ok payload ∧ Envelope.names payload = rs.map (·.name) := by
  have htext : (String.join (t.records.map fun r => r.name ++ "\n")).toList
      = (rs.map (·.name.toList)).flatMap (· ++ ['\n']) := by
    simp only [h.records, String.toList_join, List.map_map, List.flatMap_map, Function.comp_apply,
      String.toList_append]
    rfl
  have hname : ∀ r ∈ rs, Rules.lookupName r.name = .ok () :=
    fun r hr => Rules.lookupName_of_deviceName (h.listed r hr).name
  refine ⟨_, said_success _ ?_, ?_⟩
  · rw [htext]
    simp only [List.mem_flatMap, List.mem_map, not_exists, not_and, forall_exists_index, and_imp,
      forall_apply_eq_imp_iff₂, List.mem_append, not_or, List.mem_singleton]
    exact fun r hr => ⟨Rules.notMem_of_lookupName (hname r hr) rfl (by decide), by decide⟩
  · have hlines : ∀ line ∈ rs.map (·.name.toList), '\n' ∉ line := by
      simp only [List.mem_map, forall_exists_index, and_imp, forall_apply_eq_imp_iff₂]
      exact fun r hr => Rules.notMem_of_lookupName (hname r hr) rfl (by decide)
    rw [Envelope.names, htext, Pieces.split_ended hlines]
    simp

/-- Names that are mounted are looked up one after the other. -/
theorem mapM_getSized_ensures (h : Represents t rs) {ms : List Record} (hms : ∀ m ∈ ms, m ∈ rs) :
    ((ms.map (·.name)).mapM Client.getSized).Ensures Step t (fun _ xs t' => t' = t ∧ xs = ms)
      fun _ _ _ => False := by
  induction ms with
  | nil => exact ⟨rfl, rfl⟩
  | cons m ms ih =>
    have hm := hms m List.mem_cons_self
    have hname := Rules.lookupName_of_deviceName (h.listed m hm).name
    rw [List.map_cons, List.mapM_cons]
    refine Action.ensures_bind.mpr ((h.getSized_ensures hname).mono ?_ ?_)
    · rintro _ r t ⟨rfl, hr, hrname⟩
      obtain rfl := h.eq_of_name hm hr hrname
      refine Action.ensures_bind.mpr ((ih fun m hm => hms m (List.mem_cons_of_mem _ hm)).mono ?_
        fun _ _ _ h => h)
      rintro _ xs t ⟨rfl, rfl⟩
      exact ⟨rfl, rfl⟩
    · rintro _ e t ⟨-, hnone, -⟩
      exact hnone m hm rfl

theorem list_ensures (h : Represents t rs) :
    Client.list.Ensures Step t (fun _ xs t' => t' = t ∧ xs = rs) fun _ _ _ => False := by
  obtain ⟨payload, hsaid, hnames⟩ := h.said_list
  have hbuffer := Buffer.ofText_eq_ok.mpr
    ⟨(by decide : (Utf8.encode Envelope.listRequest.toList).length ≤ Buffer.capacity), rfl⟩
  unfold Client.list
  rw [Channel.exchange_eq hbuffer]
  refine ensures_withChannel (Action.ensures_bind.mpr (ensures_exchangeBuffer_ok hsaid ?_))
  rw [hnames]
  exact h.mapM_getSized_ensures fun m hm => hm

/-! ## Unmounting -/

theorem exchange_unmount_ensures (h : Represents t rs) (hname : Rules.lookupName name = .ok ()) :
    (Channel.exchange .unmount (Envelope.nameRequest name)).Ensures Step t
      (fun _ _ t' => Represents t' (rs.filter (·.name ≠ name))) fun _ _ t' => t' = t := by
  obtain ⟨buffer, hbuffer, htext⟩ := Channel.nameRequest_text hname
  have hanswer : t.answer .unmount buffer.text = t.unmount name := by rw [answer, htext]
  rw [Channel.exchange_eq hbuffer]
  cases hfind : t.find? name with
  | some m =>
    have hunmount : t.unmount name
        = ("OK\n", { t with records := DeviceTable.remove name t.records }) := by rw [unmount, hfind]
    have hsaid : said (t.answer .unmount buffer.text).1 = .ok "" := by
      rw [hanswer, hunmount]
      exact said_removed
    refine ensures_exchangeBuffer_ok hsaid ?_
    rw [hanswer, hunmount]
    exact h.remove name
  | none =>
    obtain ⟨detail, hsaid⟩ : ∃ detail, said (t.answer .unmount buffer.text).1 = .error (.device detail) := by
      rw [hanswer, unmount, hfind]
      exact said_refusal (by decide) _ _
    refine ensures_exchangeBuffer_error hsaid ?_
    rw [hanswer, unmount, hfind]

theorem removeDevice_ensures (h : Represents t rs) (hname : Rules.lookupName name = .ok ())
    {fetch : Bool} : (Client.removeDevice name fetch).Ensures Step t
      (fun _ _ t' => Represents t' (rs.filter (·.name ≠ name))) fun _ _ t' => t' = t := by
  unfold Client.removeDevice
  have hremove : ∀ q : Option Record, Action.Ensures Step (do
      let _ ← Channel.exchange .unmount (Envelope.nameRequest name)
      return q) t (fun _ _ t' => Represents t' (rs.filter (·.name ≠ name))) fun _ _ t' => t' = t :=
    fun _ => Action.ensures_bind.mpr (h.exchange_unmount_ensures hname)
  cases fetch with
  | false => exact hremove none
  | true =>
    refine Action.ensures_bind.mpr (Action.ensures_map.mpr ((h.getRecord_ensures hname).mono ?_
      fun _ _ _ h => h.1))
    rintro _ q t ⟨rfl, -⟩
    exact hremove (some q)

/-- After the device is gone nothing can fail any more. -/
theorem unmount_ensures (h : Represents t rs) {breakLease : Bool} :
    (Client.unmount name breakLease).Ensures Step t
      (fun _ _ t' => Represents t' (rs.filter (·.name ≠ name))) fun _ _ t' => t' = t := by
  unfold Client.unmount
  refine Action.ensures_bind.mpr (Action.ensures_ofExcept.mpr ⟨fun _ hname => ?_, fun _ _ => rfl⟩)
  refine Action.ensures_bind.mpr ((ensures_withChannel (h.removeDevice_ensures hname)).mono ?_
    fun _ _ _ h => h)
  rintro _ q t' h'
  cases q with
  | none => exact h'
  | some r =>
    have hbreak : (Client.breakRecordLease r).Only fun e => e.isRequest = false :=
      Client.breakRecordLease_only (fun _ => rfl) fun _ _ => rfl
    refine Action.ensures_bind.mpr (Action.ensures_always.mpr ((ensures_of_quiet hbreak).mono ?_))
    rintro _ _ _ rfl
    exact h'

/-! ## Operations -/

/-- Every operation keeps the table and the ledger in step, and one that fails leaves the table as it
was. -/
theorem operation (h : Represents t rs) {c : Client} {o : Operation} :
    (o.action c).Ensures Step t (fun _ x t' => Represents t' (Entry.settle rs ⟨o, .ok x⟩))
      fun _ _ t' => t' = t := by
  cases o with
  | mount q =>
    refine Client.mount_adds.mono ?_ fun _ _ _ h => h
    rintro _ m _ ⟨hm, hfree, rfl⟩
    exact h.add hm hfree
  | mountRecord r o =>
    refine Client.mountRecord_adds.mono ?_ fun _ _ _ h => h
    rintro _ m _ ⟨hm, hfree, rfl⟩
    exact h.add hm hfree
  | unmount name breakLease => exact h.unmount_ensures
  | get name =>
    refine h.get_ensures.mono ?_ fun _ _ _ h => h.1
    rintro _ _ _ ⟨rfl, -⟩
    exact h
  | list =>
    refine h.list_ensures.mono ?_ fun _ _ _ h => h.elim
    rintro _ _ _ ⟨rfl, -⟩
    exact h
  | create q =>
    refine (ensures_of_only (Client.create_only rfl (fun _ => rfl) rfl fun _ _ => rfl)).mono ?_
      fun _ _ _ h => h
    rintro _ _ _ rfl
    exact h
  | delete container name leaseId forceBreak =>
    refine (ensures_of_only (Client.delete_only (fun _ => rfl) fun _ _ => rfl)).mono ?_
      fun _ _ _ h => h
    rintro _ _ _ rfl
    exact h

end Represents

/-- After every session the table and the ledger are in step. -/
theorem represents_ledger {t₀ : DeviceTable} (h₀ : t₀.records = []) {entries : List Entry}
    {allowed : DeviceTable → Operation → Prop} (h : Session Step allowed t₀ entries t) :
    Represents t (ledger entries) := by
  induction h with
  | start => exact represents_nil h₀
  | @step entries t t' c o scenes v _ _ hr ih =>
    rw [ledger_append]
    have hensures := Program.ensures_iff.mp (ih.operation (c := c) (o := o)) _ _ _ hr
    cases v with
    | ok x => exact hensures
    | error e =>
      dsimp only at hensures
      rw [hensures, Entry.settle_error]
      exact ih

/-- After every session a list is the ledger, in order and in all fields; a name in the ledger is looked
up to its record, and any other name that can be looked up is refused; and an operation that fails
leaves the table as it was. -/
theorem shows_ledger {entries : List Entry} (h : Session Step (fun _ _ => True) {} entries t) :
    (∀ scenes v t', Client.list.run.RunsIn Step t scenes v t' → v = .ok (ledger entries)) ∧
    (∀ r ∈ ledger entries, ∀ scenes v t', (Client.get r.name).run.RunsIn Step t scenes v t' →
      v = .ok r) ∧
    (∀ name, Rules.lookupName name = .ok () → (∀ r ∈ ledger entries, r.name ≠ name) →
      ∀ scenes v t', (Client.get name).run.RunsIn Step t scenes v t' → ∃ detail, v = .error (.device detail)) ∧
    ∀ c o scenes e t', (Operation.action c o).run.RunsIn Step t scenes (.error e) t' → t' = t := by
  have hrep := represents_ledger rfl h
  refine ⟨fun scenes v t' hr => ?_, fun r hr scenes v t' hrun => ?_,
    fun name hname hnone scenes v t' hr => ?_, fun c o scenes e t' hr => ?_⟩
  · have hlist := Program.ensures_iff.mp hrep.list_ensures _ _ _ hr
    cases v with
    | ok xs => rw [hlist.2]
    | error e => exact hlist.elim
  · have hget := Program.ensures_iff.mp hrep.get_ensures _ _ _ hrun
    cases v with
    | ok x => rw [hrep.eq_of_name hr hget.2.1 hget.2.2]
    | error e =>
      have hname := Rules.lookupName_of_deviceName (hrep.listed r hr).name
      exact absurd rfl ((hget.2 hname).1 r hr)
  · have hget := Program.ensures_iff.mp hrep.get_ensures _ _ _ hr
    cases v with
    | ok x => exact absurd hget.2.2 (hnone x hget.2.1)
    | error e =>
      obtain ⟨detail, rfl⟩ := (hget.2 hname).2
      exact ⟨detail, rfl⟩
  · exact Program.ensures_iff.mp hrep.operation _ _ _ hr

/-- A disk is mounted, listed and looked up; another name is not found, and cannot be unmounted. -/
theorem shows_ledger_mounted : ∃ t,
    Session Step (fun _ _ => True) {} [⟨Sample.leased, .ok Sample.mounted⟩] t ∧
    (∃ scenes t', Client.list.run.RunsIn Step t scenes (.ok [Sample.mounted]) t') ∧
    (∃ scenes t', (Client.get "disk").run.RunsIn Step t scenes (.ok Sample.mounted) t') ∧
    (∃ scenes detail t', (Client.get "other").run.RunsIn Step t scenes (.error (.device detail)) t') ∧
    ∃ scenes e, (Client.unmount "other" true).run.RunsIn Step t scenes (.error e) t := by
  obtain ⟨scenes, s, hmount⟩ := Sample.runs_leased
  have hmount := Site.runs_table hmount
  obtain ⟨-, -, htable⟩ := Program.ensures_iff.mp Client.mountRecord_adds _ _ _ hmount
  rw [htable] at hmount
  have hsession : Session Step (fun _ _ => True) {} [⟨Sample.leased, .ok Sample.mounted⟩]
      (add {} Sample.mounted) := .step .start trivial hmount
  obtain ⟨hlist, hget, hother, hfail⟩ := shows_ledger hsession
  let busy : Site := ⟨fun _ => Sample.store 1, add {} Sample.mounted⟩
  have hlists := Site.runs_table (Sample.visit_runs (s := busy) (c := Sample.client) (o := .list)
    (by decide +kernel))
  have hgets := Site.runs_table (Sample.visit_runs (s := busy) (c := Sample.client) (o := .get "disk")
    (by decide +kernel))
  have hothers := Site.runs_table (Sample.visit_runs (s := busy) (c := Sample.client) (o := .get "other")
    (by decide +kernel))
  have hfails := Site.runs_table (Sample.visit_runs (s := busy) (c := Sample.client)
    (o := .unmount "other" true) (by decide +kernel))
  rw [hlist _ _ _ hlists] at hlists
  rw [hget Sample.mounted (by decide) _ _ _ hgets] at hgets
  obtain ⟨detail, hdetail⟩ := hother "other" (by decide) (by decide) _ _ _ hothers
  rw [hdetail] at hothers
  obtain ⟨e, he⟩ := Sample.exists_of_not_isOk
    (v := (Sample.visit busy Sample.client (.unmount "other" true)).2.1) (by decide +kernel)
  rw [he] at hfails
  rw [hfail Sample.client (.unmount "other" true) _ _ _ hfails] at hfails
  exact ⟨_, hsession, ⟨_, _, hlists⟩, ⟨_, _, hgets⟩, ⟨_, detail, _, hothers⟩, _, e, hfails⟩

end DeviceTable

end BlobDisk
