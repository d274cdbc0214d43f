import BlobDisk.Proofs.Mount.Progress
import BlobDisk.Proofs.Race

/-!
# The moves of a mount

A mount in a race keeps to its monitor, so each of its moves does one of five things to its blob.
`Mount.Stride` lists them, with what the store was like before and after, and `Mount.stride` says that
the list is complete. All that is proved of mounts side by side is proved by cases on it.
-/

namespace BlobDisk.Mount

variable {ι : Type} [DecidableEq ι] {w w' : Race ι (Except Error Record)} {m : Move ι} {i : ι}
  {r : Record} {o : LeaseOptions} {g : Progress} {b : BlobPath}

/-- What a move of a mount does to its blob and to its progress. -/
inductive Stride (r : Record) (o : LeaseOptions) (b : BlobPath) (before after : MemoryStore)
    (g : Progress) : Event → Progress → Prop
  | measure {login} {p : Properties} : before.size? b = some p.contentLength → after = before →
    Stride r o b before after g ⟨.store login (.properties b none), .ok p⟩
      { g with size := some p.contentLength }
  | prove {login id} {p : Properties} : (id ≠ "" → before.lease? b = some id) → after = before →
    Stride r o b before after g ⟨.store login (.properties b (some id)), .ok p⟩
      { g with proved := some id }
  | take {login duration} {id : String} : g.taken = none → r.leaseId = "" → o.autoLease = true →
    before.lease? b = none → after.lease? b = some id → after.size? b = before.size? b →
    Stride r o b before after g ⟨.store login (.acquireLease b duration), .ok id⟩
      { g with taken := some id }
  | release {login seconds answer} : g.taken.isSome ∨ o.breakLease = true →
    after.lease? b = before.lease? b ∨ after.lease? b = none → after.size? b = before.size? b →
    Stride r o b before after g ⟨.store login (.breakLease b seconds), answer⟩
      { g with taken := none, proved := none }
  | stay {event} : after.lease? b = before.lease? b → after.size? b = before.size? b →
    Stride r o b before after g event g

/-- A mount that keeps to its monitor makes no other moves. -/
theorem stride (h : w.Step m w') (hi : m.actor = some i) (hb : BlobPath.parse r.path = .ok b)
    (ha : Allows r o g m.event.effect) :
    Stride r o b w.store w'.store g m.event (g.next m.event.effect m.event.answer) := by
  -- The monitor names the blob by the path of the record, which is that of `b`.
  have path_eq : ∀ {k : BlobPath}, BlobPath.parse r.path = .ok k → k = b := by
    intro k hk
    rw [hb] at hk
    cases hk
    rfl
  cases h with
  | visit => cases hi
  | @other _ e _ answer _ he =>
    cases e with
    | store login call => exact (he login call rfl).elim
    | _ => exact .stay rfl rfl
  | @call _ login call next fresh _ _ =>
    cases call with
    | containerExists c => exact .stay rfl rfl
    | blobExists k => exact .stay rfl rfl
    | createContainer c => exact ha.elim
    | createPageBlob k size => exact ha.elim
    | writeRange k range data lease => exact ha.elim
    | readRange k range lease => exact ha.elim
    | deleteBlob k lease => exact ha.elim
    | properties k lease =>
      have hk : k = b := path_eq ha
      subst hk
      dsimp only
      cases hp : (w.store.perform fresh (.properties k lease)).1 with
      | error e => cases lease <;> exact .stay rfl rfl
      | ok p =>
        cases lease with
        | none => exact .measure (MemoryStore.size?_of_properties hp) rfl
        | some id => exact .prove (fun hid => MemoryStore.lease?_of_properties hid hp) rfl
    | setMetadata k metadata lease =>
      exact .stay (MemoryStore.lease?_perform_eq nofun nofun nofun nofun)
        (MemoryStore.size?_perform_eq nofun nofun)
    | acquireLease k duration =>
      obtain ⟨hk, htaken, hr, ho⟩ := ha
      have hk : k = b := path_eq hk
      subst hk
      have hsize : (w.store.perform fresh (.acquireLease k duration)).2.size? k = w.store.size? k :=
        MemoryStore.size?_perform_eq nofun nofun
      dsimp only
      cases hid : (w.store.perform fresh (.acquireLease k duration)).1 with
      | error e => exact .stay (MemoryStore.lease?_of_acquireLease_error hid) hsize
      | ok id =>
        obtain ⟨rfl, hfree, hlive⟩ := MemoryStore.perform_acquireLease_ok hid
        exact .take htaken hr ho hfree hlive hsize
    | breakLease k seconds =>
      obtain ⟨hk, ho⟩ := ha
      have hk : k = b := path_eq hk
      subst hk
      exact .release ho (MemoryStore.lease?_breakLease fresh w.store k k seconds)
        (MemoryStore.size?_perform_eq nofun nofun)

omit [DecidableEq ι] in
/-- A mount in a race keeps to its monitor. -/
theorem obeys_of_mountRecord {c : Client} (h : w.programs i = (c.mountRecord r o).run) :
    (w.programs i).Obeys (monitor r o) {} fun _ _ => True := by
  rw [h]
  exact Program.Obeys.mono (c.mountRecord_obeys r o) fun _ _ _ => trivial

end BlobDisk.Mount
