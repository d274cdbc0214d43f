import BlobDisk.Proofs.Runs
import BlobDisk.Proofs.Text.Pieces
import BlobDisk.Proofs.Text.Utf8

/-!
# What the device manager is asked, and what its answers come to

A request that fits the buffer is submitted as it is. All that an operation learns from the answer is in
the bytes that were reported, up to the first zero.

* `Buffer.holding`, `Reply.bytes`: a request and an answer as bytes;
* `Channel.record`, `Channel.sized`: the record in an answer;
* `Channel.runs_exchange`, `Channel.runs_getRecord`, `Client.runs_getSized`: one request, one event, and
  what its answer comes to;
* `Envelope.names_join`: the names in a list.
-/

namespace BlobDisk

/-! ## Bytes -/

/-- The buffer with a text at its start and zeros behind it. -/
def Buffer.holding (text : String) : Buffer := zero.overwrite (Utf8.encode text.toList)

theorem Buffer.ofText_holding {text : String} (h : text.utf8ByteSize ≤ capacity) :
    ofText text = .ok (holding text) :=
  ofText_eq_ok.mpr ⟨Utf8.length_encode text ▸ h, rfl⟩

/-- The bytes of an answer: as many as were reported, all if that number cannot be right, up to the first
zero. -/
def Reply.bytes (reply : Reply) : List UInt8 :=
  Buffer.beforeZero (if reply.length = 0 ∨ Buffer.capacity < reply.length then reply.buffer.bytes
    else reply.buffer.bytes.take reply.length)

theorem Reply.length_bytes_le (reply : Reply) : reply.bytes.length ≤ Buffer.capacity := by
  have hfront : ∀ bytes : List UInt8, (Buffer.beforeZero bytes).length ≤ bytes.length := fun bytes =>
    (List.takeWhile_prefix _).length_le
  have hbuffer := reply.buffer.length_bytes
  refine Nat.le_trans (hfront _) ?_
  split
  · exact Nat.le_of_eq hbuffer
  · rw [List.length_take, hbuffer]
    exact Nat.min_le_right _ _

/-- All that an answer says is in its bytes. -/
theorem Reply.payload_eq (reply : Reply) :
    Channel.payload (.ok reply) = (Envelope.ofText (Utf8.decodeLossy reply.bytes)).result := rfl

/-- The answer that says a text, in an empty buffer. -/
def Reply.holding (text : String) : Reply := ⟨.holding text, text.utf8ByteSize⟩

namespace Channel

variable {events : List Event} {name request : String}

/-- The request that names one device, with its answer. -/
def asked (command : Command) (name : String) (answer : Except String Reply) : Event :=
  ⟨.submit command (.holding (Envelope.nameRequest name)), answer⟩

/-- The record in an answer. -/
def record (answer : Except String Reply) : Except Error Record := do
  Record.ofText (← payload answer)

/-- The record in an answer, with the size that its sectors and its footer make up. -/
def sized (answer : Except String Reply) : Except Error Record := do
  let held ← record answer
  let gb ← Size.gbOfSectors held.sectorCount held.vhd
  return { held with sizeGb := gb }

theorem runs_exchange {command : Command} (h : request.utf8ByteSize ≤ Buffer.capacity)
    {v : Except Error String} : (exchange command request).run.Runs events v ↔
      ∃ answer : Except String Reply,
        events = [⟨.submit command (.holding request), answer⟩] ∧ v = payload answer := by
  unfold exchange
  rw [Buffer.ofText_holding h]
  exact runs_exchangeBuffer

theorem runs_getRecord (h : (Envelope.nameRequest name).utf8ByteSize ≤ Buffer.capacity)
    {v : Except Error Record} : (getRecord name).run.Runs events v ↔
      ∃ answer, events = [asked .get name answer] ∧ v = record answer := by
  refine Action.runs_bind_ofExcept.trans ?_
  simp only [runs_exchange h, ← exists_and_right, and_assoc]
  rw [exists_comm]
  simp only [exists_and_left, exists_eq_left]
  rfl

end Channel

/-- The record of one name takes one request. -/
theorem Client.runs_getSized {name : String} {events : List Event} {v : Except Error Record}
    (h : (Envelope.nameRequest name).utf8ByteSize ≤ Buffer.capacity) :
    (getSized name).run.Runs events v ↔
      ∃ answer, events = [Channel.asked .get name answer] ∧ v = Channel.sized answer := by
  refine Action.runs_bind_ofExcept.trans ?_
  simp only [Channel.runs_getRecord h, ← exists_and_right, and_assoc]
  rw [exists_comm]
  simp only [exists_and_left, exists_eq_left]
  rfl

/-! ## Lists of names -/

theorem utf8ByteSize_le_join {texts : List String} {text : String} (h : text ∈ texts) :
    text.utf8ByteSize ≤ (String.join texts).utf8ByteSize := by
  induction texts with
  | nil => cases h
  | cons first texts ih =>
    rw [String.join_cons, String.utf8ByteSize_append]
    rcases List.mem_cons.mp h with rfl | h
    · exact Nat.le_add_right _ _
    · exact Nat.le_trans (ih h) (Nat.le_add_left _ _)

/-- The names in a list are those that are ended. -/
theorem Envelope.names_join {names : List String} {rest : String} (h : ∀ name ∈ names, '\n' ∉ name.toList)
    (hrest : '\n' ∉ rest.toList) :
    Envelope.names (String.join (names.map nameRequest) ++ rest) = names := by
  have hlines : (String.join (names.map nameRequest)).toList =
      (names.map String.toList).flatMap (· ++ ['\n']) := by
    simp [String.toList_join, List.flatMap_map, nameRequest]
  have hended : ∀ line ∈ names.map String.toList, '\n' ∉ line := by
    rintro line hline
    obtain ⟨name, hname, rfl⟩ := List.mem_map.mp hline
    exact h name hname
  rw [Envelope.names, String.toList_append, hlines, Pieces.split_ended_append hended,
    Pieces.split_of_notMem hrest, List.dropLast_concat, List.map_map]
  exact (List.map_congr_left fun name _ => String.ofList_toList).trans (List.map_id names)

end BlobDisk
