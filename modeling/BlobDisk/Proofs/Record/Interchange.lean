import BlobDisk.Proofs.Json.RoundTrip
import BlobDisk.Record.Json

/-!
# Records written and read

* `Record.jsonInt?_toInt`, `Record.jsonWord?_toNat`: words of either kind are in range;
* `Record.setFields?_toJson`: the fields of a record, read one after the other;
* `Record.ofJsonBytes_jsonText`: a record is read as it was written, but for its sectors, its host and
  its address, which are not written;
* `Record.jsonText_lossless`: so two records are written alike just if they differ in nothing else.
-/

namespace BlobDisk.Record

open Json (Value)

theorem jsonInt?_toInt (n : Int64) : jsonInt? (.int n.toInt) = some n := by
  have hlow := n.le_toInt
  have hhigh := n.toInt_lt
  rw [jsonInt?, if_pos ⟨by omega, by omega⟩, Int64.ofInt_toInt]

theorem jsonWord?_toNat (n : UInt64) : jsonWord? (.number n.toNat) = some n := by
  have hlt := n.toNat_lt
  rw [Value.number, jsonWord?, if_pos ⟨by omega, by omega⟩, Int.toNat_natCast, UInt64.ofNat_toNat]

variable {r r' : Record} {seen : List String} {key : String} {v : Value}

theorem setFields?_cons (hnew : key ∉ seen) (h : setJson? r key v = some r')
    (rest : List (Option String × Value)) :
    setFields? r seen ((some key, v) :: rest) = setFields? r' (key :: seen) rest := by
  rw [setFields?, if_neg fun hseen => hnew hseen.2, h]

/-- A field is set to what is read of its value. -/
theorem setJson?_of_read {α : Type} {read : Value → Option α} {set : α → Record} {x : α}
    (hset : ∀ v, setJson? r key v = (read v).map set) (hread : read v = some x) :
    setJson? r key v = some (set x) := by
  rw [hset, hread, Option.map_some]

theorem setFields?_toJson {fields : List (Option String × Value)} (h : r.toJson = .object fields) :
    setFields? {} [] fields = some { r with sectorCount := 0, host := "", ip := "" } := by
  obtain rfl := Value.object.inj h
  have hmode : jsonMode? (.text r.mode.word) = some r.mode := AccessMode.ofWord?_word r.mode
  have hmajor := jsonInt?_toInt r.major
  have hminor := jsonInt?_toInt r.minor
  have hsize := jsonWord?_toNat r.sizeGb
  simp only [List.map_cons, List.map_nil]
  rw [setFields?_cons (by decide) (setJson?_of_read (fun _ => rfl) hmode), setFields?_cons (by decide) rfl,
    setFields?_cons (by decide) rfl, setFields?_cons (by decide) rfl, setFields?_cons (by decide) rfl,
    setFields?_cons (by decide) rfl, setFields?_cons (by decide) (setJson?_of_read (fun _ => rfl) hmajor),
    setFields?_cons (by decide) (setJson?_of_read (fun _ => rfl) hminor), setFields?_cons (by decide) rfl,
    setFields?_cons (by decide) (setJson?_of_read (fun _ => rfl) hsize), setFields?]

theorem ofJson?_toJson (r : Record) :
    ofJson? r.toJson = some { r with sectorCount := 0, host := "", ip := "" } := by
  have hkeys : ∀ fields, r.toJson = .object fields →
      ((jsonKeys.take 6).all fun key => fields.any fun f => f.1 = some key) = true := by
    rintro _ ⟨⟩
    rfl
  rw [toJson, Value.ofFields, ofJson?, if_pos (hkeys _ rfl)]
  exact setFields?_toJson rfl

theorem ofJsonBytes_jsonText (r : Record) : ofJsonBytes (Utf8.encode r.jsonText.toList) =
    .ok { r with sectorCount := 0, host := "", ip := "" } := by
  have hexact : r.toJson.isExact = true := rfl
  rw [ofJsonBytes, jsonText, Value.read?_pretty hexact, Option.bind_some, ofJson?_toJson]

/-- What is left out does not show in the text. -/
theorem jsonText_without (r : Record) (sectorCount : UInt64) (host ip : String) :
    jsonText { r with sectorCount, host, ip } = r.jsonText := rfl

/-- All that a text means to keep is read back, and no two records that differ in it share a text. -/
theorem jsonText_lossless (r : Record) :
    ofJsonBytes (Utf8.encode r.jsonText.toList) =
        .ok { r with sectorCount := 0, host := "", ip := "" } ∧
      ∀ other : Record, other.jsonText = r.jsonText ↔
        ({ other with sectorCount := 0, host := "", ip := "" } : Record) =
          { r with sectorCount := 0, host := "", ip := "" } := by
  refine ⟨ofJsonBytes_jsonText r, fun other => ?_⟩
  constructor
  · intro h
    have hread := ofJsonBytes_jsonText other
    rw [h, ofJsonBytes_jsonText r] at hread
    exact (Except.ok.inj hread).symm
  · intro h
    calc other.jsonText
        = jsonText { other with sectorCount := 0, host := "", ip := "" } := (jsonText_without other 0 "" "").symm
      _ = jsonText { r with sectorCount := 0, host := "", ip := "" } := congrArg jsonText h
      _ = r.jsonText := jsonText_without r 0 "" ""

end BlobDisk.Record
