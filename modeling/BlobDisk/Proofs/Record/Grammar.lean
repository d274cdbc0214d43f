import Mathlib.Data.List.Forall2
import BlobDisk.Record.Wire
import BlobDisk.Proofs.Text.Decimal
import BlobDisk.Proofs.Text.Pieces

/-!
# The texts of records

* `Record.Lined`: a text and its lines; `Record.lines_eq_iff`: the lines that are read are those;
* `Field.Says`: a line and what it says of a record; `Field.set?_eq_some`: a line sets its field to what
  it says;
* `Layout.fill_eq_ok`: the record that lines are read as, when each line says something of its field;
* `Record.Written`: the lines that make up a record, in either layout;
* `Record.ofText_grammar`: the records that are read are those in whose lines the text is written, and
  any other text is refused.
-/

namespace BlobDisk

/-! ## Lines -/

namespace Record

/-- A text and its lines. Each line is ended by a line feed; behind them a last one may stand that is
not ended and not empty. -/
inductive Lined : List Char → List (List Char) → Prop
  | ended {lines : List (List Char)} (hlines : ∀ line ∈ lines, '\n' ∉ line) :
      Lined (lines.flatMap (· ++ ['\n'])) lines
  | unended {lines : List (List Char)} {last : List Char} (hlines : ∀ line ∈ lines, '\n' ∉ line)
      (hlast : '\n' ∉ last) (hne : last ≠ []) :
      Lined (lines.flatMap (· ++ ['\n']) ++ last) (lines ++ [last])

theorem lined_lines (text : String) : Lined text.toList (lines text) := by
  obtain ⟨front, last, hsplit⟩ : ∃ front last, Pieces.split '\n' text.toList = front ++ [last] :=
    ⟨_, _, (List.dropLast_concat_getLast (Pieces.split_ne_nil _ _)).symm⟩
  have hunbroken : ∀ line ∈ front ++ [last], '\n' ∉ line := fun line h =>
    Pieces.notMem_of_mem_split (hsplit ▸ h)
  have hfront : ∀ line ∈ front, '\n' ∉ line := fun line h => hunbroken line (List.mem_append_left _ h)
  have htext : text.toList = front.flatMap (· ++ ['\n']) ++ last := by
    have h := Pieces.flatMap_split '\n' text.toList
    rw [hsplit, List.flatMap_append, List.flatMap_singleton, ← List.append_assoc] at h
    exact (List.append_cancel_right h).symm
  unfold lines
  dsimp only
  rw [hsplit, List.getLast?_concat, List.dropLast_concat, htext]
  by_cases hempty : last = []
  · rw [hempty, if_pos rfl, List.append_nil]
    exact .ended hfront
  · rw [if_neg fun h => hempty (Option.some.inj h)]
    exact .unended hfront (hunbroken last (by simp)) hempty

/-- A text has one list of lines, the one that is read. -/
theorem lines_eq_iff {text : String} {ls : List (List Char)} :
    lines text = ls ↔ Lined text.toList ls := by
  constructor
  · rintro rfl
    exact lined_lines text
  · generalize htext : text.toList = chars
    intro h
    unfold lines
    dsimp only
    rw [htext]
    cases h with
    | ended hlines => rw [Pieces.split_ended hlines, List.getLast?_concat, if_pos rfl, List.dropLast_concat]
    | unended hlines hlast hne =>
      rw [Pieces.split_ended_append hlines, Pieces.split_of_notMem hlast, List.getLast?_concat,
        if_neg fun h => hne (Option.some.inj h)]

end Record

/-! ## A line and its field -/

/-- The line for the mode. -/
def AccessMode.line : AccessMode → List Char
  | readOnly => ['R']
  | readWrite => ['R', 'W']

theorem AccessMode.ofWord?_eq_some {text : List Char} {mode : AccessMode} :
    ofWord? (String.ofList text) = some mode ↔ text = mode.line := by
  have hread : String.ofList text = "R" ↔ text = readOnly.line := @String.ofList_inj text ['R']
  have hwrite : String.ofList text = "RW" ↔ text = readWrite.line := @String.ofList_inj text ['R', 'W']
  simp only [ofWord?, hread, hwrite]
  cases mode with
  | readOnly => by_cases h : text = readOnly.line <;> simp [h]
  | readWrite =>
    by_cases h : text = readOnly.line
    · simp [h, line]
    · simp [h]

namespace Field

variable {f g : Field} {r r' source : Record} {text : List Char}

/-- The record with the field taken from another record. -/
def copy (f : Field) (source r : Record) : Record :=
  match f with
  | mode => { r with mode := source.mode }
  | name => { r with name := source.name }
  | sectorCount => { r with sectorCount := source.sectorCount }
  | accountName => { r with accountName := source.accountName }
  | accountKey => { r with accountKey := source.accountKey }
  | path => { r with path := source.path }
  | host => { r with host := source.host }
  | ip => { r with ip := source.ip }
  | leaseId => { r with leaseId := source.leaseId }
  | major => { r with major := source.major }
  | minor => { r with minor := source.minor }
  | vhd => { r with vhd := source.vhd }

/-- The line says what the field is in the record. -/
def Says (f : Field) (r : Record) (text : List Char) : Prop :=
  match f with
  | mode => text = r.mode.line
  | name => text = r.name.toList
  | sectorCount => Decimal.Unsigned text r.sectorCount.toNat
  | accountName => text = r.accountName.toList
  | accountKey => text = r.accountKey.toList
  | path => text = r.path.toList
  | host => text = r.host.toList
  | ip => text = r.ip.toList
  | leaseId => text = r.leaseId.toList
  | major => Decimal.Signed text r.major.toInt
  | minor => Decimal.Signed text r.minor.toInt
  | vhd => text = [if r.vhd then '1' else '0']

/-- What is written in a field says what the field is. -/
theorem says_value (f : Field) (r : Record) : f.Says r (f.value r).toList := by
  cases f with
  | mode => cases hmode : r.mode <;> simp [Says, value, hmode, AccessMode.word, AccessMode.line]
  | sectorCount => exact Decimal.unsigned_toString _
  | major | minor => exact Decimal.signed_toString _
  | vhd => cases hvhd : r.vhd <;> simp [Says, value, hvhd]
  | _ => rfl

/-- A line says nothing of other fields. -/
theorem says_copy (h : f ≠ g) : f.Says (g.copy source r) text ↔ f.Says r text := by
  cases f <;> cases g <;> first | exact Iff.rfl | exact absurd rfl h

/-- A line that says what a field is sets the field. -/
theorem set?_of_said (h : f.Says source text) : f.set? r text = some (f.copy source r) := by
  cases f with
  | mode => rw [set?, AccessMode.ofWord?_eq_some.mpr h]; rfl
  | sectorCount => rw [set?, Decimal.word?_eq_some.mpr h]; rfl
  | major | minor => rw [set?, Decimal.signedWord?_eq_some.mpr h]; rfl
  | vhd => cases hvhd : source.vhd <;> simp_all [Says, set?, copy]
  | _ => rw [set?, h, String.ofList_toList]; rfl

/-- A line sets the field to what it says. -/
theorem says_of_set? (h : f.set? r text = some r') : f.Says r' text := by
  cases f with
  | mode =>
    obtain ⟨mode, hmode, rfl⟩ := Option.map_eq_some_iff.mp h
    exact AccessMode.ofWord?_eq_some.mp hmode
  | sectorCount =>
    obtain ⟨n, hn, rfl⟩ := Option.map_eq_some_iff.mp h
    exact Decimal.word?_eq_some.mp hn
  | major | minor =>
    obtain ⟨n, hn, rfl⟩ := Option.map_eq_some_iff.mp h
    exact Decimal.signedWord?_eq_some.mp hn
  | vhd =>
    unfold set? at h
    dsimp only at h
    split at h
    · obtain rfl := Option.some.inj h
      assumption
    · split at h
      · obtain rfl := Option.some.inj h
        assumption
      · cases h
  | _ =>
    obtain rfl := Option.some.inj h
    exact String.toList_ofList.symm

theorem set?_eq_some : f.set? r text = some r' ↔ f.Says r' text ∧ r' = f.copy r' r := by
  constructor
  · intro h
    have hsaid := says_of_set? h
    exact ⟨hsaid, Option.some.inj (h.symm.trans (set?_of_said hsaid))⟩
  · rintro ⟨hsaid, hcopy⟩
    rw [set?_of_said hsaid, ← hcopy]

end Field

namespace Layout

variable {fields : List Field} {lines : List (List Char)} {r r' : Record}

/-- The lines, one a field, say what the fields are in the record. -/
def Say (fields : List Field) (r : Record) (lines : List (List Char)) : Prop :=
  List.Forall₂ (fun f line => Field.Says f r line) fields lines

theorem fill_cons_eq_ok {f : Field} {line : List Char} :
    fill (f :: fields) (line :: lines) r = .ok r' ↔
      ∃ r₁, f.set? r line = some r₁ ∧ fill fields lines r₁ = .ok r' := by
  rw [fill]
  cases f.set? r line with
  | none => simp
  | some r₁ => simp

/-- Lines that say what the fields of a record are set the fields. -/
theorem fill_of_say {source : Record} (h : Say fields source lines) (r : Record) :
    fill fields lines r = .ok (fields.foldl (fun acc f => f.copy source acc) r) := by
  induction h generalizing r with
  | nil => rfl
  | cons hline hlines ih => exact fill_cons_eq_ok.mpr ⟨_, Field.set?_of_said hline, ih _⟩

/-- What one line has said stays said, since no later line is about its field. -/
theorem says_of_fill {f : Field} {text : List Char} (hf : f ∉ fields) (h : fill fields lines r = .ok r')
    (hsaid : f.Says r text) : f.Says r' text := by
  -- By induction on the fields left: a line about another field does not change what is said of this one.
  induction fields generalizing lines r with
  | nil => rwa [← Except.ok.inj h]
  | cons g fields ih =>
    obtain ⟨hne, hf⟩ := List.ne_and_not_mem_of_not_mem_cons hf
    cases lines with
    | nil => rwa [← Except.ok.inj h]
    | cons line lines =>
      obtain ⟨r₁, hset, hfill⟩ := fill_cons_eq_ok.mp h
      refine ih hf hfill ?_
      rw [(Field.set?_eq_some.mp hset).2]
      exact (Field.says_copy hne).mpr hsaid

theorem say_of_fill (hnodup : fields.Nodup) (hlength : lines.length = fields.length)
    (h : fill fields lines r = .ok r') : Say fields r' lines := by
  induction fields generalizing lines r with
  | nil => rw [List.length_eq_zero_iff.mp hlength]; exact .nil
  | cons f fields ih =>
    cases lines with
    | nil => cases hlength
    | cons line lines =>
      obtain ⟨r₁, hset, hfill⟩ := fill_cons_eq_ok.mp h
      obtain ⟨hf, hnodup⟩ := List.nodup_cons.mp hnodup
      -- The first line has its say about the record that it makes, and is not contradicted later.
      exact .cons (says_of_fill hf hfill (Field.set?_eq_some.mp hset).1)
        (ih hnodup (Nat.succ.inj hlength) hfill)

/-- Lines are read as the record of which they say what its fields are; fields that no line is about stay
as they were. -/
theorem fill_eq_ok (hnodup : fields.Nodup) (hlength : lines.length = fields.length) :
    fill fields lines r = .ok r' ↔
      Say fields r' lines ∧ r' = fields.foldl (fun acc f => f.copy r' acc) r := by
  constructor
  · intro h
    have hsay := say_of_fill hnodup hlength h
    exact ⟨hsay, Except.ok.inj (h.symm.trans (fill_of_say hsay r))⟩
  · rintro ⟨hsay, hcopy⟩
    rw [fill_of_say hsay, ← hcopy]

theorem fill_error_decode {e : Error} (h : fill fields lines r = .error e) :
    ∃ detail, e = .decode detail := by
  induction fields generalizing lines r with
  | nil => cases h
  | cons f fields ih =>
    cases lines with
    | nil => cases h
    | cons line lines =>
      rw [fill] at h
      split at h
      · exact ih h
      · exact ⟨_, (Except.error.inj h).symm⟩

theorem ofLineCount?_eq_some {count : Nat} {layout : Layout} :
    ofLineCount? count = some layout ↔
      layout = response ∧ count = response.fields.length ∨
        layout = request ∧ count = request.fields.length := by
  unfold ofLineCount?
  have hne : response.fields.length ≠ request.fields.length := by decide
  split
  · rename_i h
    simp [h, hne, eq_comm]
  · split
    · rename_i h
      simp [h, hne.symm, eq_comm]
    · rename_i hresponse hrequest
      simp [hresponse, hrequest]

end Layout

/-! ## Records -/

namespace Record

variable {r : Record} {text : String} {ls : List (List Char)}

/-- The lines that both layouts start with; the third is for the sectors. -/
def frontLines (r : Record) (sectors : List Char) : List (List Char) :=
  [r.mode.line, r.name.toList, sectors, r.accountName.toList, r.accountKey.toList, r.path.toList,
    r.host.toList, r.ip.toList, r.leaseId.toList]

/-- The line that both layouts end with. -/
def flagLine (r : Record) : List Char := [if r.vhd then '1' else '0']

/-- The lines in which a record is written. A request has ten, none of them for the device's numbers; an
answer has twelve, with these before the last. Neither has one for a size in gigabytes. -/
inductive Written (r : Record) : List (List Char) → Prop
  | request {sectors : List Char} (hsectors : Decimal.Unsigned sectors r.sectorCount.toNat)
      (hmajor : r.major = 0) (hminor : r.minor = 0) (hsize : r.sizeGb = 0) :
      Written r (r.frontLines sectors ++ [r.flagLine])
  | response {sectors major minor : List Char}
      (hsectors : Decimal.Unsigned sectors r.sectorCount.toNat)
      (hmajor : Decimal.Signed major r.major.toInt) (hminor : Decimal.Signed minor r.minor.toInt)
      (hsize : r.sizeGb = 0) :
      Written r (r.frontLines sectors ++ [major, minor, r.flagLine])

/-- A request leaves three fields as they are in a fresh record. -/
theorem copied_request :
    r = Layout.request.fields.foldl (fun acc f => f.copy r acc) { mode := .readOnly } ↔
      r.major = 0 ∧ r.minor = 0 ∧ r.sizeGb = 0 := by
  cases r
  simp [Layout.request, Field.copy]

/-- An answer leaves one. -/
theorem copied_response :
    r = Layout.response.fields.foldl (fun acc f => f.copy r acc) { mode := .readOnly } ↔
      r.sizeGb = 0 := by
  cases r
  simp [Layout.response, Field.copy]

theorem say_request :
    Layout.Say Layout.request.fields r ls ↔
      ∃ sectors, Decimal.Unsigned sectors r.sectorCount.toNat ∧
        ls = r.frontLines sectors ++ [r.flagLine] := by
  simp [Layout.Say, Layout.request, List.forall₂_cons_left_iff, Field.Says, frontLines, flagLine]

theorem say_response :
    Layout.Say Layout.response.fields r ls ↔
      ∃ sectors major minor, (Decimal.Unsigned sectors r.sectorCount.toNat ∧
        Decimal.Signed major r.major.toInt ∧ Decimal.Signed minor r.minor.toInt) ∧
        ls = r.frontLines sectors ++ [major, minor, r.flagLine] := by
  simp [Layout.Say, Layout.response, List.forall₂_cons_left_iff, Field.Says, frontLines, flagLine,
    -exists_and_left]

/-- A record is written in the lines that say what the fields of a layout are, if the fields that the
layout lacks are zero. -/
theorem written_iff {layout : Layout} (h : Layout.ofLineCount? ls.length = some layout) :
    Written r ls ↔ Layout.Say layout.fields r ls ∧
      r = layout.fields.foldl (fun acc f => f.copy r acc) { mode := .readOnly } := by
  rcases Layout.ofLineCount?_eq_some.mp h with ⟨rfl, hcount⟩ | ⟨rfl, hcount⟩
  · rw [say_response, copied_response]
    constructor
    · intro hwritten
      cases hwritten with
      | request => cases hcount
      | response hsectors hmajor hminor hsize =>
        exact ⟨⟨_, _, _, ⟨hsectors, hmajor, hminor⟩, rfl⟩, hsize⟩
    · rintro ⟨⟨sectors, major, minor, ⟨hsectors, hmajor, hminor⟩, rfl⟩, hsize⟩
      exact .response hsectors hmajor hminor hsize
  · rw [say_request, copied_request]
    constructor
    · intro hwritten
      cases hwritten with
      | request hsectors hmajor hminor hsize => exact ⟨⟨_, hsectors, rfl⟩, hmajor, hminor, hsize⟩
      | response => cases hcount
    · rintro ⟨⟨sectors, hsectors, rfl⟩, hmajor, hminor, hsize⟩
      exact .request hsectors hmajor hminor hsize

theorem Written.layout (h : Written r ls) : ∃ layout, Layout.ofLineCount? ls.length = some layout := by
  cases h with
  | request => exact ⟨Layout.request, rfl⟩
  | response => exact ⟨Layout.response, rfl⟩

theorem ofText_eq_ok : ofText text = .ok r ↔ Written r (lines text) := by
  unfold ofText
  dsimp only
  cases hlayout : Layout.ofLineCount? (lines text).length with
  | none =>
    refine ⟨nofun, fun h => ?_⟩
    obtain ⟨layout, h⟩ := h.layout
    rw [hlayout] at h
    cases h
  | some layout =>
    rw [written_iff hlayout]
    rcases Layout.ofLineCount?_eq_some.mp hlayout with ⟨rfl, hcount⟩ | ⟨rfl, hcount⟩
    · exact Layout.fill_eq_ok (by decide) hcount
    · exact Layout.fill_eq_ok (by decide) hcount

theorem ofText_error_decode {e : Error} (h : ofText text = .error e) : ∃ detail, e = .decode detail := by
  unfold ofText at h
  dsimp only at h
  split at h
  · exact Layout.fill_error_decode h
  · exact ⟨_, (Except.error.inj h).symm⟩

/-- A text is read as a record just if it is written in lines of the record; any other text is refused
as one that cannot be decoded. -/
theorem ofText_grammar (text : String) :
    (∀ r, ofText text = .ok r ↔ ∃ lines, Lined text.toList lines ∧ Written r lines) ∧
      ((∃ detail, ofText text = .error (.decode detail)) ↔
        ∀ r lines, Lined text.toList lines → ¬ Written r lines) := by
  have hread (r : Record) : ofText text = .ok r ↔ ∃ lines, Lined text.toList lines ∧ Written r lines := by
    simp only [ofText_eq_ok, ← lines_eq_iff, exists_eq_left']
  refine ⟨hread, ?_⟩
  constructor
  · rintro ⟨detail, herror⟩ r lines hlined hwritten
    rw [(hread r).mpr ⟨lines, hlined, hwritten⟩] at herror
    cases herror
  · intro hnone
    cases hresult : ofText text with
    | ok r =>
      obtain ⟨lines, hlined, hwritten⟩ := (hread r).mp hresult
      exact (hnone r lines hlined hwritten).elim
    | error e =>
      obtain ⟨detail, rfl⟩ := ofText_error_decode hresult
      exact ⟨detail, rfl⟩

end Record

end BlobDisk
