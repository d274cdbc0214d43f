import BlobDisk.Channel.Exchange
import BlobDisk.Proofs.Record.Grammar
import BlobDisk.Proofs.Text.Utf8

/-!
# Records as lines and back

A record that can be written in a layout is read as it was, but for the fields that the layout lacks.

* `Layout.toText_eq_ok`: a record is written just if all its fields fit their lines;
* `Layout.toText_numbered`: the device's numbers make no difference to a request;
* `Layout.toText_response`: what could be written as a request can be written as an answer;
* `Record.ofText_request`, `Record.ofText_response`: what is read;
* `Channel.mountRequest_text`: the text of a request to mount, as the device manager finds it.
-/

namespace BlobDisk

namespace Field

variable {f : Field} {r : Record} {text : String}

/-- The field's value fits a line and the device manager's limit. -/
structure Fits (f : Field) (r : Record) : Prop where
  unbroken : breaksLine (f.value r) = false
  within : ∀ limit, f.limit? = some limit → (f.value r).utf8ByteSize ≤ limit

theorem line_eq_ok : f.line r = .ok text ↔ f.Fits r ∧ text = f.value r := by
  unfold line
  dsimp only
  cases hb : breaksLine (f.value r) with
  | true => simpa using fun h : f.Fits r => absurd h.unbroken (by simp [hb])
  | false =>
    cases hl : f.limit? with
    | none =>
      have hfits : f.Fits r := ⟨hb, fun limit h => by rw [hl] at h; cases h⟩
      simp [hfits, eq_comm]
    | some limit =>
      have hfits : f.Fits r ↔ (f.value r).utf8ByteSize ≤ limit :=
        ⟨fun h => h.within limit hl, fun h => ⟨hb, fun limit' h' => by rw [hl] at h'; cases h'; exact h⟩⟩
      simp only [Bool.false_eq_true, if_false, hfits]
      split
      · simp only [reduceCtorEq, false_iff, not_and]
        omega
      · simp only [Except.ok.injEq, eq_comm, iff_and_self]
        omega

theorem Fits.notMem (h : f.Fits r) {c : Char} (hc : c = '\n' ∨ c = '\x00') :
    c ∉ (f.value r).toList := by
  intro hmem
  have hb := h.unbroken
  simp only [breaksLine, List.any_eq_false] at hb
  rcases hc with rfl | rfl <;> simpa using hb _ hmem

theorem breaksLine_toString_int (n : Int) : breaksLine (toString n) = false := by
  simp only [breaksLine, List.any_eq_false, Bool.or_eq_true, decide_eq_true_eq, not_or]
  intro c hc
  refine ⟨?_, ?_⟩ <;> rintro rfl <;> exact Decimal.notMem_toString_int rfl (by decide) n hc

/-- The numbers of a device always fit. -/
theorem fits_major : major.Fits r := ⟨breaksLine_toString_int _, nofun⟩

theorem fits_minor : minor.Fits r := ⟨breaksLine_toString_int _, nofun⟩

end Field

namespace Layout

variable {layout : Layout} {r : Record} {text : String}

/-- The lines of a record, whether they fit or not. -/
def render (layout : Layout) (r : Record) : String :=
  String.join (layout.fields.map fun f => f.value r ++ "\n")

theorem mapM_line_eq_ok {fields : List Field} {lines : List String} :
    fields.mapM (·.line r) = .ok lines ↔
      (∀ f ∈ fields, f.Fits r) ∧ lines = fields.map (·.value r) := by
  induction fields generalizing lines with
  | nil => rw [List.mapM_nil, pure_eq_ok]; simp [eq_comm]
  | cons f fields ih =>
    simp only [List.mapM_cons, bind_eq_ok, pure_eq_ok, Field.line_eq_ok, ih, List.mem_cons, forall_eq_or_imp,
      List.map_cons]
    constructor
    · rintro ⟨_, ⟨hf, rfl⟩, _, ⟨hfields, rfl⟩, rfl⟩
      exact ⟨⟨hf, hfields⟩, rfl⟩
    · rintro ⟨⟨hf, hfields⟩, rfl⟩
      exact ⟨_, ⟨hf, rfl⟩, _, ⟨hfields, rfl⟩, rfl⟩

theorem toText_eq_ok :
    layout.toText r = .ok text ↔ (∀ f ∈ layout.fields, f.Fits r) ∧ text = layout.render r := by
  simp only [toText, bind_eq_ok, mapM_line_eq_ok, pure_eq_ok, Layout.render]
  constructor
  · rintro ⟨_, ⟨hfits, rfl⟩, rfl⟩
    exact ⟨hfits, by rw [List.map_map]; rfl⟩
  · rintro ⟨hfits, rfl⟩
    exact ⟨_, ⟨hfits, rfl⟩, by rw [List.map_map]; rfl⟩

/-- A request does not show the device's numbers. -/
theorem value_numbered {f : Field} (hf : f ∈ request.fields) (major minor : Int64) :
    f.value { r with major, minor } = f.value r := by
  cases f with
  | major | minor => exact absurd hf (by decide)
  | _ => rfl

theorem fits_numbered {f : Field} (h : f.Fits r) (hf : f ∈ request.fields) (major minor : Int64) :
    f.Fits { r with major, minor } where
  unbroken := by rw [value_numbered hf]; exact h.unbroken
  within := by rw [value_numbered hf]; exact h.within

theorem toText_numbered (h : request.toText r = .ok text) (major minor : Int64) :
    request.toText { r with major, minor } = .ok text := by
  obtain ⟨hfits, rfl⟩ := toText_eq_ok.mp h
  refine toText_eq_ok.mpr ⟨fun f hf => fits_numbered (hfits f hf) hf major minor, ?_⟩
  unfold render
  exact congrArg String.join (List.map_congr_left fun f hf => by rw [value_numbered hf major minor])

/-- What could be written as a request can be written as an answer, whatever the device's numbers are. -/
theorem toText_response (h : request.toText r = .ok text) (major minor : Int64) :
    response.toText { r with major, minor } = .ok (response.render { r with major, minor }) := by
  obtain ⟨hfits, -⟩ := toText_eq_ok.mp h
  refine toText_eq_ok.mpr ⟨fun f hf => ?_, rfl⟩
  have hrequest : f ∈ request.fields → f.Fits { r with major, minor } :=
    fun hf => fits_numbered (hfits f hf) hf major minor
  cases f with
  | major => exact Field.fits_major
  | minor => exact Field.fits_minor
  | _ => exact hrequest (by decide)

theorem toList_render (layout : Layout) (r : Record) :
    (layout.render r).toList = (layout.fields.map fun f => (f.value r).toList).flatMap (· ++ ['\n']) := by
  simp only [render, String.toList_join, List.flatMap_map, String.toList_append]
  rfl

theorem notMem_render (h : ∀ f ∈ layout.fields, f.Fits r) : '\x00' ∉ (layout.render r).toList := by
  simp only [toList_render, List.mem_flatMap, List.mem_map, not_exists, not_and, forall_exists_index, and_imp,
    forall_apply_eq_imp_iff₂, List.mem_append, not_or, List.mem_singleton]
  exact fun f hf => ⟨(h f hf).notMem (.inr rfl), by decide⟩

/-- Each line comes back. -/
theorem lines_render (h : ∀ f ∈ layout.fields, f.Fits r) :
    Record.lines (layout.render r) = layout.fields.map fun f => (f.value r).toList := by
  have hlines : ∀ line ∈ layout.fields.map fun f => (f.value r).toList, '\n' ∉ line := by
    simp only [List.mem_map, forall_exists_index, and_imp, forall_apply_eq_imp_iff₂]
    exact fun f hf => (h f hf).notMem (.inl rfl)
  rw [Record.lines, toList_render, Pieces.split_ended hlines]
  simp

theorem say_values (fields : List Field) (r : Record) :
    Say fields r (fields.map fun f => (f.value r).toList) := by
  rw [Say, List.forall₂_map_right_iff, List.forall₂_same]
  exact fun f _ => f.says_value r

theorem ofText_render (h : ∀ f ∈ layout.fields, f.Fits r)
    (hcount : ofLineCount? layout.fields.length = some layout) :
    Record.ofText (layout.render r)
      = .ok (layout.fields.foldl (fun acc f => f.copy r acc) { mode := .readOnly }) := by
  unfold Record.ofText
  dsimp only
  rw [lines_render h, List.length_map, hcount]
  exact fill_of_say (say_values layout.fields r) _

end Layout

namespace Record

variable {r : Record} {text : String}

/-- A request has neither the numbers of a device nor a size in gigabytes. -/
theorem ofText_request (h : Layout.request.toText r = .ok text) :
    ofText text = .ok { r with major := 0, minor := 0, sizeGb := 0 } := by
  obtain ⟨hfits, rfl⟩ := Layout.toText_eq_ok.mp h
  rw [Layout.ofText_render hfits rfl]
  simp only [Layout.request, List.foldl_cons, List.foldl_nil, Field.copy]

/-- An answer has no size in gigabytes. -/
theorem ofText_response (h : Layout.response.toText r = .ok text) :
    ofText text = .ok { r with sizeGb := 0 } := by
  obtain ⟨hfits, rfl⟩ := Layout.toText_eq_ok.mp h
  rw [Layout.ofText_render hfits rfl]
  simp only [Layout.response, List.foldl_cons, List.foldl_nil, Field.copy]

end Record

/-- The device manager finds in the buffer the text that was written. -/
theorem Channel.mountRequest_text {r : Record} {b : Buffer} (h : mountRequest r = .ok b) :
    Layout.request.toText r = .ok b.text := by
  simp only [mountRequest, bind_eq_ok] at h
  obtain ⟨text, htext, hbuffer⟩ := h
  obtain ⟨hfits, rfl⟩ := Layout.toText_eq_ok.mp htext
  rw [Buffer.text_ofText hbuffer, Buffer.untilNul_of_notMem (Layout.notMem_render hfits),
    String.ofList_toList]
  exact htext

/-- The numbers of a device make no difference to the request. -/
theorem Channel.mountRequest_numbered {r : Record} {b : Buffer} (h : mountRequest r = .ok b)
    (major minor : Int64) : mountRequest { r with major, minor } = .ok b := by
  simp only [mountRequest, bind_eq_ok] at h ⊢
  obtain ⟨text, htext, hbuffer⟩ := h
  exact ⟨text, Layout.toText_numbered htext major minor, hbuffer⟩

end BlobDisk
