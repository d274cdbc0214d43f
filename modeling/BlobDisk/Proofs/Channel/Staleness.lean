import BlobDisk.Proofs.Channel.Answers
import BlobDisk.Proofs.Schedule
import Mathlib.Data.List.TakeWhile

/-!
# Nothing of a request is left in its answer

The device manager writes its answer over the start of the buffer, and the rest of the request stays
behind it. Three cuts keep that rest out of the result: at the length that is reported, at the first
zero, and at the end of the first line.

* `Reply.copied`: the answer of a device manager that copies bytes over the start of the buffer;
* `Reply.bytes_copied`: the bytes of such an answer are those that were copied, up to the first zero;
* `Envelope.result_ofText`: the first line and the rest of a text, with and without an end of line;
* `Channel.trace_exchange`: a request that fits is submitted once, as it is;
* `Channel.exchange_copied`: the result of a request depends on the bytes that were copied and on nothing
  else.
-/

namespace BlobDisk

/-! ## The first line and the rest -/

namespace Pieces

variable {sep : Char}

/-- A text is cut where a search for the separator stops. -/
theorem cut?_eq (sep : Char) (text : List Char) : cut? sep text =
    if sep ∈ text then some (text.takeWhile (· ≠ sep), (text.dropWhile (· ≠ sep)).tail) else none := by
  induction text with
  | nil => rfl
  | cons c rest ih =>
    rw [cut?]
    by_cases hc : c = sep
    · subst hc
      simp
    · have hmem : sep ∈ c :: rest ↔ sep ∈ rest := by simp [Ne.symm hc]
      rw [if_neg hc, ih]
      by_cases hsep : sep ∈ rest
      · rw [if_pos hsep, if_pos (hmem.mpr hsep)]
        simp [hc]
      · rw [if_neg hsep, if_neg (fun h => hsep (hmem.mp h))]
        rfl

end Pieces

namespace Envelope

/-- The first line of a text; all of it if no line ends. -/
def firstLine (text : List Char) : List Char := text.takeWhile (· ≠ '\n')

/-- All that comes after the first end of a line. -/
def afterFirst (text : List Char) : List Char := (text.dropWhile (· ≠ '\n')).tail

/-- A text without the end of a line is one line. -/
theorem firstLine_of_notMem {text : List Char} (h : '\n' ∉ text) :
    firstLine text = text ∧ afterFirst text = [] := by
  have hall : ∀ c ∈ text, decide (c ≠ '\n') = true := fun c hc => decide_eq_true fun e => h (e ▸ hc)
  have hback : text.dropWhile (· ≠ '\n') = [] := List.dropWhile_eq_nil_iff.mpr hall
  refine ⟨List.takeWhile_eq_self_iff.mpr hall, ?_⟩
  rw [afterFirst, hback, List.tail_nil]

/-- A text is a refusal if its first line says so and nothing more. Its payload is all after that line. -/
theorem result_ofText (text : List Char) : (ofText text).result =
    if firstLine text = refusal.toList then .error (.device (String.ofList (afterFirst text)))
    else .ok (String.ofList (afterFirst text)) := by
  have hofText : ofText text =
      ⟨firstLine text = refusal.toList, String.ofList (afterFirst text)⟩ := by
    rw [ofText, Pieces.cut?_eq]
    by_cases hline : '\n' ∈ text
    · rw [if_pos hline]
      rfl
    · obtain ⟨hfirst, hafter⟩ := firstLine_of_notMem hline
      rw [if_neg hline, hfirst, hafter]
  rw [hofText, result]
  simp only [decide_eq_true_eq]

end Envelope

/-! ## Answers -/

namespace Reply

variable {front : List UInt8} {buffer : Buffer}

/-- The answer of a device manager that copies bytes over the start of the buffer, and reports how many
they are. -/
def copied (front : List UInt8) (buffer : Buffer) : Reply := ⟨buffer.overwrite front, front.length⟩

/-- Whatever was in the buffer is behind the bytes that were copied, and so are zeros among them. -/
theorem bytes_copied (hsome : 1 ≤ front.length) (hfits : front.length ≤ Buffer.capacity) :
    (copied front buffer).bytes = Buffer.beforeZero front := by
  have hlength : ¬ (front.length = 0 ∨ Buffer.capacity < front.length) := by omega
  have hcut : (buffer.overwrite front).bytes.take front.length = front := by
    show ((front ++ buffer.bytes.drop front.length).take 2048).take front.length = front
    have hmin : min front.length 2048 = front.length := Nat.min_eq_left hfits
    rw [List.take_take, hmin, List.take_left']
    rfl
  rw [bytes]
  show Buffer.beforeZero (if front.length = 0 ∨ Buffer.capacity < front.length then _ else _) = _
  rw [if_neg hlength]
  exact congrArg Buffer.beforeZero hcut

end Reply

/-! ## Requests -/

namespace Channel

variable {σ τ : Type} {handle : (e : Effect) → σ → e.Answer × σ} {handle' : (e : Effect) → τ → e.Answer × τ}
  {command : Command} {request request' : String} {response : List UInt8}

/-- A request that fits is one effect, and its answer tells the rest. -/
theorem run_exchange (h : request.utf8ByteSize ≤ Buffer.capacity) : (exchange command request).run =
    .ask (.submit command (.holding request)) fun answer => .done (payload answer) := by
  rw [exchange, Buffer.ofText_holding h]
  refine congrArg (Program.ask (.submit command (.holding request))) (funext fun answer => ?_)
  cases answer with
  | error detail => rfl
  | ok reply => rfl

/-- A request that fits is submitted once, as it is, with zeros behind it. What the handler answers tells
the rest. -/
theorem trace_exchange (h : request.utf8ByteSize ≤ Buffer.capacity) (s : σ) :
    (exchange command request).run.trace handle s =
      ([⟨.submit command (.holding request), (handle (.submit command (.holding request)) s).1⟩],
        payload (handle (.submit command (.holding request)) s).1) := by
  rw [run_exchange h]
  rfl

/-- The device manager copies the bytes over the start of the buffer, whatever it is asked. -/
def Copies (handle : (e : Effect) → σ → e.Answer × σ) (response : List UInt8) : Prop :=
  ∀ command buffer s, (handle (.submit command buffer) s).1 = .ok (.copied response buffer)

/-- What a request comes to where bytes are copied over the start of the buffer. -/
theorem payload_copied (hsome : 1 ≤ response.length) (hfits : response.length ≤ Buffer.capacity)
    (buffer : Buffer) : payload (.ok (.copied response buffer)) =
      (Envelope.ofText (Utf8.decodeLossy (Buffer.beforeZero response))).result := by
  rw [Reply.payload_eq, Reply.bytes_copied hsome hfits]

/-- Where the device manager copies bytes over the start of the buffer, all requests that fit have the same
result. If the bytes up to the first zero are a text, it is an error just if the first line of the text
says that, and holds what comes after that line. The device manager sees the request once, with zeros
behind it, and so the very text if it holds none. -/
theorem exchange_copied (command : Command) (hcopies : Copies handle response)
    (hcopies' : Copies handle' response)
    (hsome : 1 ≤ response.length) (hfits : response.length ≤ Buffer.capacity)
    (h : request.utf8ByteSize ≤ Buffer.capacity) (h' : request'.utf8ByteSize ≤ Buffer.capacity)
    (s : σ) (s' : τ) :
    ((exchange command request).run.trace handle s).2 =
        ((exchange command request').run.trace handle' s').2 ∧
      (∀ text, Buffer.beforeZero response = Utf8.encode text →
        ((exchange command request).run.trace handle s).2 =
          if Envelope.firstLine text = ['E', 'R', 'R'] then
            .error (.device (String.ofList (Envelope.afterFirst text)))
          else .ok (String.ofList (Envelope.afterFirst text))) ∧
      ∃ buffer : Buffer, ((exchange command request).run.trace handle s).1 =
          [⟨.submit command buffer, .ok (.copied response buffer)⟩] ∧
        buffer.bytes = Utf8.encode request.toList ++
          List.replicate (Buffer.capacity - request.utf8ByteSize) 0 ∧
        ('\x00' ∉ request.toList → buffer.text = request) := by
  have hresult : ((exchange command request).run.trace handle s).2 =
      (Envelope.ofText (Utf8.decodeLossy (Buffer.beforeZero response))).result := by
    rw [trace_exchange h, hcopies]
    exact payload_copied hsome hfits _
  have hresult' : ((exchange command request').run.trace handle' s').2 =
      (Envelope.ofText (Utf8.decodeLossy (Buffer.beforeZero response))).result := by
    rw [trace_exchange h', hcopies']
    exact payload_copied hsome hfits _
  refine ⟨hresult.trans hresult'.symm, fun text htext => ?_, .holding request, ?_, ?_, fun hnul => ?_⟩
  · rw [hresult, htext, Utf8.decodeLossy_encode, Envelope.result_ofText]
    rfl
  · rw [trace_exchange h, hcopies]
  · have hlength : (Utf8.encode request.toList).length ≤ Buffer.capacity := by
      rwa [Utf8.length_encode]
    rw [← Utf8.length_encode]
    exact Buffer.bytes_overwrite hlength
  · rw [Buffer.text_ofText (Buffer.ofText_holding h), Buffer.untilNul_of_notMem hnul,
      String.ofList_toList]

/-- A device manager that does so. -/
def copier (response : List UInt8) : (e : Effect) → Unit → e.Answer × Unit
  | .submit _ buffer, _ => (.ok (.copied response buffer), ())
  | e, _ => (Sample.answers "" e, ())

/-- A refusal without the end of a line stays one over a request that goes on behind it. -/
theorem exchange_copied_refusal :
    ((exchange .get "ERRoneous\n").run.trace (copier [69, 82, 82]) ()).2 = .error (.device "") ∧
      ((exchange .get "-").run.trace (copier [69, 82, 82]) ()).2 = .error (.device "") ∧
      ∃ buffer : Buffer, ((exchange .get "ERRoneous\n").run.trace (copier [69, 82, 82]) ()).1 =
        [⟨.submit .get buffer, .ok (.copied [69, 82, 82] buffer)⟩] ∧ buffer.text = "ERRoneous\n" := by
  have hcopies : Copies (copier [69, 82, 82]) [69, 82, 82] := fun _ _ _ => rfl
  have hrequest : "ERRoneous\n".utf8ByteSize ≤ Buffer.capacity := by decide
  have hother : "-".utf8ByteSize ≤ Buffer.capacity := by decide
  have hnul : '\x00' ∉ "ERRoneous\n".toList := by decide
  obtain ⟨hsame, htext, buffer, hevents, -, hseen⟩ := exchange_copied .get hcopies hcopies
    (by decide) (by decide) hrequest hother () ()
  have hrefused := htext ['E', 'R', 'R'] (by decide +kernel)
  rw [if_pos (by decide)] at hrefused
  exact ⟨hrefused, hsame ▸ hrefused, buffer, hevents, hseen hnul⟩

end Channel

end BlobDisk
