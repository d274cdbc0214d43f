import BlobDisk.Channel.Exchange
import BlobDisk.Proofs.Conduct

/-!
# The conduct of requests

* `Channel.obeys_exchangeBuffer`: one request;
* `Channel.obeys_withChannel`: an operation with the control channel open, which is closed whether the
  operation succeeds or fails.
-/

namespace BlobDisk.Channel

variable {α σ : Type} {M : Monitor σ} {s : σ} {bad : Error → σ → Prop}

theorem obeys_exchangeBuffer {command : Command} {buffer : Buffer} {good : String → σ → Prop} :
    (exchangeBuffer command buffer).Obeys M s good bad ↔
      M.allows s (.submit command buffer) ∧
        (∀ detail, bad (.channel detail) (M.next s (.submit command buffer) (.error detail))) ∧
        ∀ reply : Reply,
          (∀ payload, (Envelope.ofBuffer reply.buffer reply.length).result = .ok payload →
            good payload (M.next s (.submit command buffer) (.ok reply))) ∧
          ∀ e, (Envelope.ofBuffer reply.buffer reply.length).result = .error e →
            bad e (M.next s (.submit command buffer) (.ok reply)) := by
  unfold exchangeBuffer
  rw [Action.obeys_bind, Action.obeys_always, Program.obeys_perform]
  refine and_congr_right fun _ => ⟨fun h => ⟨fun detail => h (.error detail), fun reply => ?_⟩,
    fun ⟨herror, hok⟩ answer => ?_⟩
  · exact Action.obeys_ofExcept.mp (h (.ok reply))
  · cases answer with
    | error detail => exact herror detail
    | ok reply => exact Action.obeys_ofExcept.mpr (hok reply)

/-- The control channel is closed before the result is known. -/
theorem obeys_close {result : Except Error α} {good : α → σ → Prop} :
    (do Action.always (Program.perform .closeChannel); Action.ofExcept result).Obeys M s good bad ↔
      M.allows s .closeChannel ∧ (∀ x, result = .ok x → good x (M.next s .closeChannel ())) ∧
        ∀ e, result = .error e → bad e (M.next s .closeChannel ()) := by
  refine Action.obeys_bind.trans (Action.obeys_always.trans (Program.obeys_perform.trans ?_))
  exact and_congr_right fun _ => ⟨fun h => Action.obeys_ofExcept.mp (h ()),
    fun h _ => Action.obeys_ofExcept.mpr h⟩

theorem obeys_withChannel {body : Action α} {good : α → σ → Prop} :
    (withChannel body).Obeys M s good bad ↔
      M.allows s .openChannel ∧
        (∀ x, body.Obeys M (M.next s .openChannel (.ok x))
          (fun x s => M.allows s .closeChannel ∧ good x (M.next s .closeChannel ()))
          fun e s => M.allows s .closeChannel ∧ bad e (M.next s .closeChannel ())) ∧
        ∀ e, bad e (M.next s .openChannel (.error e)) := by
  unfold withChannel
  rw [Action.obeys_bind, Action.obeys_openChannel]
  refine and_congr_right fun _ => and_congr_left fun _ => forall_congr' fun x => ?_
  rw [Action.obeys_bind, Action.obeys_always, Action.obeys_outcome]
  simp only [obeys_close, Except.ok.injEq, Except.error.injEq, reduceCtorEq, forall_eq', false_implies,
    implies_true, and_true, true_and]

end BlobDisk.Channel
