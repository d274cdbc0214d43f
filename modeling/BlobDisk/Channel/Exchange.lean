import BlobDisk.Channel.Envelope
import BlobDisk.Program
import BlobDisk.Record.Wire

/-!
# Requests to the device manager

* `Channel.exchange`: one request and the payload of its answer;
* `Channel.withChannel`: an operation between the opening and the closing of the control channel, which
  is closed however the operation ends;
* `Channel.getRecord`: the record of a mounted disk.
-/

namespace BlobDisk.Channel

/-- Submits a request that is already laid out, and takes the payload from the answer. A refusal is
an error with the payload as its text. -/
def exchangeBuffer (command : Command) (buffer : Buffer) : Action String := do
  match ← Action.always (Program.perform (.submit command buffer)) with
  | .error detail => throw (.channel detail)
  | .ok reply => Action.ofExcept (Envelope.ofBuffer reply.buffer reply.length).result

/-- Submits the text of a request, and takes the payload from the answer. -/
def exchange (command : Command) (request : String) : Action String := do
  let buffer ← Action.ofExcept (Buffer.ofText request)
  exchangeBuffer command buffer

/-- The operation with the control channel open. -/
def withChannel {α : Type} (body : Action α) : Action α := do
  Action.openChannel
  let result ← Action.always body.outcome
  Action.always (Program.perform .closeChannel)
  Action.ofExcept result

/-- The buffer that asks to mount a record. -/
def mountRequest (r : Record) : Except Error Buffer := do
  let text ← Layout.request.toText r
  Buffer.ofText text

/-- The record that the device manager holds under a name. -/
def getRecord (name : String) : Action Record := do
  let payload ← exchange .get (Envelope.nameRequest name)
  Action.ofExcept (Record.ofText payload)

end BlobDisk.Channel
