import BlobDisk.Lease
import BlobDisk.Record.Rules

/-!
# Validation of records

The last checks of a record before it is mounted leave the process: `Record.validate` checks the
fields, resolves the host and proves the lease, and fills in host and address on the way.
-/

namespace BlobDisk.Record

/-- The record with the address of its host. -/
def resolveHost (r : Record) : Action Record := do
  let ip := (← Action.resolve r.host).text
  if ipLimit < ip.utf8ByteSize then
    throw (Violation.ip r.host).error
  return { r with ip }

/-- Validates a record against the store of its account. The record comes back as far as it was
filled in, also when it is refused. -/
def validate (login : Credentials) (domain : String) (r : Record) :
    Program (Record × Except Error Unit) := do
  match r.checkFields domain with
  | (r, .error e) => return (r, .error e)
  | (r, .ok blob) =>
    match ← r.resolveHost.outcome with
    | .error e => return (r, .error e)
    | .ok r =>
      let proof ← (Lease.verifyWritable login blob r.leaseId r.mode).outcome
      return (r, proof.map fun _ => ())

end BlobDisk.Record
