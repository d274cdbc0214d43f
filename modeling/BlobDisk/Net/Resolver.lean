import BlobDisk.Error
import BlobDisk.Net.Address

/-!
# Hosts given as addresses

A host that is written as an address needs no look-up.
-/

namespace BlobDisk.Resolver

/-- The error of a host without an address. -/
def failed (host : String) : Error := .validation ("Failed to lookup ip for host:" ++ host)

/-- The address that a host is written as. -/
def literal (host : String) : Except Error IpAddress :=
  match IpAddress.literal? host with
  | some ip => .ok ip
  | none => .error (failed host)

end BlobDisk.Resolver
