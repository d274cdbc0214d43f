import BlobDisk.CommandLine.Session
import BlobDisk.Testbed.World

/-!
# A machine to run the program on

The machine has files, an environment and an input, no device manager, and no connection to any blob
service.

* `Machine.run`: a run of the program on it.
-/

namespace BlobDisk.Testbed

/-- A machine. -/
structure Machine where
  environment : Environment
  files : Files
  input : List UInt8

namespace Machine

/-- The world behind the effects of a program that runs with settings. -/
def world (m : Machine) (s : Settings) : World :=
  { deviceFile := some (s.devicePath, m.files), remote := some s.domain }

/-- The machine as a host. The state is what is left of the input. -/
def host (m : Machine) : CommandLine.Host (StateM (List UInt8)) where
  environment := m.environment
  read path := m.files.read path
  isPresent path := return (m.files.openPath path).isOk
  input := Files.takeInput
  perform s p := return ((m.world s).run p).1

/-- A run of the program with arguments. -/
def run (m : Machine) (args : List String) : CommandLine.Exit :=
  ((CommandLine.Session.run m.host args).run m.input).1

end Machine

end BlobDisk.Testbed
