/-!
# Commands of the device manager

Each command has a number, under which the control buffer is submitted, and a word for logs.
-/

namespace BlobDisk

/-- What the device manager is asked to do. -/
inductive Command
  | mount
  | unmount
  | get
  | list
deriving DecidableEq, Repr, Inhabited

namespace Command

/-- The number under which the command is submitted. -/
def code : Command → Nat
  | mount => 9901
  | unmount => 9902
  | get => 9903
  | list => 9904

/-- The command's name. -/
def word : Command → String
  | mount => "mount"
  | unmount => "unmount"
  | get => "get"
  | list => "list"

end Command

end BlobDisk
