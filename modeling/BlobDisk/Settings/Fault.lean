/-!
# Faults of settings

Settings fail for one of three causes, each with its own message.
-/

namespace BlobDisk.Settings

/-- Why there are no settings. -/
inductive Fault
  /-- The file cannot be read. -/
  | read (path reason : String)
  /-- The text is not in the form of settings. -/
  | parse (reason : String)
  /-- A value is missing or breaks a rule. -/
  | validation (reason : String)
deriving DecidableEq, Repr

/-- The text that reports the fault. -/
def Fault.message : Fault → String
  | read path reason => "Failed to read config file " ++ path ++ ": " ++ reason
  | parse reason => "Failed to parse config: " ++ reason
  | validation reason => "Configuration validation error: " ++ reason

end BlobDisk.Settings
