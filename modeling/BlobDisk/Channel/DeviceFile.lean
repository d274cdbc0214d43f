import BlobDisk.Channel.Exchange
import BlobDisk.SystemError
import BlobDisk.Text.Quoted

/-!
# The device manager behind a file

The device manager is reached through a device file. Opening it can fail; a file that is no device of
the manager can be opened, but refuses every command.
-/

namespace BlobDisk.DeviceFile

/-- The path of the device file if none is given. -/
def defaultPath : String := "/dev/dysk"

/-- The error of a device file that cannot be opened, for a reason in words. -/
def openError (path reason : String) : Error :=
  .channel ("failed to open " ++ Quoted.text path ++ ": " ++ reason)

/-- The answer of a file that is no device of the manager. -/
def notADevice : Except String Reply := .error SystemError.notADevice.message

end BlobDisk.DeviceFile
