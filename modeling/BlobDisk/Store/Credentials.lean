import BlobDisk.Text.Quoted

/-!
# Credentials of storage accounts

Credentials are shown without their key: `Credentials.shown` names the account alone.
-/

namespace BlobDisk

/-- The name of a storage account and its key, in base 64. -/
structure Credentials where
  account : String
  key : String
deriving DecidableEq, Repr, Inhabited

/-- The account of a named holder of a key, with the key left out. -/
def shownAccount (holder account : String) : String :=
  holder ++ " \x7b account: " ++ Quoted.text account ++ ", .. \x7d"

/-- The credentials for a log. -/
def Credentials.shown (c : Credentials) : String := shownAccount "Credentials" c.account

end BlobDisk
