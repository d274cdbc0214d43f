import BlobDisk.Text.Utf8

/-!
# The environment of a process

A variable of the environment is set to bytes. Whoever asks for it wants a text, and gets one only if the
variable is set and its bytes are UTF-8.

* `Environment.var`: the text that a variable is set to, or why there is none;
* `Environment.shown`: the text of a variable for a reader, whatever its bytes are.
-/

namespace BlobDisk

/-- The variables of a process in order, each a name and the bytes that it is set to. Of several variables
with one name the first counts. -/
abbrev Environment := List (String × List UInt8)

namespace Environment

/-- Why a variable is no text. -/
inductive Unread
  | unset
  | notText
deriving DecidableEq, Repr

/-- The text that a variable is set to. -/
def var (env : Environment) (name : String) : Except Unread String :=
  match env.lookup name with
  | none => .error .unset
  | some bytes =>
    match Utf8.decode? bytes with
    | some text => .ok (String.ofList text)
    | none => .error .notText

/-- A variable for a reader: nothing if it is unset, and replacement characters where it is no text. -/
def shown (env : Environment) (name : String) : String :=
  String.ofList (Utf8.decodeLossy ((env.lookup name).getD []))

end Environment

end BlobDisk
