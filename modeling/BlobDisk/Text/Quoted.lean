import BlobDisk.Text.Unprintable

/-!
# Quoted text

`Quoted.text` shows a text between double quotes so that every character in it can be seen: quotes and
backslashes follow a backslash, and characters without a visible form are written by their numbers.
-/

namespace BlobDisk.Quoted

/-- A character as it stands between quotes. -/
def char (c : Char) : List Char :=
  if c = '"' then ['\\', '"']
  else if c = '\\' then ['\\', '\\']
  else if c = '\n' then ['\\', 'n']
  else if c = '\r' then ['\\', 'r']
  else if c = '\t' then ['\\', 't']
  else if c = '\x00' then ['\\', '0']
  else if Unprintable.contains c then
    "\\u\x7b".toList ++ Nat.toDigits 16 c.toNat ++ ['}']
  else [c]

/-- The text between double quotes. -/
def text (s : String) : String := String.ofList ('"' :: (s.toList.flatMap char ++ ['"']))

end BlobDisk.Quoted
