import BlobDisk.Json.Value
import BlobDisk.Text.Pieces

/-!
# Writing JSON

`Value.pretty` writes a value over several lines: each item and each field stands on a line of its
own, indented by its depth. Keys keep their order.
-/

namespace BlobDisk.Json

/-- The digit in base sixteen, in lower case. -/
def hexDigit (n : Nat) : Char := if n < 10 then Char.ofNat (48 + n) else Char.ofNat (87 + n)

/-- A character as it stands in a string: quotes, backslashes and controls are escaped. -/
def escapeChar (c : Char) : List Char :=
  if c = '"' then ['\\', '"']
  else if c = '\\' then ['\\', '\\']
  else if c = '\n' then ['\\', 'n']
  else if c = '\r' then ['\\', 'r']
  else if c = '\t' then ['\\', 't']
  else if c.toNat = 8 then ['\\', 'b']
  else if c.toNat = 12 then ['\\', 'f']
  else if c.toNat < 32 then
    ['\\', 'u', '0', '0', hexDigit (c.toNat / 16), hexDigit (c.toNat % 16)]
  else [c]

/-- A string between quotes. A string without text is written as an empty one. -/
def quote (text : Option String) : List Char :=
  '"' :: (((text.getD "").toList.flatMap escapeChar) ++ ['"'])

/-- A line break and the indentation of a depth. -/
def newline (indent depth : Nat) : List Char := '\n' :: List.replicate (indent * depth) ' '

/-- Items between brackets, each on its own line; empty brackets hold no line. -/
def block (indent depth : Nat) (opening closing : Char) (items : List (List Char)) : List Char :=
  match items with
  | [] => [opening, closing]
  | _ =>
    opening :: (newline indent (depth + 1)
      ++ Pieces.join (',' :: newline indent (depth + 1)) items
      ++ newline indent depth ++ [closing])

mutual

/-- The value at a depth. -/
def Value.write (indent depth : Nat) : Value → List Char
  | .null => "null".toList
  | .bool b => (if b then "true" else "false").toList
  | .int n => (toString n).toList
  | .fraction => "0.0".toList
  | .string text => quote text
  | .array items => block indent depth '[' ']' (writeItems indent depth items)
  | .object fields => block indent depth '\x7b' '\x7d' (writeFields indent depth fields)

/-- The items of an array at a depth. -/
def writeItems (indent depth : Nat) : List Value → List (List Char)
  | [] => []
  | v :: rest => v.write indent (depth + 1) :: writeItems indent depth rest

/-- The fields of an object at a depth. -/
def writeFields (indent depth : Nat) : List (Option String × Value) → List (List Char)
  | [] => []
  | (key, v) :: rest =>
    (quote key ++ ':' :: ' ' :: v.write indent (depth + 1)) :: writeFields indent depth rest

end

/-- The value over several lines, with `indent` spaces for each depth. -/
def Value.pretty (indent : Nat) (v : Value) : String := String.ofList (v.write indent 0)

end BlobDisk.Json
