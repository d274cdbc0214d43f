import BlobDisk.Json.Value
import BlobDisk.Text.Decimal
import BlobDisk.Text.Utf8

/-!
# Reading JSON

`Value.read?` is the value in bytes that hold one value and blanks around it. What a reader does not
look at need not be text: a string whose bytes are no text, or that names half a character, is read as
a string without a text.
-/

namespace BlobDisk.Json

/-! ## Blanks and words -/

/-- Whether the byte is a blank. -/
def isBlank (b : UInt8) : Bool := b = 0x20 || b = 0x09 || b = 0x0A || b = 0x0D

/-- The bytes after blanks. -/
def skip (bytes : List UInt8) : List UInt8 := bytes.dropWhile isBlank

/-- What follows a word. -/
def word? (text : String) (bytes : List UInt8) : Option (List UInt8) :=
  let w := Utf8.encode text.toList
  if w.isPrefixOf bytes then some (bytes.drop w.length) else none

/-! ## Strings -/

/-- A part of a string: a byte, or a number of sixteen bits. -/
inductive Part
  | byte (b : UInt8)
  | code (n : Nat)

/-- The value of a digit in base sixteen. -/
def hex? (b : UInt8) : Option Nat :=
  if 48 ≤ b ∧ b ≤ 57 then some (b.toNat - 48)
  else if 65 ≤ b ∧ b ≤ 70 then some (b.toNat - 55)
  else if 97 ≤ b ∧ b ≤ 102 then some (b.toNat - 87)
  else none

/-- The number that four digits denote. -/
def hex4? (a b c d : UInt8) : Option Nat := do
  return (((← hex? a) * 16 + (← hex? b)) * 16 + (← hex? c)) * 16 + (← hex? d)

/-- The byte that a letter after a backslash stands for. -/
def escape? (b : UInt8) : Option UInt8 :=
  if b = 34 then some 34
  else if b = 92 then some 92
  else if b = 47 then some 47
  else if b = 98 then some 8
  else if b = 102 then some 12
  else if b = 110 then some 10
  else if b = 114 then some 13
  else if b = 116 then some 9
  else none

/-- The parts of a string after its first quote, up to its last, and what follows. -/
def parts? : List UInt8 → Option (List Part × List UInt8)
  | [] => none
  | 92 :: 117 :: a :: b :: c :: d :: rest => do
    let n ← hex4? a b c d
    let (ps, after) ← parts? rest
    return (.code n :: ps, after)
  | 92 :: e :: rest => do
    let b ← escape? e
    let (ps, after) ← parts? rest
    return (.byte b :: ps, after)
  | b :: rest =>
    if b = 34 then some ([], rest)
    else if b = 92 ∨ b < 32 then none
    else do
      let (ps, after) ← parts? rest
      return (.byte b :: ps, after)

/-- The bytes of the parts; none if a half of a character stands alone. -/
def bytes? : List Part → Option (List UInt8)
  | [] => some []
  | .byte b :: rest => (bytes? rest).map (b :: ·)
  | .code n :: rest =>
    if 0xD800 ≤ n ∧ n < 0xDC00 then
      match rest with
      | .code m :: more =>
        if 0xDC00 ≤ m ∧ m < 0xE000 then
          let c := Char.ofNat (0x10000 + (n - 0xD800) * 0x400 + (m - 0xDC00))
          (bytes? more).map (Utf8.encode [c] ++ ·)
        else none
      | _ => none
    else if 0xDC00 ≤ n ∧ n < 0xE000 then none
    else (bytes? rest).map (Utf8.encode [Char.ofNat n] ++ ·)

/-- The text of the parts, if they have one. -/
def text? (ps : List Part) : Option String := do
  return String.ofList (← Utf8.decode? (← bytes? ps))

/-- A string after its first quote, and what follows. -/
def string? (bytes : List UInt8) : Option (Option String × List UInt8) := do
  let (ps, after) ← parts? bytes
  return (text? ps, after)

/-! ## Numbers -/

/-- Whether the byte is a digit. -/
def isDigit (b : UInt8) : Bool := 48 ≤ b && b ≤ 57

/-- The digits at the front, and what follows. -/
def digits (bytes : List UInt8) : List UInt8 × List UInt8 :=
  (bytes.takeWhile isDigit, bytes.dropWhile isDigit)

/-- One or more digits, skipped. -/
def skipDigits? (bytes : List UInt8) : Option (List UInt8) :=
  if (bytes.takeWhile isDigit).isEmpty then none else some (bytes.dropWhile isDigit)

/-- A fraction, if there is one, skipped; the flag says whether there was. -/
def skipFraction? : List UInt8 → Option (Bool × List UInt8)
  | 46 :: rest => (skipDigits? rest).map fun after => (true, after)
  | bytes => some (false, bytes)

/-- An exponent, if there is one, skipped; the flag says whether there was. -/
def skipExponent? : List UInt8 → Option (Bool × List UInt8)
  | b :: rest =>
    if b = 101 ∨ b = 69 then
      let rest := match rest with
        | s :: more => if s = 43 ∨ s = 45 then more else s :: more
        | [] => []
      (skipDigits? rest).map fun after => (true, after)
    else some (false, b :: rest)
  | [] => some (false, [])

/-- A number, and what follows. Zeros may not stand in front of other digits. -/
def number? (bytes : List UInt8) : Option (Value × List UInt8) := do
  let (negative, body) := match bytes with
    | 45 :: rest => (true, rest)
    | rest => (false, rest)
  let (ds, rest) := digits body
  if ds.isEmpty ∨ (ds.head? = some 48 ∧ 1 < ds.length) then none
  else
    let (hasFraction, rest) ← skipFraction? rest
    let (hasExponent, rest) ← skipExponent? rest
    let n := Nat.ofDigitChars 10 (ds.map fun b => Char.ofNat b.toNat) 0
    if hasFraction ∨ hasExponent ∨ (negative ∧ n = 0) then return (.fraction, rest)
    else return (.int (if negative then -(n : Int) else n), rest)

/-! ## Values -/

mutual

/-- A value, and what follows. Blanks in front of it are skipped. -/
def value? : Nat → List UInt8 → Option (Value × List UInt8)
  | 0, _ => none
  | fuel + 1, bytes =>
    match skip bytes with
    | [] => none
    | 34 :: rest => (string? rest).map fun (s, after) => (.string s, after)
    | 91 :: rest =>
      match skip rest with
      | 93 :: after => some (.array [], after)
      | first => (items? fuel first).map fun (vs, after) => (.array vs, after)
    | 123 :: rest =>
      match skip rest with
      | 125 :: after => some (.object [], after)
      | first => (fields? fuel first).map fun (fs, after) => (.object fs, after)
    | b :: rest =>
      if b = 110 then (word? "null" (b :: rest)).map fun after => (.null, after)
      else if b = 116 then (word? "true" (b :: rest)).map fun after => (.bool true, after)
      else if b = 102 then (word? "false" (b :: rest)).map fun after => (.bool false, after)
      else number? (b :: rest)

/-- Items with commas between them up to the closing bracket, and what follows. -/
def items? : Nat → List UInt8 → Option (List Value × List UInt8)
  | 0, _ => none
  | fuel + 1, bytes => do
    let (v, rest) ← value? fuel bytes
    match skip rest with
    | 44 :: more => do
      let (vs, after) ← items? fuel more
      return (v :: vs, after)
    | 93 :: after => return ([v], after)
    | _ => none

/-- Fields with commas between them up to the closing brace, and what follows. -/
def fields? : Nat → List UInt8 → Option (List (Option String × Value) × List UInt8)
  | 0, _ => none
  | fuel + 1, bytes =>
    match skip bytes with
    | 34 :: start => do
      let (key, rest) ← string? start
      match skip rest with
      | 58 :: body => do
        let (v, rest) ← value? fuel body
        match skip rest with
        | 44 :: more => do
          let (fs, after) ← fields? fuel more
          return ((key, v) :: fs, after)
        | 125 :: after => return ([(key, v)], after)
        | _ => none
      | _ => none
    | _ => none

end

/-- The value in the bytes, which hold nothing else but blanks. Each step of a reader takes a byte,
so the number of bytes bounds the steps. -/
def Value.read? (bytes : List UInt8) : Option Value :=
  match value? (2 * bytes.length + 2) bytes with
  | some (v, rest) => if (skip rest).isEmpty then some v else none
  | none => none

end BlobDisk.Json
