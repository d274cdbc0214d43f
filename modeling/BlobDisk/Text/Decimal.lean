/-!
# Decimal numbers

Numbers are written with as few digits as possible and read with any number of leading zeros:

* `Decimal.digits?`: one or more digits and nothing else;
* `Decimal.unsigned?`: an optional plus and digits, below a bound;
* `Decimal.signed?`: an optional sign and digits, within the range of a two's complement word;
* `Decimal.readWord`: a 64-bit word, or the reason why the text denotes none.
-/

namespace BlobDisk.Decimal

/-- The number that digits denote; none for an empty text or one with another character. -/
def digits? (text : List Char) : Option Nat :=
  if text ≠ [] ∧ text.all Char.isDigit then some (Nat.ofDigitChars 10 text 0) else none

/-- A leading plus is allowed and means nothing. -/
def dropPlus : List Char → List Char
  | '+' :: rest => rest
  | text => text

/-- A number below `bound` with an optional plus. -/
def unsigned? (bound : Nat) (text : List Char) : Option Nat :=
  (digits? (dropPlus text)).filter (· < bound)

/-- A number with an optional sign, at least `-half` and below `half`. -/
def signed? (half : Nat) : List Char → Option Int
  | '-' :: rest => ((digits? rest).filter (· ≤ half)).map fun n => -(n : Int)
  | text => (unsigned? half text).map fun n => (n : Int)

/-- The 64-bit word that the text denotes. -/
def word? (text : List Char) : Option UInt64 :=
  (unsigned? (0x10000000000000000) text).map UInt64.ofNat

/-- The signed 64-bit word that the text denotes. -/
def signedWord? (text : List Char) : Option Int64 :=
  (signed? (0x8000000000000000) text).map Int64.ofInt

/-- Why a text is no 64-bit word. -/
inductive Fault
  | empty
  | invalidDigit
  | tooLarge
deriving DecidableEq, Repr

/-- The text that reports the fault. -/
def Fault.message : Fault → String
  | empty => "cannot parse integer from empty string"
  | invalidDigit => "invalid digit found in string"
  | tooLarge => "number too large to fit in target type"

/-- The word that digits denote after those that denote `n`; the first fault from the left counts. -/
def wordFrom (n : Nat) : List Char → Except Fault UInt64
  | [] => .ok (UInt64.ofNat n)
  | c :: rest =>
    if c.isDigit = false then .error .invalidDigit
    else
      let next := 10 * n + (c.toNat - '0'.toNat)
      if 0x10000000000000000 ≤ next then .error .tooLarge else wordFrom next rest

/-- The word that a text denotes, with an optional plus, or the reason why it denotes none. -/
def readWord (text : List Char) : Except Fault UInt64 :=
  if text = [] then .error .empty
  else if dropPlus text = [] then .error .invalidDigit
  else wordFrom 0 (dropPlus text)

end BlobDisk.Decimal
