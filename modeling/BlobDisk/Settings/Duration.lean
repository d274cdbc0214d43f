import BlobDisk.Text.Blank
import BlobDisk.Text.Decimal

/-!
# Durations

A duration is written as numbers with units, the parts one after another with or without blanks
between them. Blanks may also stand within a number. A number may have a fraction, if the fraction
makes a whole number of the grains that the unit is counted in.

* `Duration.parse?`: the duration that a text denotes;
* `Duration.shown`: a duration in the largest unit in which it is at least one, up to seconds.
-/

namespace BlobDisk

/-- A length of time in nanoseconds. -/
structure Duration where
  nanos : Nat
deriving DecidableEq, Repr, Inhabited

namespace Duration

/-- The nanoseconds in a second. -/
def second : Nat := 1000000000

/-- The duration of a number of seconds. -/
def ofSeconds (n : Nat) : Duration := ⟨n * second⟩

/-- The whole seconds. -/
def seconds (d : Duration) : Nat := d.nanos / second

/-- The nanoseconds beside the whole seconds. -/
def subsecondNanos (d : Duration) : Nat := d.nanos % second

/-! ## Units -/

/-- The names of the units, and how many nanoseconds each is. A month is a twelfth of a year, and a
year has 365 days and a quarter. -/
def units : List (List String × Nat) := [
  (["nanos", "nsec", "ns"], 1),
  (["usec", "us", "µs"], 1000),
  (["millis", "msec", "ms"], 1000000),
  (["seconds", "second", "secs", "sec", "s"], second),
  (["minutes", "minute", "min", "mins", "m"], 60 * second),
  (["hours", "hour", "hr", "hrs", "h"], 3600 * second),
  (["days", "day", "d"], 86400 * second),
  (["weeks", "week", "wk", "wks", "w"], 604800 * second),
  (["months", "month", "M"], 2630016 * second),
  (["years", "year", "yr", "yrs", "y"], 31557600 * second)]

/-- The nanoseconds in the unit with a name. -/
def unit? (name : String) : Option Nat :=
  (units.find? fun u => u.1.contains name).map (·.2)

/-- What whole numbers of a unit are counted in. -/
def wholeGrain (unit : Nat) : Nat := if unit < second then 1 else second

/-- What fractions of a unit are counted in: fractions of an hour, and of more, in seconds. -/
def fractionGrain (unit : Nat) : Nat := if unit < 3600 * second then 1 else second

/-! ## Sums -/

/-- A number with its unit: the whole part, and the digits of the fraction and how many they are. -/
structure Part where
  whole : Nat
  fraction : Option (Nat × Nat)
  unit : Nat
deriving DecidableEq, Repr

/-- A value that fits into 64 bits. -/
def word? (n : Nat) : Option Nat := if n < 0x10000000000000000 then some n else none

/-- The sum with `n` times the grain added, where all that is counted fits into 64 bits. -/
def add? (total grain n : Nat) : Option Nat := do
  if grain = 1 then
    let _ ← word? (total % second + n)
  let sum := total + n * grain
  let _ ← word? (sum / second)
  return sum

/-- The quotient of a division that leaves nothing over. -/
def quotient? (n d : Nat) : Option Nat := if n % d = 0 then some (n / d) else none

/-- How many grains a fraction of a unit is. A fraction that is no whole number of them is refused,
and every fraction of a nanosecond is, zero too. -/
def fraction? (unit digits places : Nat) : Option Nat := do
  if unit = 1 then none
  quotient? (← word? (digits * (unit / fractionGrain unit))) (← word? (Nat.pow 10 places))

/-- The sum with a part added. -/
def addPart? (total : Nat) (p : Part) : Option Nat := do
  let grain := wholeGrain p.unit
  let total ← add? total grain (← word? (p.whole * (p.unit / grain)))
  match p.fraction with
  | none => return total
  | some (digits, places) =>
    add? total (fractionGrain p.unit) (← fraction? p.unit digits places)

/-! ## Reading -/

/-- Whether the character may stand in the name of a unit. -/
def isUnitChar (c : Char) : Bool := c.isAlpha || c = 'µ'

/-- Digits with blanks between them, and the rest of the text. -/
def digits (text : List Char) : List Char × List Char :=
  let inNumber (c : Char) : Bool := c.isDigit || Blank.isBlank c
  ((text.takeWhile inNumber).filter Char.isDigit, text.dropWhile inNumber)

/-- The digits after a point, if there is one, and the rest of the text. -/
def readFraction? (text : List Char) : Option (Option (Nat × Nat) × List Char) :=
  match text with
  | '.' :: rest =>
    let (ds, rest) := digits rest
    (Decimal.digits? ds).map fun n => (some (n, ds.length), rest)
  | _ => some (none, text)

/-- A number and its unit at the start of a text, and the rest of the text. -/
def part? (text : List Char) : Option (Part × List Char) := do
  if (text.head?.any Char.isDigit) = false then none
  let (ds, rest) := digits text
  let whole ← word? (← Decimal.digits? ds)
  let (fraction, rest) ← readFraction? rest
  let unit ← unit? (String.ofList (rest.takeWhile isUnitChar))
  return (⟨whole, fraction, unit⟩, (rest.dropWhile isUnitChar).dropWhile Blank.isBlank)

/-- The parts of a text, one at least. -/
def parts? : Nat → List Char → Option (List Part)
  | 0, _ => none
  | fuel + 1, text => do
    let (p, rest) ← part? text
    if rest = [] then return [p] else return p :: (← parts? fuel rest)

/-- The duration that a text denotes. A zero needs no unit. -/
def parse? (text : String) : Option Duration :=
  if text = "0" then some ⟨0⟩
  else do
    let ps ← parts? (text.toList.length + 1) (text.toList.dropWhile Blank.isBlank)
    return ⟨← ps.foldlM addPart? 0⟩

/-! ## Writing -/

/-- A number of units as a decimal with no zeros at its end, where `10 ^ places` make one. -/
def decimal (n places : Nat) : List Char :=
  let whole := Nat.toDigits 10 (n / Nat.pow 10 places)
  let digits := Nat.toDigits 10 (n % Nat.pow 10 places)
  let padded := List.replicate (places - digits.length) '0' ++ digits
  match (padded.reverse.dropWhile (· = '0')).reverse with
  | [] => whole
  | fraction => whole ++ '.' :: fraction

/-- The duration for a log. -/
def shown (d : Duration) : String :=
  let (places, unit) :=
    if second ≤ d.nanos then (9, "s")
    else if 1000000 ≤ d.nanos then (6, "ms")
    else if 1000 ≤ d.nanos then (3, "µs")
    else (0, "ns")
  String.ofList (decimal d.nanos places) ++ unit

end Duration

end BlobDisk
