/-!
# Labels in ASCII

A label with characters beyond ASCII is written as its ASCII characters, a hyphen, and numbers in base
36. All pairs of a character and a place for it are counted, by character first; each number tells how
many pairs to pass over until the next one that the label has.

* `Punycode.encode`: the label in ASCII;
* `Punycode.decode?`: the label that a text denotes.
-/

namespace BlobDisk.Punycode

/-! ## Numbers -/

/-- The digit with a value below 36. -/
def digit (n : Nat) : Char := Char.ofNat (if n < 26 then 97 + n else 22 + n)

/-- The value of a digit. -/
def value? (c : Char) : Option Nat :=
  if 'a' ≤ c ∧ c ≤ 'z' then some (c.toNat - 97)
  else if 'A' ≤ c ∧ c ≤ 'Z' then some (c.toNat - 65)
  else if '0' ≤ c ∧ c ≤ '9' then some (c.toNat - 22)
  else none

/-- The least value of a digit after which a number goes on. Places of digits count by 36. -/
def threshold (bias place : Nat) : Nat := max 1 (min 26 (place - bias))

/-- The bias by which the number after `delta` is likely to be short, when `length` characters of the
label are known. -/
def adapt (delta length : Nat) (isFirst : Bool) : Nat :=
  let delta := if isFirst then delta / 700 else delta / 2
  scale (delta + delta / length) 0
where
  /-- The places of a number, and the bias within the last of them. -/
  scale (delta places : Nat) : Nat :=
    if 455 < delta then scale (delta / 35) (places + 36) else places + 36 * delta / (delta + 38)
  termination_by delta
  decreasing_by omega

/-- The bias for the first number. -/
def firstBias : Nat := 72

/-- The digits of a number from a place on. -/
def digits (bias place n : Nat) : List Char :=
  let t := threshold bias place
  if n < t then [digit n]
  else digit (t + (n - t) % (36 - t)) :: digits bias (place + 36) ((n - t) / (36 - t))
termination_by n
decreasing_by
  have pos : 1 ≤ threshold bias place := by unfold threshold; omega
  have le := Nat.div_le_self (n - threshold bias place) (36 - threshold bias place)
  omega

/-- A number and the text after it. `n` has been read already, and the next digit counts `weight`. All
that is counted has to fit into 32 bits. -/
def number? (bias place weight n : Nat) : List Char → Option (Nat × List Char)
  | [] => none
  | c :: rest => do
    let d ← value? c
    let n := n + d * weight
    if 0x100000000 ≤ n then none
    else if d < threshold bias place then some (n, rest)
    else
      let weight := weight * (36 - threshold bias place)
      if 0x100000000 ≤ weight then none else number? bias (place + 36) weight n rest

/-! ## Reading -/

/-- The label with the characters that the numbers in a text tell put in. The last one was `code`, and
`place` is the first place after it. -/
def insertAll (fuel bias code place : Nat) (label text : List Char) : Option (List Char) :=
  match fuel, text with
  | _, [] => some label
  | 0, _ => none
  | fuel + 1, text => do
    let (n, rest) ← number? bias 36 1 place text
    let count := label.length + 1
    let next := code + n / count
    if next.isValidChar then
      insertAll fuel (adapt (n - place) count (place = 0)) next (n % count + 1)
        (label.insertIdx (n % count) (Char.ofNat next)) rest
    else none

/-- The label that a text denotes: what is before the last hyphen stands for itself. -/
def decode? (text : List Char) : Option (List Char) :=
  let back := text.reverse.takeWhile (· ≠ '-')
  let front := (text.take (text.length - back.length)).dropLast
  let numbers := if front = [] then text else back.reverse
  if front.all fun c => c.toNat < 128 then
    insertAll numbers.length firstBias 128 0 front numbers
  else none

/-! ## Writing -/

/-- How far a label has been written: the pairs passed over since the last number, the bias for the
next one, how many characters are known, and the numbers. -/
structure Progress where
  delta : Nat
  bias : Nat
  known : Nat
  numbers : List Char

/-- The progress past one character of the label, when the places for the character with the number
`code` are counted. -/
def Progress.past (plain code : Nat) (p : Progress) (c : Char) : Progress :=
  if c.toNat < code then { p with delta := p.delta + 1 }
  else if c.toNat = code then
    { delta := 0, bias := adapt p.delta (p.known + 1) (p.known = plain), known := p.known + 1
      numbers := p.numbers ++ digits p.bias 36 p.delta }
  else p

/-- The progress past all places for the characters with the numbers `codes`, which increase from
`code` on. -/
def Progress.pastAll (plain : Nat) (label : List Char) (code : Nat) (p : Progress) :
    List Nat → Progress
  | [] => p
  | next :: codes =>
    let start := { p with delta := p.delta + (next - code) * (p.known + 1) }
    let p := label.foldl (Progress.past plain next) start
    Progress.pastAll plain label (next + 1) { p with delta := p.delta + 1 } codes

/-- The label in ASCII. -/
def encode (label : List Char) : List Char :=
  let plain := label.filter fun c => c.toNat < 128
  let others := (label.map Char.toNat).filter (128 ≤ ·)
  let codes := (others.mergeSort (· ≤ ·)).eraseDups
  let p := Progress.pastAll plain.length label 128 ⟨0, firstBias, plain.length, []⟩ codes
  plain ++ (if plain = [] then [] else ['-']) ++ p.numbers

end BlobDisk.Punycode
