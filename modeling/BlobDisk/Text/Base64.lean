/-!
# Base64

The standard alphabet with padding. Each byte string has one written form, and reading accepts no
other: padding is required and the bits that no byte needs are zero.

* `Base64.encode`: the written form of bytes;
* `Base64.decode`: the bytes of a written form, or the first fault in it.
-/

namespace BlobDisk.Base64

/-- The byte of `=`, which fills the last group of four. -/
def pad : UInt8 := 61

/-- Why a text is no written form. Positions count bytes from zero. -/
inductive Fault
  /-- A byte that is no symbol, or padding where none may stand. -/
  | invalidByte (position : Nat) (byte : UInt8)
  /-- A last group with a single symbol; `length` counts the bytes up to it. -/
  | invalidLength (length : Nat)
  /-- A last symbol with bits that belong to no byte. -/
  | invalidLastSymbol (position : Nat) (byte : UInt8)
  /-- A last group that padding does not fill. -/
  | invalidPadding
deriving DecidableEq, Repr

/-- The text that reports the fault. -/
def Fault.message : Fault → String
  | invalidByte p b => "Invalid symbol " ++ toString b.toNat ++ ", offset " ++ toString p ++ "."
  | invalidLength n => "Invalid input length: " ++ toString n
  | invalidLastSymbol p b =>
    "Invalid last symbol " ++ toString b.toNat ++ ", offset " ++ toString p ++ "."
  | invalidPadding => "Invalid padding"

/-- The symbol for a number of six bits. -/
def symbol (n : Nat) : UInt8 :=
  if n < 26 then UInt8.ofNat (65 + n)
  else if n < 52 then UInt8.ofNat (71 + n)
  else if n < 62 then UInt8.ofNat (n - 4)
  else if n = 62 then 43
  else 47

/-- The six bits that a symbol stands for. -/
def value? (b : UInt8) : Option Nat :=
  if 65 ≤ b ∧ b ≤ 90 then some (b.toNat - 65)
  else if 97 ≤ b ∧ b ≤ 122 then some (b.toNat - 71)
  else if 48 ≤ b ∧ b ≤ 57 then some (b.toNat + 4)
  else if b = 43 then some 62
  else if b = 47 then some 63
  else none

/-- The written form: four symbols for three bytes, the last group filled with padding. -/
def encode : List UInt8 → List UInt8
  | [] => []
  | [a] =>
    [symbol (a.toNat / 4), symbol (a.toNat % 4 * 16), pad, pad]
  | [a, b] =>
    [symbol (a.toNat / 4), symbol (a.toNat % 4 * 16 + b.toNat / 16), symbol (b.toNat % 16 * 4), pad]
  | a :: b :: c :: rest =>
    symbol (a.toNat / 4) :: symbol (a.toNat % 4 * 16 + b.toNat / 16) ::
      symbol (b.toNat % 16 * 4 + c.toNat / 64) :: symbol (c.toNat % 64) :: encode rest

/-- The values of symbols, the first at `position`. -/
def values (position : Nat) : List UInt8 → Except Fault (List Nat)
  | [] => .ok []
  | b :: rest =>
    match value? b with
    | some v => (values (position + 1) rest).map (v :: ·)
    | none => .error (.invalidByte position b)

/-- The bytes that the values of a whole group stand for. -/
def bytesOfGroup : List Nat → List UInt8
  | [p, q, r, s] =>
    [UInt8.ofNat (p * 4 + q / 16), UInt8.ofNat (q % 16 * 16 + r / 4), UInt8.ofNat (r % 4 * 64 + s)]
  | [p, q, r] => [UInt8.ofNat (p * 4 + q / 16), UInt8.ofNat (q % 16 * 16 + r / 4)]
  | [p, q] => [UInt8.ofNat (p * 4 + q / 16)]
  | _ => []

/-- The bits of the last value that no byte takes up. -/
def spareBits : List Nat → Nat
  | [_, _, r] => r % 4
  | [_, q] => q % 16
  | _ => 0

/-- The bytes of the last group, of at most four bytes, that starts at `position`. -/
def decodeLast (position : Nat) (group : List UInt8) : Except Fault (List UInt8) := do
  let symbols := group.takeWhile (· ≠ pad)
  let filler := group.dropWhile (· ≠ pad)
  let vs ← values position symbols
  if filler ≠ [] ∧ (symbols.length < 2 ∨ filler.any (· ≠ pad)) then
    throw (.invalidByte (position + symbols.length) pad)
  else if group ≠ [] ∧ symbols.length < 2 then
    throw (.invalidLength (position + symbols.length))
  else if group.length % 4 ≠ 0 then
    throw .invalidPadding
  else if spareBits vs ≠ 0 then
    throw (.invalidLastSymbol (position + symbols.length - 1) (symbols.getLastD 0))
  else
    return bytesOfGroup vs

/-- The bytes of the groups from `position` on; padding may stand in the last group only. -/
def decodeGroups (position : Nat) : List UInt8 → Except Fault (List UInt8)
  | a :: b :: c :: d :: e :: rest => do
    let vs ← values position [a, b, c, d]
    let more ← decodeGroups (position + 4) (e :: rest)
    return bytesOfGroup vs ++ more
  | group => decodeLast position group

/-- The byte that is left over when all groups of four are full, if it can be part of no group. -/
def strayByte? (bytes : List UInt8) : Option UInt8 :=
  if bytes.length % 4 = 1 then
    bytes.getLast?.filter fun b => b ≠ pad ∧ (value? b).isNone
  else none

/-- The bytes of a written form. A stray byte at the end is reported before any other fault. -/
def decode (bytes : List UInt8) : Except Fault (List UInt8) :=
  match strayByte? bytes with
  | some b => .error (.invalidByte (bytes.length - 1) b)
  | none => decodeGroups 0 bytes

end BlobDisk.Base64
