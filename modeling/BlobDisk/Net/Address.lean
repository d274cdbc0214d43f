import BlobDisk.Text.Pieces

/-!
# Internet addresses

* `IpAddress.text`: an address as it is written, the longest run of zero groups of a version 6 address
  left out;
* `IpAddress.parse?`: the address that a text denotes in strict form;
* `IpAddress.literal?`: also version 6 with a scope, and the old short forms of version 4, with fewer
  parts and other bases.
-/

namespace BlobDisk

/-- The address of a host. -/
inductive IpAddress
  | v4 (a b c d : UInt8)
  /-- Eight groups of sixteen bits. -/
  | v6 (groups : Vector UInt16 8)
deriving DecidableEq, Repr

namespace IpAddress

instance : Inhabited IpAddress := ⟨v4 0 0 0 0⟩

/-! ## Writing -/

/-- Four numbers with dots between them. -/
def dotted (a b c d : UInt8) : String :=
  toString a.toNat ++ "." ++ toString b.toNat ++ "." ++ toString c.toNat ++ "." ++ toString d.toNat

/-- Groups in base sixteen with colons between them. -/
def colons (groups : List UInt16) : String :=
  String.intercalate ":" (groups.map fun g => String.ofList (Nat.toDigits 16 g.toNat))

/-- How many zero groups the list starts with. -/
def zerosAt (groups : List UInt16) : Nat := (groups.takeWhile (· = 0)).length

/-- The start and the length of the longest run of zero groups, the first of several. -/
def longestZeros (groups : List UInt16) : Nat × Nat :=
  (List.range groups.length).foldl
    (fun best i =>
      let n := zerosAt (groups.drop i)
      if best.2 < n then (i, n) else best)
    (0, 0)

/-- The address as it is written. -/
def text : IpAddress → String
  | v4 a b c d => dotted a b c d
  | v6 groups =>
    match groups.toList with
    | [0, 0, 0, 0, 0, 0xffff, g, h] =>
      "::ffff:" ++ dotted (g >>> 8).toUInt8 g.toUInt8 (h >>> 8).toUInt8 h.toUInt8
    | gs =>
      let (start, n) := longestZeros gs
      if 1 < n then colons (gs.take start) ++ "::" ++ colons (gs.drop (start + n)) else colons gs

/-! ## Reading -/

/-- The value of a digit in a base up to sixteen. -/
def digit? (base : Nat) (c : Char) : Option Nat :=
  let n :=
    if '0' ≤ c ∧ c ≤ '9' then c.toNat - 48
    else if 'a' ≤ c ∧ c ≤ 'f' then c.toNat - 87
    else if 'A' ≤ c ∧ c ≤ 'F' then c.toNat - 55
    else 16
  if n < base then some n else none

/-- The digits at the front of a text and what follows. -/
def digits (base : Nat) : List Char → List Nat × List Char
  | [] => ([], [])
  | c :: rest =>
    match digit? base c with
    | some n =>
      let (ns, after) := digits base rest
      (n :: ns, after)
    | none => ([], c :: rest)

/-- The number that digits denote. -/
def ofDigits (base : Nat) (ns : List Nat) : Nat := ns.foldl (fun acc n => acc * base + n) 0

/-- A number of one to three digits without needless zeros that fits a byte, and what follows. -/
def byte? (text : List Char) : Option (UInt8 × List Char) :=
  let (ns, rest) := digits 10 text
  if ns.length = 0 ∨ 3 < ns.length ∨ (1 < ns.length ∧ ns.head? = some 0) ∨ 255 < ofDigits 10 ns then
    none
  else some (UInt8.ofNat (ofDigits 10 ns), rest)

/-- What follows a given character at the front. -/
def char? (c : Char) : List Char → Option (List Char)
  | d :: rest => if c = d then some rest else none
  | [] => none

/-- Four bytes with dots between them, and what follows. -/
def four? (text : List Char) : Option ((UInt8 × UInt8 × UInt8 × UInt8) × List Char) := do
  let (a, r) ← byte? text
  let (b, r) ← byte? (← char? '.' r)
  let (c, r) ← byte? (← char? '.' r)
  let (d, r) ← byte? (← char? '.' r)
  return ((a, b, c, d), r)

/-- A group of one to four digits, and what follows. -/
def group? (text : List Char) : Option (UInt16 × List Char) :=
  let (ns, rest) := digits 16 text
  if ns.length = 0 ∨ 4 < ns.length then none else some (UInt16.ofNat (ofDigits 16 ns), rest)

/-- The groups at the front, at most `room` of them, whether they end in four bytes, and what
follows. A colon stands before each but the first. -/
def groups (first : Bool) : Nat → List Char → List UInt16 × Bool × List Char
  | 0, text => ([], false, text)
  | room + 1, text =>
    let start := if first then some text else char? ':' text
    match start with
    | none => ([], false, text)
    | some front =>
      match (if 0 < room then four? front else none) with
      | some ((a, b, c, d), rest) =>
        ([a.toUInt16 <<< 8 ||| b.toUInt16, c.toUInt16 <<< 8 ||| d.toUInt16], true, rest)
      | none =>
        match group? front with
        | some (g, rest) =>
          let (gs, four, after) := groups false room rest
          (g :: gs, four, after)
        | none => ([], false, text)

/-- Eight groups; missing ones at the end are zero. -/
def ofGroups (gs : List UInt16) : IpAddress := v6 (Vector.ofFn fun i => gs.getD i.val 0)

/-- A whole text in the form of version 6: eight groups, or fewer around a double colon. -/
def parseV6? (text : List Char) : Option IpAddress :=
  let (head, four, rest) := groups true 8 text
  if head.length = 8 then
    if rest = [] then some (ofGroups head) else none
  else if four then none
  else
    match rest with
    | ':' :: ':' :: back =>
      let (tail, _, after) := groups true (7 - head.length) back
      if after = [] then
        some (ofGroups (head ++ List.replicate (8 - head.length - tail.length) 0 ++ tail))
      else none
    | _ => none

/-- A whole text in the form of version 4. -/
def parseV4? (text : List Char) : Option IpAddress :=
  match four? text with
  | some ((a, b, c, d), []) => some (v4 a b c d)
  | _ => none

/-- The address that a text denotes in strict form. -/
def parse? (text : String) : Option IpAddress :=
  (parseV4? text.toList).or (parseV6? text.toList)

/-- A number in base ten, in base eight after a zero, or in base sixteen after a zero and an x. -/
def anyBase? : List Char → Option Nat
  | [] => none
  | '0' :: x :: rest =>
    let (base, body) := if x = 'x' ∨ x = 'X' then (16, rest) else (8, x :: rest)
    let (ns, after) := digits base body
    if ns ≠ [] ∧ after = [] then some (ofDigits base ns) else none
  | text =>
    let (ns, after) := digits 10 text
    if ns ≠ [] ∧ after = [] then some (ofDigits 10 ns) else none

/-- The number of 32 bits made of one to four parts; the last part fills all bytes that are left. -/
def ofParts? : List Nat → Option Nat
  | [a] => if a < 0x100000000 then some a else none
  | [a, b] => if a < 256 ∧ b < 0x1000000 then some (a * 0x1000000 + b) else none
  | [a, b, c] =>
    if a < 256 ∧ b < 256 ∧ c < 0x10000 then some (a * 0x1000000 + b * 0x10000 + c) else none
  | [a, b, c, d] =>
    if a < 256 ∧ b < 256 ∧ c < 256 ∧ d < 256 then
      some (a * 0x1000000 + b * 0x10000 + c * 0x100 + d)
    else none
  | _ => none

/-- The version 4 address with the given 32 bits. -/
def ofBits (n : Nat) : IpAddress :=
  v4 (UInt8.ofNat (n / 0x1000000)) (UInt8.ofNat (n / 0x10000)) (UInt8.ofNat (n / 0x100)) (UInt8.ofNat n)

/-! ## Scopes -/

/-- Whether a version 6 address is good on one network only, for one host or for several. -/
def isLinkLocal : IpAddress → Bool
  | v6 groups => groups[0] &&& 0xffc0 = 0xfe80 || groups[0] &&& 0xff0f = 0xff02
  | v4 .. => false

/-- The name of the interface that every host has. -/
def loopback : List Char := "lo".toList

/-- Whether a text names a scope in which the address is good: a number of 32 bits or, if the address is
good on one network only, an interface. -/
def isScope (ip : IpAddress) (text : List Char) : Bool :=
  let (ns, after) := digits 10 text
  (ns ≠ [] && after = [] && ofDigits 10 ns < 0x100000000) || (ip.isLinkLocal && text = loopback)

/-- The version 6 address in a text, without the scope after a percent sign. -/
def scoped? (text : List Char) : Option IpAddress := do
  let (front, scope) ← Pieces.cut? '%' text
  let ip ← parseV6? front
  if ip.isScope scope then return ip else none

/-- The address that a text denotes, in strict form, with a scope, or in an old short form of
version 4. -/
def literal? (text : String) : Option IpAddress :=
  match (parse? text).or (scoped? text.toList) with
  | some a => some a
  | none => do
    let parts ← (Pieces.split '.' text.toList).mapM anyBase?
    return ofBits (← ofParts? parts)

end IpAddress

end BlobDisk
