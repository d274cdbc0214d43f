/-!
# UTF-8

* `Utf8.encode`: the bytes of a text;
* `Utf8.decodeLossy`: the text of any bytes, where each longest part that starts a character and
  cannot be finished becomes one replacement character;
* `Utf8.decode?`: the text of bytes that hold nothing but characters.
-/

namespace BlobDisk.Utf8

/-- The character that stands for bytes that are no text. -/
def replacement : Char := '\uFFFD'

/-- The bytes of a text. -/
def encode (text : List Char) : List UInt8 := text.flatMap String.utf8EncodeChar

/-- A byte that continues a character. -/
def isContinuation (b : UInt8) : Bool := 0x80 ≤ b && b ≤ 0xBF

/-- The six bits that a continuation byte carries. -/
def low (b : UInt8) : Nat := b.toNat % 64

/-- What the front of the bytes holds: a character, or `none` for a part of `length` bytes that is
no character and has no longer part that could start one. -/
structure Step where
  char? : Option Char
  length : Nat
deriving Repr, DecidableEq

/-- The part that starts with `first`, of three bytes when well formed. The range of the second byte
excludes surrogates and needless length. -/
def threeBytes (first : UInt8) : List UInt8 → Step
  | second :: rest =>
    let lo : UInt8 := if first = 0xE0 then 0xA0 else 0x80
    let hi : UInt8 := if first = 0xED then 0x9F else 0xBF
    if lo ≤ second ∧ second ≤ hi then
      match rest with
      | third :: _ =>
        if isContinuation third then
          ⟨some (Char.ofNat (first.toNat % 16 * 4096 + low second * 64 + low third)), 3⟩
        else ⟨none, 2⟩
      | [] => ⟨none, 2⟩
    else ⟨none, 1⟩
  | [] => ⟨none, 1⟩

/-- The part that starts with `first`, of four bytes when well formed. The range of the second byte
excludes needless length and numbers above those of characters. -/
def fourBytes (first : UInt8) : List UInt8 → Step
  | second :: rest =>
    let lo : UInt8 := if first = 0xF0 then 0x90 else 0x80
    let hi : UInt8 := if first = 0xF4 then 0x8F else 0xBF
    if lo ≤ second ∧ second ≤ hi then
      match rest with
      | third :: more =>
        if isContinuation third then
          match more with
          | fourth :: _ =>
            if isContinuation fourth then
              ⟨some (Char.ofNat (first.toNat % 8 * 262144 + low second * 4096 + low third * 64
                + low fourth)), 4⟩
            else ⟨none, 3⟩
          | [] => ⟨none, 3⟩
        else ⟨none, 2⟩
      | [] => ⟨none, 2⟩
    else ⟨none, 1⟩
  | [] => ⟨none, 1⟩

/-- The part at the front of the bytes `first :: rest`. -/
def step (first : UInt8) (rest : List UInt8) : Step :=
  if first < 0x80 then ⟨some (Char.ofNat first.toNat), 1⟩
  else if 0xC2 ≤ first ∧ first ≤ 0xDF then
    match rest with
    | second :: _ =>
      if isContinuation second then ⟨some (Char.ofNat (first.toNat % 32 * 64 + low second)), 2⟩
      else ⟨none, 1⟩
    | [] => ⟨none, 1⟩
  else if 0xE0 ≤ first ∧ first ≤ 0xEF then threeBytes first rest
  else if 0xF0 ≤ first ∧ first ≤ 0xF4 then fourBytes first rest
  else ⟨none, 1⟩

/-- The parts of the bytes in order, each a character or `none`. -/
def parts : List UInt8 → List (Option Char)
  | [] => []
  | first :: rest =>
    let s := step first rest
    s.char? :: parts (rest.drop (s.length - 1))
termination_by bytes => bytes.length
decreasing_by
  rw [List.length_drop, List.length_cons]
  omega

/-- The text of the bytes, with a replacement character for each part that is none. -/
def decodeLossy (bytes : List UInt8) : List Char :=
  (parts bytes).map fun c => c.getD replacement

/-- The text of the bytes, if they hold nothing but characters. -/
def decode? (bytes : List UInt8) : Option (List Char) := (parts bytes).mapM id

end BlobDisk.Utf8
