import BlobDisk.Text.Utf8
import BlobDisk.Yaml.Scalar
import BlobDisk.Yaml.Token

/-!
# The tokens of a YAML text

The tokens of a text follow from what stands in it, from the columns of its lines, and from which
texts may be keys. A key is known only by the colon after it: until then its place among the tokens is
kept, one for each open bracket. It has to be on the line of its colon and at most 1024 characters
before it.

* `Lexer.next?`: the lexer after one more token of the text;
* `Token.ofText?`: the tokens of a text, none if it is not well-formed.
-/

namespace BlobDisk.Yaml

/-- A place where a key may start. -/
structure KeyStart where
  /-- Whether nothing but a key can stand there. -/
  required : Bool
  /-- How many tokens come before it. -/
  place : Nat
  index : Nat
  line : Nat
  column : Nat

/-- What is left of the text, the tokens so far, and what the next one depends on. -/
structure Lexer where
  cursor : Cursor
  /-- The tokens so far, the last first. -/
  tokens : List Token := []
  /-- The columns of the open blocks, the innermost first. -/
  columns : List Nat := []
  /-- Whether a key may start here. -/
  keyAllowed : Bool := true
  /-- The last place where a key may start. -/
  keyStart : Option KeyStart := none
  /-- The same for what is around each open bracket, the innermost first. -/
  outer : List (Option KeyStart) := []

namespace Lexer

/-- Whether a bracket is open. -/
def inFlow (l : Lexer) : Bool := !l.outer.isEmpty

/-- The first column inside the innermost block. -/
def inner (l : Lexer) : Nat :=
  match l.columns with
  | column :: _ => column + 1
  | [] => 0

/-- Adds a token. -/
def push (l : Lexer) (t : Token) : Lexer := { l with tokens := t :: l.tokens }

/-- The tokens with one more after the first `place` of them. -/
def insert (l : Lexer) (place : Nat) (t : Token) : List Token :=
  let later := l.tokens.length - place
  l.tokens.take later ++ t :: l.tokens.drop later

/-- Adds a token for characters of the line. -/
def pushMark (l : Lexer) (length : Nat) (t : Token) : Lexer :=
  { l.push t with cursor := l.cursor.skip length }

/-! ## Blocks and keys -/

/-- Closes the blocks for which a test on their column holds. -/
def closeBlocks (l : Lexer) (p : Nat → Bool) : Lexer :=
  if l.inFlow then l
  else
    { l with
      columns := l.columns.dropWhile p
      tokens := (l.columns.takeWhile p).map (fun _ => Token.blockEnd) ++ l.tokens }

/-- Opens a block at a column, unless one is open there; its start goes before the tokens after a
place. -/
def openBlock (l : Lexer) (column place : Nat) (start : Token) : Lexer :=
  if l.inFlow ∨ column < l.inner then l
  else
    { l with
      columns := column :: l.columns
      tokens := l.insert place start }

/-- Gives up the place where a key may start; none if a key had to stand there. -/
def dropKey? (l : Lexer) : Option Lexer :=
  if l.keyStart.any KeyStart.required then none else some { l with keyStart := none }

/-- Keeps the place as one where a key may start. -/
def saveKey? (l : Lexer) : Option Lexer :=
  if l.keyAllowed then do
    let l ← l.dropKey?
    return { l with
      keyStart := some {
        required := !l.inFlow && l.columns.head? = some l.cursor.column
        place := l.tokens.length
        index := l.cursor.index
        line := l.cursor.line
        column := l.cursor.column } }
  else some l

/-- Whether a colon here is too far from the start of a key. -/
def isStale (c : Cursor) (k : KeyStart) : Bool := k.line < c.line || k.index + 1024 < c.index

/-- The places without those that are too far away; none if a key had to stand at one. -/
def fresh? (c : Cursor) (place : Option KeyStart) : Option (Option KeyStart) :=
  match place with
  | some k => if isStale c k then (if k.required then none else some none) else some (some k)
  | none => some none

/-- Gives up the places that are too far away. -/
def dropStale? (l : Lexer) : Option Lexer := do
  return { l with
    keyStart := ← fresh? l.cursor l.keyStart, outer := ← l.outer.mapM (fresh? l.cursor) }

/-! ## Between tokens -/

/-- Skips blanks, comments and line breaks. A tab is no blank where a key may start. -/
def skipGap : Nat → Lexer → Lexer
  | 0, l => l
  | fuel + 1, l =>
    let c := l.cursor
    let c := if c.column = 0 ∧ c.isAt 0 '\ufeff' then c.skip 1 else c
    let c := (c.span fun ch => ch = ' ' || (ch = '\t' && (l.inFlow || !l.keyAllowed))).2
    let c := if c.isAt 0 '#' then (c.span fun ch => !isBreak ch).2 else c
    if c.breakAt 0 then
      skipGap fuel
        { l with cursor := c.lineBreak.2, keyAllowed := l.keyAllowed || !l.inFlow }
    else { l with cursor := c }

/-! ## Directives, anchors and tags -/

/-- The cursor after the blanks of the line. -/
def afterBlanks (c : Cursor) : Cursor := (c.span isBlank).2

/-- A number of at most nine digits. -/
def number? (c : Cursor) : Option (Nat × Cursor) :=
  let (digits, c) := c.span Char.isDigit
  if digits.length ≤ 9 then (Decimal.digits? digits).map fun n => (n, c) else none

/-- An octet by its number, after a percent sign. -/
def octet? (c : Cursor) : Option UInt8 :=
  match c.rest with
  | '%' :: high :: low :: _ => do
    return UInt8.ofNat ((← Scalar.hex? high) * 16 + (← Scalar.hex? low))
  | _ => none

/-- How many octets the character has whose first octet is given. -/
def octetCount? (first : UInt8) : Option Nat :=
  if first < 0x80 then some 1
  else if 0xC0 ≤ first ∧ first < 0xE0 then some 2
  else if 0xE0 ≤ first ∧ first < 0xF0 then some 3
  else if 0xF0 ≤ first ∧ first < 0xF8 then some 4
  else none

/-- A character written as octets by their numbers. -/
def octets? (c : Cursor) : Option (List Char × Cursor) := do
  let first ← octet? c
  let count ← octetCount? first
  let octets ← (List.range count).mapM fun i => octet? (c.skip (3 * i))
  if (octets.drop 1).all fun o => 0x80 ≤ o && o < 0xC0 then
    return (Utf8.decodeLossy octets, c.skip (3 * count))
  else none

/-- Whether the character may stand in a tag; some may only between angle brackets. -/
def inTag (bracketed : Bool) (c : Char) : Bool :=
  isNameChar c || ";/?:@&=+$.%!~*'()".toList.contains c || (bracketed && ",[]".toList.contains c)

/-- The characters of a tag. -/
def tagText? (bracketed : Bool) : Nat → List Char → Cursor → Option (List Char × Cursor)
  | 0, _, _ => none
  | fuel + 1, done, c =>
    match c.peek? 0 with
    | some ch =>
      if inTag bracketed ch = false then some (done, c)
      else if ch = '%' then do
        let (text, c) ← octets? c
        tagText? bracketed fuel (done ++ text) c
      else tagText? bracketed fuel (done ++ [ch]) (c.skip 1)
    | none => some (done, c)

/-- The characters of a tag, which are not none. -/
def tagSuffix? (bracketed : Bool) (c : Cursor) : Option (String × Cursor) :=
  (tagText? bracketed (c.rest.length + 1) [] c).bind fun (text, after) =>
    if text = [] then none else some (String.ofList text, after)

/-- A handle: exclamation marks around a name, or one alone. The flag says whether it is closed. -/
def handle? (c : Cursor) : Option (List Char × Bool × Cursor) :=
  if c.isAt 0 '!' then
    let (name, after) := (c.skip 1).span isNameChar
    if after.isAt 0 '!' then some ('!' :: (name ++ ['!']), true, after.skip 1)
    else some ('!' :: name, false, after)
  else none

/-- A tag between angle brackets, with a handle, or with neither. -/
def tag? (c : Cursor) : Option (Tag × Cursor) :=
  if c.isAt 1 '<' then do
    let (suffix, c) ← tagSuffix? true (c.skip 2)
    if c.isAt 0 '>' then return (⟨"", suffix⟩, c.skip 1) else none
  else do
    let (name, closed, after) ← handle? c
    if closed then
      let (suffix, c) ← tagSuffix? false after
      return (⟨String.ofList name, suffix⟩, c)
    else
      let (text, c) ← tagText? false (after.rest.length + 1) (name.drop 1) after
      return (if text = [] then ⟨"", "!"⟩ else ⟨"!", String.ofList text⟩, c)

/-- The name of an anchor, after its mark. -/
def anchorName? (c : Cursor) : Option (String × Cursor) :=
  let (name, c) := (c.skip 1).span isNameChar
  if name ≠ [] ∧ (c.gapAt 0 ∨ c.isOneOfAt 0 "?:,]\x7d%@\x60") then some (String.ofList name, c)
  else none

/-- What a directive says, and the cursor after it. -/
def directive? (c : Cursor) : Option (Token × Cursor) := do
  let (name, c) := (c.skip 1).span isNameChar
  if c.gapAt 0 = false then none
  else if name = "YAML".toList then
    let (major, c) ← number? (afterBlanks c)
    if c.isAt 0 '.' = false then none
    else
      let (minor, c) ← number? (c.skip 1)
      return (.versionDirective major minor, c)
  else if name = "TAG".toList then
    let (handle, closed, c) ← handle? (afterBlanks c)
    if (closed = false ∧ handle ≠ ['!']) ∨ c.blankAt 0 = false then none
    else
      let (start, c) ← tagSuffix? true (afterBlanks c)
      if c.gapAt 0 then return (.tagDirective (String.ofList handle) start, c) else none
  else none

/-! ## Tokens by their first characters -/

/-- The lexer before a token that may start a key. -/
def startKey? (l : Lexer) : Option Lexer := do
  return { ← l.saveKey? with keyAllowed := false }

/-- The lexer before a token that ends all keys and blocks. -/
def endBlocks? (l : Lexer) : Option Lexer := do
  return { ← (l.closeBlocks fun _ => true).dropKey? with keyAllowed := false }

/-- A directive. -/
def directive (l : Lexer) : Option Lexer := do
  let l ← l.endBlocks?
  let (t, c) ← directive? l.cursor
  let c ← Scalar.blockLineEnd? c
  return { l.push t with cursor := c }

/-- A mark that bounds a document. -/
def boundary (l : Lexer) : Option Lexer := do
  let l ← l.endBlocks?
  return l.pushMark 3 (if l.cursor.isAt 0 '-' then .documentStart else .documentEnd)

/-- An opening bracket. -/
def openFlow (l : Lexer) (t : Token) : Option Lexer := do
  let l ← l.saveKey?
  return { l.pushMark 1 t with keyStart := none, outer := l.keyStart :: l.outer, keyAllowed := true }

/-- A closing bracket. -/
def closeFlow (l : Lexer) (t : Token) : Option Lexer := do
  let l := { (← l.dropKey?).pushMark 1 t with keyAllowed := false }
  match l.outer with
  | place :: outer => return { l with keyStart := place, outer }
  | [] => return l

/-- A comma between brackets. -/
def flowEntry (l : Lexer) : Option Lexer := do
  return { (← l.dropKey?).pushMark 1 .flowEntry with keyAllowed := true }

/-- A mark that opens a block at its column, if none is open there; outside of brackets it has to be
where a key may start. -/
def blockMark? (l : Lexer) (start : Token) : Option Lexer :=
  if l.inFlow then some l
  else if l.keyAllowed then some (l.openBlock l.cursor.column l.tokens.length start)
  else none

/-- The hyphen of an entry. -/
def blockEntry (l : Lexer) : Option Lexer := do
  let l ← l.blockMark? .blockSequenceStart
  return { (← l.dropKey?).pushMark 1 .blockEntry with keyAllowed := true }

/-- The question mark of a key. -/
def key (l : Lexer) : Option Lexer := do
  let l ← l.blockMark? .blockMappingStart
  return { (← l.dropKey?).pushMark 1 .key with keyAllowed := !l.inFlow }

/-- The colon of a value, which makes what is before it on the line a key. -/
def value (l : Lexer) : Option Lexer :=
  match l.keyStart with
  | some k =>
    let l := { l with tokens := l.insert k.place .key, keyStart := none }
    let l := l.openBlock k.column k.place .blockMappingStart
    some { l.pushMark 1 .value with keyAllowed := false }
  | none => do
    let l ← l.blockMark? .blockMappingStart
    return { l.pushMark 1 .value with keyAllowed := !l.inFlow }

/-- An anchor, or an alias. -/
def anchor (l : Lexer) (make : String → Token) : Option Lexer := do
  let l ← l.startKey?
  let (name, c) ← anchorName? l.cursor
  return { l.push (make name) with cursor := c }

/-- A tag. -/
def tag (l : Lexer) : Option Lexer := do
  let l ← l.startKey?
  let (t, c) ← tag? l.cursor
  if c.gapAt 0 ∨ (l.inFlow ∧ c.isAt 0 ',') then return { l.push (.tag t) with cursor := c } else none

/-- A block. -/
def block (l : Lexer) (literal : Bool) : Option Lexer := do
  let l ← l.dropKey?
  let (text, c) ← Scalar.block? literal l.inner l.cursor
  return { l.push (.scalar text (if literal then .literal else .folded)) with
    cursor := c, keyAllowed := true }

/-- A scalar in quotes. -/
def quoted (l : Lexer) (single : Bool) : Option Lexer := do
  let l ← l.startKey?
  let (text, c) ← Scalar.quoted? single l.cursor
  return { l.push (.scalar text .quoted) with cursor := c }

/-- A plain scalar. After a line break a key may start. -/
def plain (l : Lexer) : Option Lexer := do
  let l ← l.startKey?
  let (text, c, broken) ← Scalar.plain? l.inFlow l.inner l.cursor
  return { l.push (.scalar text .plain) with cursor := c, keyAllowed := broken }

/-- Whether a plain scalar can start here. -/
def startsPlain (l : Lexer) : Bool :=
  let c := l.cursor
  !(c.gapAt 0 || c.isOneOfAt 0 "-?:,[]\x7b\x7d#&*!|>'\"%@\x60")
    || (c.isAt 0 '-' && !c.blankAt 1) || (!l.inFlow && c.isOneOfAt 0 "?:" && !c.gapAt 1)

/-- The token that starts here. -/
def token? (l : Lexer) : Option Lexer :=
  let c := l.cursor
  if c.column = 0 ∧ c.isAt 0 '%' then l.directive
  else if c.atBoundary then l.boundary
  else
    match c.peek? 0 with
    | none => none
    | some ch =>
      if ch = '[' then l.openFlow .flowSequenceStart
      else if ch = '\x7b' then l.openFlow .flowMappingStart
      else if ch = ']' then l.closeFlow .flowSequenceEnd
      else if ch = '\x7d' then l.closeFlow .flowMappingEnd
      else if ch = ',' then l.flowEntry
      else if ch = '-' ∧ c.gapAt 1 then l.blockEntry
      else if ch = '?' ∧ (l.inFlow ∨ c.gapAt 1) then l.key
      else if ch = ':' ∧ (l.inFlow ∨ c.gapAt 1) then l.value
      else if ch = '*' then l.anchor .again
      else if ch = '&' then l.anchor .anchor
      else if ch = '!' then l.tag
      else if ch = '|' ∧ l.inFlow = false then l.block true
      else if ch = '>' ∧ l.inFlow = false then l.block false
      else if ch = '\'' then l.quoted true
      else if ch = '"' then l.quoted false
      else if l.startsPlain then l.plain
      else none

/-- The lexer before the next token: in front of it, with the blocks closed that end there. -/
def approach? (l : Lexer) : Option Lexer := do
  let l ← (skipGap (l.cursor.rest.length + 1) l).dropStale?
  return l.closeBlocks fun column => l.cursor.column < column

/-- The lexer after one more token of the text. -/
def next? (l : Lexer) : Option Lexer := (l.approach?).bind token?

/-- The tokens up to the end of the text. -/
def run? : Nat → Lexer → Option (List Token)
  | 0, _ => none
  | fuel + 1, l => do
    let l ← l.approach?
    if l.cursor.atEnd then return (← l.endBlocks?).tokens.reverse
    else run? fuel (← l.token?)

end Lexer

/-- The tokens of a text. -/
def Token.ofText? (text : List Char) : Option (List Token) :=
  if text.all isPrintable then Lexer.run? (text.length + 1) { cursor := { rest := text } } else none

end BlobDisk.Yaml
