/-!
# A place in a YAML text

A cursor holds the text that is still to be read and how far it is into it: the characters so far, the
line, and the column. Line breaks are line feeds, carriage returns, both together, and the three
separators of Unicode; all but two of those are read as a line feed.
-/

namespace BlobDisk.Yaml

/-- Whether the character ends a line. -/
def isBreak (c : Char) : Bool :=
  c = '\n' || c = '\r' || c = '\u0085' || c = '\u2028' || c = '\u2029'

/-- Whether the character is a space or a tab. -/
def isBlank (c : Char) : Bool := c = ' ' || c = '\t'

/-- Whether the character may stand in a text at all. -/
def isPrintable (c : Char) : Bool :=
  let n := c.toNat
  n = 9 || n = 10 || n = 13 || (0x20 ≤ n && n ≤ 0x7E) || n = 0x85 || (0xA0 ≤ n && n ≤ 0xD7FF)
    || (0xE000 ≤ n && n ≤ 0xFFFD) || 0x10000 ≤ n

/-- Whether the character may stand in the name of an anchor or a directive. -/
def isNameChar (c : Char) : Bool := c.isAlphanum || c = '_' || c = '-'

/-- The text that is still to be read, and how far it is into the whole. -/
structure Cursor where
  rest : List Char
  index : Nat := 0
  line : Nat := 0
  column : Nat := 0

namespace Cursor

/-- The character at a distance. -/
def peek? (c : Cursor) (n : Nat) : Option Char := c.rest[n]?

/-- Whether the given character stands at a distance. -/
def isAt (c : Cursor) (n : Nat) (ch : Char) : Bool := c.peek? n = some ch

/-- Whether one of the given characters stands at a distance. -/
def isOneOfAt (c : Cursor) (n : Nat) (chars : String) : Bool :=
  match c.peek? n with
  | some ch => chars.toList.contains ch
  | none => false

/-- Whether the text ends here. -/
def atEnd (c : Cursor) : Bool := c.rest.isEmpty

/-- Whether a line break stands at a distance. -/
def breakAt (c : Cursor) (n : Nat) : Bool :=
  match c.peek? n with
  | some ch => isBreak ch
  | none => false

/-- Whether a space or a tab stands at a distance. -/
def blankAt (c : Cursor) (n : Nat) : Bool :=
  match c.peek? n with
  | some ch => isBlank ch
  | none => false

/-- Whether a blank, a line break or the end stands at a distance. -/
def gapAt (c : Cursor) (n : Nat) : Bool :=
  match c.peek? n with
  | some ch => isBlank ch || isBreak ch
  | none => true

/-- Whether a line break or the end stands here. -/
def atLineEnd (c : Cursor) : Bool := c.breakAt 0 || c.atEnd

/-- The cursor after `n` characters of the line. -/
def skip (c : Cursor) (n : Nat) : Cursor :=
  { c with rest := c.rest.drop n, index := c.index + n, column := c.column + n }

/-- The cursor after the characters of the line that satisfy a test, and those characters. -/
def span (c : Cursor) (p : Char → Bool) : List Char × Cursor :=
  let front := c.rest.takeWhile p
  (front, c.skip front.length)

/-- The cursor after a line break, and the break as it is read. -/
def lineBreak (c : Cursor) : List Char × Cursor :=
  let next (n : Nat) : Cursor :=
    { rest := c.rest.drop n, index := c.index + n, line := c.line + 1, column := 0 }
  match c.rest with
  | '\r' :: '\n' :: _ => (['\n'], next 2)
  | ch :: _ =>
    if ch = '\u2028' ∨ ch = '\u2029' then ([ch], next 1)
    else if isBreak ch then (['\n'], next 1)
    else ([], c)
  | [] => ([], c)

/-- Whether a mark of three characters that bounds a document stands here. -/
def atBoundary (c : Cursor) : Bool :=
  c.column = 0 && c.gapAt 3 &&
    (((c.rest.take 3) = ['-', '-', '-']) || ((c.rest.take 3) = ['.', '.', '.']))

end Cursor

end BlobDisk.Yaml
