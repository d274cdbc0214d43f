import BlobDisk.Yaml.Cursor
import BlobDisk.Text.Decimal

/-!
# Scalars of YAML

A scalar is plain, quoted, or a block. In plain and quoted scalars a line break counts as a space,
and further breaks after it as themselves.

* `Scalar.quoted?`, `Scalar.plain?`, `Scalar.block?`: the text of a scalar, and the cursor after it.
-/

namespace BlobDisk.Yaml.Scalar

/-- The blanks and line breaks between two parts of a scalar. -/
structure Gap where
  /-- The blanks, if there is no line break, the last first. -/
  blanks : List Char := []
  /-- The first line break. -/
  first : List Char := []
  /-- All other line breaks, the last first. -/
  more : List Char := []
  /-- Whether there is a line break. -/
  broken : Bool := false

/-- What a gap counts as. -/
def Gap.text (g : Gap) : List Char :=
  if g.broken then
    if g.first = ['\n'] then (if g.more = [] then [' '] else g.more.reverse)
    else g.first ++ g.more.reverse
  else g.blanks.reverse

/-- The gap that goes on here, and the cursor after it. A tab may not stand where a line is not yet
indented to `indent`, if that is given. -/
def gap? (indent : Option Nat) : Nat → Gap → Cursor → Option (Gap × Cursor)
  | 0, _, _ => none
  | fuel + 1, g, c =>
    match c.rest with
    | ch :: _ =>
      if isBlank ch then
        if g.broken ∧ ch = '\t' ∧ indent.any (fun i => c.column < i) then none
        else
          let g := if g.broken then g else { g with blanks := ch :: g.blanks }
          gap? indent fuel g (c.skip 1)
      else if isBreak ch then
        let (text, next) := c.lineBreak
        let g := if g.broken then { g with more := text.reverse ++ g.more }
          else { g with blanks := [], first := text, broken := true }
        gap? indent fuel g next
      else some (g, c)
    | [] => some (g, c)

/-! ## Quoted scalars -/

/-- The character that a letter after a backslash stands for. -/
def escape? (c : Char) : Option Char :=
  match c with
  | '0' => some '\x00'
  | 'a' => some '\x07'
  | 'b' => some '\x08'
  | 't' => some '\t'
  | '\t' => some '\t'
  | 'n' => some '\n'
  | 'v' => some '\x0b'
  | 'f' => some '\x0c'
  | 'r' => some '\r'
  | 'e' => some '\x1b'
  | ' ' => some ' '
  | '"' => some '"'
  | '/' => some '/'
  | '\\' => some '\\'
  | 'N' => some '\u0085'
  | '_' => some '\u00a0'
  | 'L' => some '\u2028'
  | 'P' => some '\u2029'
  | _ => none

/-- How many digits follow a letter that announces the number of a character. -/
def escapeWidth? (c : Char) : Option Nat :=
  match c with
  | 'x' => some 2
  | 'u' => some 4
  | 'U' => some 8
  | _ => none

/-- The value of a digit in base sixteen. -/
def hex? (c : Char) : Option Nat :=
  if c.isDigit then some (c.toNat - 48)
  else if 'a' ≤ c ∧ c ≤ 'f' then some (c.toNat - 87)
  else if 'A' ≤ c ∧ c ≤ 'F' then some (c.toNat - 55)
  else none

/-- The character with the number that digits denote. -/
def numbered? (digits : List Char) : Option Char := do
  let values ← digits.mapM hex?
  let n := values.foldl (fun n d => n * 16 + d) 0
  if (0xD800 ≤ n ∧ n < 0xE000) ∨ 0x10FFFF < n then none else some (Char.ofNat n)

/-- A character that is escaped, after its backslash, and the cursor after it. -/
def escaped? (c : Cursor) : Option (Char × Cursor) := do
  let letter ← c.peek? 0
  match escapeWidth? letter with
  | some width =>
    let digits := (c.rest.drop 1).take width
    if digits.length = width then return (← numbered? digits, c.skip (1 + width)) else none
  | none => return (← escape? letter, c.skip 1)

/-- The text up to the closing quote, and the cursor after the quote; `done` is the text so far, the last
character first. -/
def quotedBody? (single : Bool) : Nat → List Char → Cursor → Option (List Char × Cursor)
  | 0, _, _ => none
  | fuel + 1, done, c =>
    if c.atBoundary then none
    else
      match c.rest with
      | [] => none
      | ch :: _ =>
        if isBlank ch ∨ isBreak ch then do
          let (g, c) ← gap? none (fuel + 1) {} c
          quotedBody? single fuel (g.text.reverse ++ done) c
        else if single then
          if ch = '\'' then
            if c.isAt 1 '\'' then quotedBody? single fuel ('\'' :: done) (c.skip 2)
            else some (done.reverse, c.skip 1)
          else quotedBody? single fuel (ch :: done) (c.skip 1)
        else if ch = '"' then some (done.reverse, c.skip 1)
        else if ch = '\\' then
          if c.breakAt 1 then do
            let (_, next) := (c.skip 1).lineBreak
            let (g, c) ← gap? none (fuel + 1) { broken := true } next
            quotedBody? single fuel (g.text.reverse ++ done) c
          else do
            let (ch, c) ← escaped? (c.skip 1)
            quotedBody? single fuel (ch :: done) c
        else quotedBody? single fuel (ch :: done) (c.skip 1)

/-- A quoted scalar that starts here. -/
def quoted? (single : Bool) (c : Cursor) : Option (String × Cursor) :=
  (quotedBody? single (c.rest.length + 1) [] (c.skip 1)).map fun (text, c) => (String.ofList text, c)

/-! ## Plain scalars -/

/-- Whether a plain scalar ends before the character here. -/
def endsPlain (flow : Bool) (c : Cursor) : Bool :=
  (c.isAt 0 ':' && c.gapAt 1) || (flow && c.isOneOfAt 0 ",[]\x7b\x7d")

/-- The characters of a plain scalar up to a gap or its end; `done` holds those so far, the last
first. -/
def plainRun? (flow : Bool) : Nat → List Char → Cursor → Option (List Char × Cursor)
  | 0, _, _ => none
  | fuel + 1, done, c =>
    match c.rest with
    | [] => some (done.reverse, c)
    | ch :: _ =>
      if isBlank ch ∨ isBreak ch then some (done.reverse, c)
      else if flow ∧ ch = ':' ∧ c.isOneOfAt 1 ",?[]\x7b\x7d" then none
      else if endsPlain flow c then some (done.reverse, c)
      else plainRun? flow fuel (ch :: done) (c.skip 1)

/-- The text of a plain scalar, the cursor after it and its gap, and whether that gap has a line
break. `done` is the text so far, the last character first, and `before` the gap before the next
part. -/
def plainBody? (flow : Bool) (indent : Nat) :
    Nat → List Char → Gap → Cursor → Option (List Char × Cursor × Bool)
  | 0, _, _, _ => none
  | fuel + 1, done, before, c =>
    if c.atBoundary ∨ c.isAt 0 '#' then some (done.reverse, c, before.broken)
    else do
      let (run, next) ← plainRun? flow (fuel + 1) [] c
      let (done, before) :=
        if run = [] then (done, before) else (run.reverse ++ (before.text.reverse ++ done), {})
      if next.blankAt 0 ∨ next.breakAt 0 then
        let (g, after) ← gap? (some indent) (fuel + 1) before next
        if flow = false ∧ after.column < indent then return (done.reverse, after, g.broken)
        else plainBody? flow indent fuel done g after
      else return (done.reverse, next, before.broken)

/-- A plain scalar that starts here; the lines that continue it are indented to `indent`, unless it is
in a flow collection. The flag says that a line break follows it. -/
def plain? (flow : Bool) (indent : Nat) (c : Cursor) : Option (String × Cursor × Bool) :=
  (plainBody? flow indent (c.rest.length + 1) [] {} c).map fun (text, c, broken) =>
    (String.ofList text, c, broken)

/-! ## Blocks -/

/-- What becomes of the line breaks at the end of a block. -/
inductive Chomping
  | strip
  | clip
  | keep
deriving DecidableEq

/-- The signs after the mark of a block: what becomes of its end, and how far it is indented. -/
def blockHead? (c : Cursor) : Option (Chomping × Option Nat × Cursor) :=
  let sign? (c : Cursor) : Option Chomping :=
    if c.isAt 0 '+' then some .keep else if c.isAt 0 '-' then some .strip else none
  let digit? (c : Cursor) : Option Nat := (c.peek? 0).bind fun ch =>
    if ch.isDigit then some (ch.toNat - 48) else none
  let finish (chomping : Chomping) (indent : Option Nat) (c : Cursor) :
      Option (Chomping × Option Nat × Cursor) :=
    if indent = some 0 then none else some (chomping, indent, c)
  match sign? c with
  | some chomping =>
    let c := c.skip 1
    match digit? c with
    | some n => finish chomping (some n) (c.skip 1)
    | none => finish chomping none c
  | none =>
    match digit? c with
    | some n =>
      let c := c.skip 1
      match sign? c with
      | some chomping => finish chomping (some n) (c.skip 1)
      | none => finish .clip (some n) c
    | none => finish .clip none c

/-- The rest of the line with the mark of a block, which holds nothing but a comment. -/
def blockLineEnd? (c : Cursor) : Option Cursor :=
  let (_, c) := c.span isBlank
  let c := if c.isAt 0 '#' then (c.span fun ch => !isBreak ch).2 else c
  if c.atLineEnd then some c.lineBreak.2 else none

/-- Empty lines of a block, and the cursor at the next line that is not; `indent` is zero while it is
not known. Answers also the most columns that a line has. `breaks` holds the line breaks so far, the
last first. -/
def blockBreaks? (indent : Nat) : Nat → List Char → Nat → Cursor → Option (List Char × Nat × Cursor)
  | 0, _, _, _ => none
  | fuel + 1, breaks, most, c =>
    let room := if indent = 0 then c.rest.length else indent - c.column
    let spaces := ((c.rest.takeWhile (· = ' ')).take room).length
    let c := c.skip spaces
    let most := max most c.column
    if (indent = 0 ∨ c.column < indent) ∧ c.isAt 0 '\t' then none
    else if c.breakAt 0 then
      let (text, next) := c.lineBreak
      blockBreaks? indent fuel (text.reverse ++ breaks) most next
    else some (breaks.reverse, most, c)

/-- The text of a block. `done` is the text so far, the last character first, `pending` the break after
the last line, `breaks` those of empty lines after it, and `led` says whether the last line starts with
a blank. -/
def blockBody? (literal : Bool) (chomping : Chomping) (indent : Nat) :
    Nat → List Char → List Char → List Char → Bool → Cursor → Option (List Char × Cursor)
  | 0, _, _, _, _, _ => none
  | fuel + 1, done, pending, breaks, led, c =>
    if c.column = indent ∧ c.atEnd = false then do
      let blank := c.blankAt 0
      let joint :=
        if literal = false ∧ pending = ['\n'] ∧ led = false ∧ blank = false then
          (if breaks = [] then [' '] else [])
        else pending
      let (line, next) := c.span fun ch => !isBreak ch
      let (pending', next) := next.lineBreak
      let (breaks', _, next) ← blockBreaks? indent (fuel + 1) [] 0 next
      let done := line.reverse ++ (breaks.reverse ++ (joint.reverse ++ done))
      blockBody? literal chomping indent fuel done pending' breaks' blank next
    else
      match chomping with
      | .strip => some (done.reverse, c)
      | .clip => some (done.reverse ++ pending, c)
      | .keep => some (done.reverse ++ pending ++ breaks, c)

/-- A block that starts here; `parent` is one more than the column of the block around it. -/
def block? (literal : Bool) (parent : Nat) (c : Cursor) : Option (String × Cursor) := do
  let (chomping, given, c) ← blockHead? (c.skip 1)
  let c ← blockLineEnd? c
  let known := match given with
    | some n => if parent = 0 then n else parent - 1 + n
    | none => 0
  let (breaks, most, c) ← blockBreaks? known (c.rest.length + 1) [] 0 c
  let indent := if known = 0 then max (max most parent) 1 else known
  let (text, c) ← blockBody? literal chomping indent (c.rest.length + 1) [] [] breaks false c
  return (String.ofList text, c)

end BlobDisk.Yaml.Scalar
