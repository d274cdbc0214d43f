import BlobDisk.Text.Composed
import BlobDisk.Text.Direction
import BlobDisk.Text.Joining
import BlobDisk.Text.Pieces
import BlobDisk.Url.NameForm
import BlobDisk.Url.Punycode

/-!
# Names of hosts

A name is made of labels between full stops. Labels may hold characters of any script; in ASCII, such a
label starts with `xn--` and is written as numbers.

* `Domain.ascii?`: the ASCII form of a name; none if the name is not well-formed.
-/

namespace BlobDisk.Domain

/-- The characters of ASCII that no name may hold: controls, the space, and characters with a meaning in
addresses. -/
def isForbidden (c : Char) : Bool :=
  c.toNat ≤ 0x20 || c = '\x7F' || "#/:<>?@[\\]^|%".toList.contains c

/-! ## Labels -/

/-- What an encoded label starts with. -/
def mark : List Char := "xn--".toList

/-- The longest encoded label that is read. -/
def longestRead : Nat := 2000

/-- The longest label that is encoded. -/
def longestWritten : Nat := 1000

/-- The label that numbers denote. It has to be one that is encoded in just that way: it holds a
character beyond ASCII and is in the form that names are written in. -/
def decoded? (text : List Char) : Option (List Char) := do
  if text = [] ∨ text.getLast? = some '-' ∨ longestRead < text.length then none
  let label ← Punycode.decode? text
  if label.all NameForm.isFinal && !label.any isForbidden && !label.contains '.'
      && Composed.form label = label then
    return label
  else none

/-- The label in its own script. -/
def label? (label : List Char) : Option (List Char) :=
  if label.take 4 = mark then decoded? (label.drop 4) else some label

/-- The label in ASCII. -/
def encoded? (label : List Char) : Option (List Char) :=
  if label.all fun c => c.toNat < 128 then some label
  else if longestWritten < label.length then none
  else some (mark ++ Punycode.encode label)

/-! ## Joiners -/

/-- Whether the next letter of the text is joined on one of the sides. -/
def isJoined (sides : List Joining) (text : List Char) : Bool :=
  match text.dropWhile fun c => Joining.of? c = some .passed with
  | c :: _ => (Joining.of? c).any sides.contains
  | [] => false

/-- Whether the two characters without width that join letters or keep them apart stand only where they
make a difference: after a sign that takes the vowel from a letter or, to keep letters apart, between
letters that would be joined. `before` is the label before the text, backwards. -/
def joinersFit (before : List Char) : List Char → Bool
  | [] => true
  | c :: rest =>
    (if c = '\u200C' ∨ c = '\u200D' then
      before.head?.any (fun d => Mark.order d = Mark.virama)
        || (c = '\u200C' && isJoined [.left, .both] before && isJoined [.right, .both] rest)
    else true) && joinersFit (c :: before) rest

/-- Whether the label starts with a character that can stand alone and its joiners fit. -/
def isWellFormed (label : List Char) : Bool := !label.head?.any Mark.isMark && joinersFit [] label

/-! ## Directions -/

/-- Whether the label holds a character that is written from the right. -/
def isRightward (label : List Char) : Bool :=
  label.any fun c => 128 ≤ c.toNat && [.right, .arabicNumber].contains (Direction.of c)

/-- Whether a label can stand next to labels of the other direction and still be read in only one way.
It starts with a letter, and its other characters go with the direction of that letter. Marks at its
end do not count. -/
def fitsDirection (label : List Char) : Bool :=
  match label.map Direction.of with
  | [] => true
  | first :: rest =>
    let back := rest.reverse.dropWhile (· = .mark)
    let goes (last all : List Direction) : Bool := back.head?.all last.contains && back.all all.contains
    match first with
    | .left => goes [.left, .number] [.left, .number, .neutral, .mark]
    | .right =>
      goes [.right, .number, .arabicNumber] [.right, .number, .arabicNumber, .neutral, .mark]
        && !(back.contains .number && back.contains .arabicNumber)
    | _ => false

/-! ## Names -/

/-- A name in the form that names are written in, if it holds no character that no name may hold. -/
def form? (name : List Char) : Option (List Char) := do
  let form := Composed.form (← name.mapM NameForm.of?).flatten
  if form.any isForbidden then none else some form

/-- The ASCII form of a name; none if the name is not well-formed. -/
def ascii? (name : List Char) : Option (List Char) := do
  let labels := Pieces.split '.' (← form? name)
  let read ← labels.mapM label?
  if read.all isWellFormed && (!read.any isRightward || read.all fitsDirection) then
    return ['.'].intercalate (← labels.mapM encoded?)
  else none

end BlobDisk.Domain
