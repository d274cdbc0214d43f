import BlobDisk.Text.Composite
import BlobDisk.Text.Mark

/-!
# The composed form of a text

A text may write a letter and its marks as one character or as several, and the marks in more than one
order. `Composed.form` writes all such texts in the same way: as few characters as there are, and marks
in the order of their classes. It holds of texts without characters that merely repeat another one.
-/

namespace BlobDisk.Composed

/-- A character in its smallest parts; composites are nested three deep at most. -/
def parts : Nat → Char → List Char
  | 0, c => [c]
  | fuel + 1, c =>
    match Composite.parts? c with
    | some (a, b) => parts fuel a ++ [b]
    | none => [c]

/-- A mark put into its place among the marks before it, which stand backwards: behind those of its
own class and of lower ones. -/
def insert (c : Char) : List Char → List Char
  | [] => [c]
  | d :: rest =>
    if Mark.order c ≠ 0 ∧ Mark.order c < Mark.order d then d :: insert c rest else c :: d :: rest

/-- The text with the marks of each character in the order of their classes. -/
def ordered (text : List Char) : List Char :=
  (text.foldl (fun done c => insert c done) []).reverse

/-- The text with what can be composed composed: `start` is the last character that takes marks, and
`held` are the marks after it that it did not take, backwards. -/
def join (start : Option Char) (held : List Char) : List Char → List Char
  | [] => start.toList ++ held.reverse
  | c :: rest =>
    let isFree : Bool := match held with
      | [] => true
      | d :: _ => Mark.order d < Mark.order c
    match start.bind fun s => if isFree then Composite.whole? s c else none with
    | some whole => join (some whole) held rest
    | none =>
      if Mark.order c = 0 then start.toList ++ held.reverse ++ join (some c) [] rest
      else join start (c :: held) rest

/-- The composed form of a text. A text of ASCII is composed. -/
def form (text : List Char) : List Char :=
  if text.all fun c => c.toNat < 128 then text
  else join none [] (ordered (text.flatMap (parts 3)))

end BlobDisk.Composed
