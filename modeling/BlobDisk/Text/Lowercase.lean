import BlobDisk.Text.Casing

/-!
# Lower case

`Lowercase.text` writes a text in lower case by the Unicode mappings. A sigma at the end of a word has
a form of its own, and a capital I with a dot becomes two characters.
-/

namespace BlobDisk.Lowercase

/-- Whether the next character that counts is a capital or a small letter. -/
def reachesLetter (text : List Char) : Bool :=
  match text.dropWhile Casing.isIgnorable with
  | c :: _ => Casing.isCased c
  | [] => false

/-- The small form of a character, given the text before it, backwards, and after it. -/
def char (before after : List Char) (c : Char) : List Char :=
  if c = '\u03A3' then
    [if reachesLetter before && !reachesLetter after then '\u03C2' else '\u03C3']
  else if c = '\u0130' then ['i', '\u0307']
  else [Casing.small c]

/-- The text in lower case, where `before` is what stands before it, backwards. -/
def chars (before : List Char) : List Char → List Char
  | [] => []
  | c :: rest => char before rest c ++ chars (c :: before) rest

/-- The text in lower case. -/
def text (s : String) : String := String.ofList (chars [] s.toList)

end BlobDisk.Lowercase
