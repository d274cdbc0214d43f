import BlobDisk.Yaml.Node

/-!
# What scalars denote

A plain scalar can denote nothing, a truth value or a number, by its text; a scalar in quotes is
always text. A tag overrides this for scalars that are literal blocks.

* `Node.text?`, `Node.bool?`, `Node.unsigned?`: the value of a scalar;
* `Node.optional?`: a value that may be nothing.
-/

namespace BlobDisk.Yaml

/-- Whether the text is a word for nothing. -/
def isNull (text : String) : Bool := ["null", "Null", "NULL", "~"].contains text

/-- The truth value that a word denotes. -/
def boolWord? (text : String) : Option Bool :=
  if ["true", "True", "TRUE"].contains text then some true
  else if ["false", "False", "FALSE"].contains text then some false
  else none

/-- The number that digits of a base denote. -/
def digitsIn? (base : Nat) (text : List Char) : Option Nat := do
  let values ← text.mapM Scalar.hex?
  if values ≠ [] ∧ values.all (· < base) then
    return values.foldl (fun n d => n * base + d) 0
  else none

/-- Whether the text is digits after a zero, which is no number. -/
def isPadded (text : List Char) : Bool :=
  match text with
  | '0' :: c :: rest => (c :: rest).all Char.isDigit
  | _ => false

/-- The number below `bound` that a text denotes: an optional plus, then digits in base ten without a
zero before them, or digits in another base after its mark. -/
def unsignedWord? (bound : Nat) (text : String) : Option Nat :=
  let digits := Decimal.dropPlus text.toList
  let number := match digits with
    | '0' :: 'x' :: rest => digitsIn? 16 rest
    | '0' :: 'o' :: rest => digitsIn? 8 rest
    | '0' :: 'b' :: rest => digitsIn? 2 rest
    | _ => if isPadded digits then none else Decimal.digits? digits
  number.filter (· < bound)

namespace Node

/-- The tag of a kind of scalar. -/
def standardTag (kind : String) : String := "tag:yaml.org,2002:" ++ kind

/-- The text of a scalar, however it is written. -/
def text? : Node → Option String
  | scalar _ _ _ text => some text
  | _ => none

/-- The text of a scalar that can denote more than text. -/
def literal? (kind : String) : Node → Option String
  | scalar _ _ .plain text => some text
  | scalar _ tag .literal text => if tag = some (standardTag kind) then some text else none
  | _ => none

/-- The truth value that the node denotes. -/
def bool? (n : Node) : Option Bool := (n.literal? "bool").bind boolWord?

/-- The number below `bound` that the node denotes. -/
def unsigned? (bound : Nat) (n : Node) : Option Nat := (n.literal? "int").bind (unsignedWord? bound)

/-- A value that may be nothing: where a plain scalar without a tag is empty or a word for nothing, or
a word for nothing has the tag for it. -/
def optional? {α : Type} (read : Node → Option α) (n : Node) : Option (Option α) :=
  match n with
  | scalar _ none .plain text =>
    if text = "" ∨ isNull text then some none else (read n).map some
  | scalar _ (some tag) .plain text =>
    if tag = standardTag "null" then (if isNull text then some none else none)
    else (read n).map some
  | _ => (read n).map some

end Node

end BlobDisk.Yaml
