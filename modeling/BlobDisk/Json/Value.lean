/-!
# Values of JSON

A value of the interchange format. Strings come from bytes, which need not be text: a string, or a
key, without a text is `none`. Numbers are told apart only as far as whole numbers go.
-/

namespace BlobDisk.Json

/-- A value. -/
inductive Value
  | null
  | bool (b : Bool)
  /-- A number written as digits alone, or with a minus. -/
  | int (n : Int)
  /-- Any other number: with a fraction or an exponent, or a negative zero. -/
  | fraction
  | string (text : Option String)
  | array (items : List Value)
  | object (fields : List (Option String × Value))

namespace Value

instance : Inhabited Value := ⟨null⟩

/-- A string that is text. -/
def text (s : String) : Value := string (some s)

/-- A whole number. -/
def number (n : Nat) : Value := int n

/-- An object with the fields of a list. -/
def ofFields (fields : List (String × Value)) : Value :=
  object (fields.map fun f => (some f.1, f.2))

end Value

end BlobDisk.Json
