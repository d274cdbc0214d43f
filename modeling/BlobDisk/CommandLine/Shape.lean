import BlobDisk.Text.Decimal

/-!
# The shape of a command line

A command has options and commands below it. An option has a long name and may have a short one; it
takes one value or none, and comes up at most once.

* `OptionShape`, `CommandShape`: options and commands;
* `ValueKind.accepts`: whether a text is a value.
-/

namespace BlobDisk.CommandLine

/-- What an option takes for a value. -/
inductive ValueKind
  | text
  /-- The path of a file, which is not empty. -/
  | path
  /-- A number of 64 bits. -/
  | word
  | oneOf (words : List String)
deriving DecidableEq, Repr

/-- Whether the text is a value of the kind. -/
def ValueKind.accepts : ValueKind → String → Bool
  | text, _ => true
  | path, s => s ≠ ""
  | word, s => (Decimal.word? s.toList).isSome
  | oneOf words, s => words.contains s

/-- The value of an option. -/
structure ValueShape where
  /-- What stands for the value where the option is explained. -/
  placeholder : String
  kind : ValueKind := .text
deriving DecidableEq, Repr

/-- A variable of the environment with the value of an option that is not given. -/
structure VariableShape where
  name : String
  /-- Whether the value is for nobody to see. -/
  secret : Bool := false
deriving DecidableEq, Repr

/-- An option. -/
structure OptionShape where
  /-- Its long name. -/
  name : String
  short : Option Char := none
  /-- A second long name. -/
  byname : Option String := none
  /-- Its value, unless it is a mere flag. -/
  value : Option ValueShape := none
  required : Bool := false
  environment? : Option VariableShape := none
  default? : Option String := none
  help : String := ""
deriving DecidableEq, Repr

/-- A command. -/
structure CommandShape where
  name : String
  help : String
  options : List OptionShape := []
  commands : List CommandShape := []
  /-- Whether one of the commands below it has to follow. -/
  demanding : Bool := false

/-- The command below a command with a name. -/
def CommandShape.below? (c : CommandShape) (name : String) : Option CommandShape :=
  c.commands.find? fun b => b.name = name

/-- What stands for a flag that is given. -/
def flagValue : String := "true"

end BlobDisk.CommandLine
