import BlobDisk.CommandLine.Arguments
import BlobDisk.Text.Pieces

/-!
# Help

The help about a command shows what it is for, how it is written, the commands below it, and its
options. The explanations of options stand in a column, or each on a line of its own if the column
would leave little room for the longest.

* `Help.text`: the help about a command;
* `Help.aboutHelp`: the help about asking for help.
-/

namespace BlobDisk.CommandLine.Help

/-- How many characters a line is taken to have room for. -/
def lineWidth : Nat := 100

/-! ## Lines -/

/-- Spaces. -/
def spaces (n : Nat) : List Char := List.replicate n ' '

/-- A text with spaces after it up to a width. -/
def pad (width : Nat) (text : List Char) : List Char := text ++ spaces (width - text.length)

/-- A text whose lines after the first are indented. Lines are not broken, however long they are. -/
def indented (indent : Nat) (text : String) : List Char :=
  Pieces.join ('\n' :: spaces indent) (Pieces.split '\n' text.toList)

/-! ## Options -/

/-- An option as it is explained. -/
structure Entry where
  /-- Where it stands: entries are in the order of their places, then of their keys. -/
  place : Nat
  key : String
  short : Option Char
  /-- Its long name and what stands for its value. -/
  label : String
  explanation : String
  /-- How wide the explanation is without a space between its two parts. -/
  width : Nat

/-- What stands for the value of an option after its name. -/
def valueLabel (o : OptionShape) : String :=
  match o.value with
  | some v => " <" ++ v.placeholder ++ ">"
  | none => ""

/-- The long name of an option with what stands for its value. -/
def label (o : OptionShape) : String := "--" ++ o.name ++ valueLabel o

/-- The remarks about the value of an option: its variable, its default and the words for it. -/
def remarks (env : Environment) (o : OptionShape) : List String :=
  let source := o.environment?.map fun v =>
    "[env: " ++ v.name ++ (if v.secret then "" else "=" ++ env.shown v.name) ++ "]"
  let default := o.default?.map fun d => "[default: " ++ (if d = "" then "\"\"" else d) ++ "]"
  let words := o.value.bind fun v => match v.kind with
    | .oneOf words => some ("[possible values: " ++ String.intercalate ", " words ++ "]")
    | _ => none
  [source, default, words].filterMap id

/-- The key of an option among those in the same place: its short name before its long one. -/
def key (o : OptionShape) : String :=
  match o.short with
  | some c => String.ofList [c, '0']
  | none => o.name

/-- The entries of options in their order. -/
def entries (env : Environment) (options : List OptionShape) : List Entry :=
  options.zipIdx.map fun (o, place) =>
    let remarks := String.intercalate " " (remarks env o)
    { place, key := key o, short := o.short, label := label o
      explanation := String.intercalate " " ([o.help, remarks].filter (· ≠ ""))
      width := o.help.length + remarks.length }

/-- The entries that come last: that for help, and that for the version of the program. -/
def lastEntries (isTop : Bool) : List Entry :=
  let help : Entry := ⟨999, "h0", some 'h', "--help", "Print help", 10⟩
  let version : Entry := ⟨999, "v1", some 'V', "--version", "Print version", 13⟩
  if isTop then [help, version] else [help]

/-- The short and the long name of an entry. -/
def Entry.names (e : Entry) : List Char :=
  (match e.short with
    | some c => ['-', c, ',', ' ']
    | none => spaces 4) ++ e.label.toList

/-- Whether an explanation has too little room in a column after labels of a width. -/
def Entry.isTight (longest : Nat) (e : Entry) : Bool :=
  let taken := longest + 8
  taken ≤ lineWidth && 40 < taken && lineWidth - taken < e.width

/-- An entry with its explanation in a column, or on a line of its own. -/
def Entry.text (longest : Nat) (apart : Bool) (e : Entry) : List Char :=
  if apart then spaces 2 ++ e.names ++ '\n' :: spaces 10 ++ indented 10 e.explanation
  else pad (longest + 8) (spaces 2 ++ e.names) ++ indented (longest + 8) e.explanation

/-- The options of a command. -/
def optionLines (all : List Entry) : List (List Char) :=
  let longest := (all.map fun e => e.label.length).foldl max 2
  let apart := all.any (Entry.isTight longest)
  let sorted := all.mergeSort fun a b => a.place < b.place || (a.place = b.place && !(b.key < a.key))
  sorted.map (Entry.text longest apart)

/-! ## Commands -/

/-- The entry for help among the commands below a command. -/
def helpCommand : CommandShape where
  name := "help"
  help := "Print this message or the help of the given subcommand(s)"

/-- The commands below a command. -/
def commandLines (commands : List CommandShape) : List (List Char) :=
  let longest := (commands.map fun c => c.name.length).foldl max 2
  commands.map fun c => spaces 2 ++ pad (longest + 2) c.name.toList ++ c.help.toList

/-- How a command is written. -/
def usage (path : List String) (command : CommandShape) : String :=
  let required := (command.options.filter OptionShape.required).map label
  let below :=
    if command.commands.isEmpty then []
    else if command.demanding then ["<COMMAND>"] else ["[COMMAND]"]
  String.intercalate " " (path ++ ["[OPTIONS]"] ++ required ++ below)

/-- A heading and the lines below it. -/
def block (heading : String) (lines : List (List Char)) : List Char :=
  Pieces.join ['\n'] (heading.toList :: lines) ++ ['\n']

/-- The help about the command at the end of a path. -/
def text (env : Environment) (path : List String) (command : CommandShape)
    (common : List OptionShape) : String :=
  let all := entries env command.options ++ entries env common ++ lastEntries (path.length = 1)
  let commands := if command.commands.isEmpty then []
    else [block "Commands:" (commandLines (command.commands ++ [helpCommand]))]
  String.ofList (Pieces.join ['\n'] ([block command.help [],
    block ("Usage: " ++ usage path command) []] ++ commands ++ [block "Options:" (optionLines all)]))

/-- The help about asking for help below the command at the end of a path. -/
def aboutHelp (path : List String) : String :=
  let names := "[COMMAND]..."
  let way := String.intercalate " " (path ++ [helpCommand.name, names])
  String.ofList (Pieces.join ['\n'] [block helpCommand.help [], block ("Usage: " ++ way) [],
    block "Arguments:" [("  " ++ names ++ "  Print help for the subcommand(s)").toList]])

end BlobDisk.CommandLine.Help
