import BlobDisk.CommandLine.Shape
import BlobDisk.Environment

/-!
# Reading arguments

Arguments are read from left to right: options, and the command whose options come next. The first
fault counts, and so does the first question for help or for the version. The value of an option in an
argument of its own is checked when the next option comes up, or at the end; a command below is read
before that.

* `Arguments.read`: the commands and the values of options in a list of arguments.
-/

namespace BlobDisk.CommandLine

/-- The commands of a command line, and the values of its options. -/
structure Arguments where
  /-- The names of the commands, each below the one before. -/
  path : List String := []
  /-- The values of options. Of two values of one option the first counts. -/
  values : List (String × String) := []
deriving DecidableEq, Repr

/-- Why there is nothing to do. -/
inductive Stop
  /-- Help is asked for, about the command at the end of a path, which has the common options too. -/
  | help (path : List String) (command : CommandShape) (common : List OptionShape)
  /-- Help is asked for about asking for it, below the command at the end of a path. -/
  | aboutHelp (path : List String)
  | version
  /-- The arguments do not have the shape of a command line. -/
  | misuse

namespace Arguments

/-- The value of an option. -/
def value? (a : Arguments) (name : String) : Option String := a.values.lookup name

/-- Whether a flag is given. -/
def flag (a : Arguments) (name : String) : Bool := (a.value? name).isSome

/-- Where in the tree of commands the arguments are read. -/
structure Level where
  command : CommandShape
  /-- The names of the commands on the way, this one the last. -/
  path : List String
  /-- The options that every command has. -/
  common : List OptionShape

namespace Level

/-- The options of the level. -/
def options (l : Level) : List OptionShape := l.command.options ++ l.common

/-- Whether the level is that of the whole program. -/
def isTop (l : Level) : Bool := l.path.length = 1

/-- The option with a long name. -/
def long? (l : Level) (name : String) : Option OptionShape :=
  l.options.find? fun o => o.name = name || o.byname = some name

/-- The option with a short name. -/
def short? (l : Level) (c : Char) : Option OptionShape := l.options.find? fun o => o.short = some c

/-- The level of a command below. -/
def below? (l : Level) (name : String) : Option Level :=
  (l.command.below? name).map fun c => { l with command := c, path := l.path ++ [name] }

/-- Whether there are commands below the level. -/
def hasCommands (l : Level) : Bool := !l.command.commands.isEmpty

/-- Help about the level. -/
def helpStop (l : Level) : Stop := .help l.path l.command l.common

end Level

/-- What is read at a level so far. -/
structure State where
  values : List (String × String) := []
  /-- The last option with a value in an argument of its own, and that value once it is there. -/
  pending : Option (OptionShape × Option String) := none

namespace State

/-- Adds the value of an option, which must be of its kind and the only one. -/
def add (s : State) (o : OptionShape) (value : String) : Except Stop State :=
  if (s.values.lookup o.name).isSome ∨ o.value.any (fun v => v.kind.accepts value = false) then
    .error .misuse
  else .ok { s with values := (o.name, value) :: s.values }

/-- Adds the value that waits. -/
def settle (s : State) : Except Stop State :=
  match s.pending with
  | none => .ok s
  | some (_, none) => .error .misuse
  | some (o, some value) => { s with pending := none }.add o value

/-- Adds an option that comes with a value, or is a flag without one. -/
def give (s : State) (o : OptionShape) (value : String) : Except Stop State := do
  (← s.settle).add o value

/-- Notes an option whose value comes next. -/
def expect (s : State) (o : OptionShape) : Except Stop State := do
  return { ← s.settle with pending := some (o, none) }

/-- Whether a value comes next. -/
def expects (s : State) : Bool :=
  match s.pending with
  | some (_, none) => true
  | _ => false

/-- Stops once nothing waits. -/
def stop (s : State) (reason : Stop) : Except Stop State := do
  let _ ← s.settle
  throw reason

end State

/-- The name and the value in an argument with a long name. -/
def nameAndValue (text : List Char) : String × Option String :=
  let value := match text.dropWhile (· ≠ '=') with
    | _ :: value => some (String.ofList value)
    | [] => none
  (String.ofList (text.takeWhile (· ≠ '=')), value)

/-- An argument with a long name, after its two hyphens. -/
def readLong (l : Level) (text : List Char) (s : State) : Except Stop State :=
  let (name, value) := nameAndValue text
  match l.long? name with
  | some o =>
    match o.value, value with
    | some _, some v => s.give o v
    | some _, none => s.expect o
    | none, some _ => .error .misuse
    | none, none => s.give o flagValue
  | none =>
    if name = "help" ∧ value = none then s.stop l.helpStop
    else if name = "version" ∧ value = none ∧ l.isTop then s.stop .version
    else .error .misuse

/-- An argument with short names, after its hyphen: flags, and at the end an option with its value
right behind it, after an equals sign, or in the next argument. -/
def readShort (l : Level) : List Char → State → Except Stop State
  | [], s => .ok s
  | c :: rest, s =>
    match l.short? c with
    | some o =>
      if o.value.isNone then do readShort l rest (← s.give o flagValue)
      else
        match rest with
        | [] => s.expect o
        | '=' :: value => s.give o (String.ofList value)
        | value => s.give o (String.ofList value)
    | none =>
      if c = 'h' then s.stop l.helpStop
      else if c = 'V' ∧ l.isTop then s.stop .version
      else .error .misuse

/-- Help about the command at the end of a path below. -/
def readHelp (l : Level) : List String → Stop
  | [] => l.helpStop
  | name :: rest =>
    match l.below? name with
    | some l => readHelp l rest
    | none => if name = "help" ∧ rest = [] ∧ l.hasCommands then .aboutHelp l.path else .misuse

/-- The value of the environment for an option that is not given. A variable that is set to no text is
as wrong as an argument that is none. -/
def fromVariable (env : Environment) (values : List (String × String)) (o : OptionShape) :
    Except Stop (Option (String × String)) :=
  match o.environment?, values.lookup o.name with
  | some v, none =>
    match env.var v.name with
    | .ok text => .ok (some (o.name, text))
    | .error .unset => .ok none
    | .error .notText => .error .misuse
  | _, _ => .ok none

/-- The values of the environment for options that are not given. -/
def fromEnvironment (env : Environment) (options : List OptionShape) (values : List (String × String)) :
    Except Stop (List (String × String)) := do
  return (← options.mapM (fromVariable env values)).filterMap id

/-- What a level amounts to: its values, those of the environment and the defaults, unless something
is missing. -/
def finish (env : Environment) (l : Level) (s : State) : Except Stop Arguments := do
  let s ← s.settle
  let own := s.values ++ (← fromEnvironment env l.command.options s.values)
  if l.command.options.any fun o => o.required && (own.lookup o.name).isNone then throw .misuse
  let options := if l.isTop then l.options else l.command.options
  let defaults := options.filterMap fun o => o.default?.map fun d => (o.name, d)
  return ⟨l.path, own ++ defaults⟩

/-- The arguments from here on. -/
def readAt (env : Environment) (l : Level) (s : State) : List String → Except Stop Arguments
  | [] => if l.command.demanding then .error .misuse else finish env l s
  | a :: rest =>
    if s.expects then
      if a.toList.head? = some '-' ∧ a ≠ "-" then .error .misuse
      else readAt env l { s with pending := s.pending.map fun p => (p.1, some a) } rest
    else
      match l.below? a with
      | some below => do
        let inner ← readAt env below {} rest
        let outer ← finish env l s
        return { inner with values := inner.values ++ outer.values }
      | none =>
        if a = "help" ∧ l.hasCommands then .error (readHelp l rest)
        else if a = "--" then
          if rest = [] ∧ l.command.demanding = false then finish env l s else .error .misuse
        else
          match a.toList with
          | '-' :: '-' :: text => do readAt env l (← readLong l text s) rest
          | '-' :: c :: text => do readAt env l (← readShort l (c :: text) s) rest
          | _ => .error .misuse

/-- The commands and the values of options in a list of arguments. -/
def read (env : Environment) (top : CommandShape) (common : List OptionShape) (args : List String) :
    Except Stop Arguments :=
  readAt env ⟨top, [top.name], common⟩ {} args

end Arguments

end BlobDisk.CommandLine
