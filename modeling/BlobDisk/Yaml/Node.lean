import BlobDisk.Yaml.Lexer

/-!
# Documents of YAML

A document is a tree of scalars, sequences and mappings. A node can be labelled by an anchor, and an
alias stands for the last node in the text with its label. Labels are numbers: a new anchor gets the
number of the anchors that are known by then, also when its name is known already.

* `Node.ofTokens?`: the only document that tokens form;
* `Node.target`: what a node of a document stands for.
-/

namespace BlobDisk.Yaml

/-- A node of a document. -/
inductive Node
  | scalar (label : Option Nat) (tag : Option String) (style : ScalarStyle) (text : String)
  | sequence (label : Option Nat) (items : List Node)
  | mapping (label : Option Nat) (entries : List (Node × Node))
  /-- An alias. -/
  | again (label : Nat)

namespace Node

/-- What stands where a node is left out. -/
def empty : Node := scalar none none .plain ""

/-- The label of a node that an alias can stand for. -/
def label? : Node → Option Nat
  | scalar label .. | sequence label _ | mapping label _ => label
  | again _ => none

mutual

/-- The node and all nodes in it, in the order in which they start. -/
def all : Node → List Node
  | sequence label items => sequence label items :: allItems items
  | mapping label entries => mapping label entries :: allEntries entries
  | n => [n]

/-- All nodes in the items of a sequence. -/
def allItems : List Node → List Node
  | [] => []
  | item :: rest => item.all ++ allItems rest

/-- All nodes in the entries of a mapping. -/
def allEntries : List (Node × Node) → List Node
  | [] => []
  | (key, value) :: rest => key.all ++ value.all ++ allEntries rest

end

/-- What a node stands for in the document with the given root. -/
def target (root : Node) : Node → Node
  | again label => ((root.all.filter fun n => n.label? = some label).getLast?).getD empty
  | n => n

/-! ## Reading tokens -/

/-- The tokens that are left, and the anchors so far. -/
structure Source where
  tokens : List Token
  anchors : List (String × Nat) := []
  /-- What the handles of tags stand for. -/
  handles : List (String × String)

namespace Source

/-- The next token. -/
def peek? (s : Source) : Option Token := s.tokens.head?

/-- Whether the next token is one of the given. -/
def isAt (s : Source) (ts : List Token) : Bool := s.peek?.any ts.contains

/-- Whether a directive comes next. -/
def startsDirective (s : Source) : Bool :=
  match s.peek? with
  | some (.versionDirective ..) | some (.tagDirective ..) => true
  | _ => false

/-- The source after the next token. -/
def skip (s : Source) : Source := { s with tokens := s.tokens.tail }

/-- Notes an anchor; answers its label. -/
def note (s : Source) (name : Option String) : Option Nat × Source :=
  match name with
  | some name =>
    let label := s.anchors.length
    let others := s.anchors.filter fun a => a.1 ≠ name
    (some label, { s with anchors := (name, label) :: others })
  | none => (none, s)

/-- The tag that a handle and a suffix denote; none if the handle is not known. -/
def tag? (s : Source) (t : Tag) : Option String :=
  if t.handle = "" then some t.suffix else (s.handles.lookup t.handle).map (· ++ t.suffix)

/-- An anchor and a tag in either order, each of which may be left out. -/
def properties? (s : Source) : Option (Option String × Option String × Source) :=
  match s.tokens with
  | .anchor name :: .tag t :: rest | .tag t :: .anchor name :: rest => do
    return (some name, some (← s.tag? t), { s with tokens := rest })
  | .anchor name :: rest => some (some name, none, { s with tokens := rest })
  | .tag t :: rest => do return (none, some (← s.tag? t), { s with tokens := rest })
  | _ => some (none, none, s)

end Source

mutual

/-- A node. Blocks may start here if `block` is set, and entries of a sequence without a block of
their own if `loose` is set. -/
def read? (block loose : Bool) : Nat → Source → Option (Node × Source)
  | 0, _ => none
  | fuel + 1, s => do
    match s.peek? with
    | some (.again name) => return (.again (← s.anchors.lookup name), s.skip)
    | _ =>
      let (name, tag, s) ← s.properties?
      let (label, noted) := s.note name
      match s.peek? with
      | some (.scalar text style) =>
        return (.scalar label tag style text, noted.skip)
      | some .flowSequenceStart =>
        let (items, s) ← flowItems? true fuel noted.skip
        return (.sequence label items, s)
      | some .flowMappingStart =>
        let (entries, s) ← flowEntries? true fuel noted.skip
        return (.mapping label entries, s)
      | some .blockSequenceStart =>
        if block then
          let (items, s) ← blockItems? fuel noted.skip
          return (.sequence label items, s)
        else left? name tag label noted
      | some .blockMappingStart =>
        if block then
          let (entries, s) ← blockEntries? fuel noted.skip
          return (.mapping label entries, s)
        else left? name tag label noted
      | some .blockEntry =>
        if loose then
          let (items, s) ← looseItems? fuel noted
          return (.sequence label items, s)
        else left? name tag label noted
      | _ => left? name tag label noted
where
  /-- A node that consists of an anchor and a tag. -/
  left? (name tag : Option String) (label : Option Nat) (s : Source) : Option (Node × Source) :=
    if name.isSome ∨ tag.isSome then some (.scalar label tag .plain "", s) else none

/-- A node, unless one of the given tokens comes next. -/
def readUnless? (ends : List Token) (block loose : Bool) :
    Nat → Source → Option (Node × Source)
  | 0, _ => none
  | fuel + 1, s => if s.isAt ends then some (empty, s) else read? block loose fuel s

/-- The entries of a sequence that is a block, and its end. -/
def blockItems? : Nat → Source → Option (List Node × Source)
  | 0, _ => none
  | fuel + 1, s => do
    match s.peek? with
    | some .blockEntry =>
      let (item, s) ← readUnless? [.blockEntry, .blockEnd] true false fuel s.skip
      let (items, s) ← blockItems? fuel s
      return (item :: items, s)
    | some .blockEnd => return ([], s.skip)
    | _ => none

/-- The entries of a sequence that is no block of its own. -/
def looseItems? : Nat → Source → Option (List Node × Source)
  | 0, _ => none
  | fuel + 1, s => do
    if s.isAt [.blockEntry] then
      let (item, s) ← readUnless? [.blockEntry, .key, .value, .blockEnd] true false fuel s.skip
      let (items, s) ← looseItems? fuel s
      return (item :: items, s)
    else return ([], s)

/-- The entries of a mapping that is a block, and its end. -/
def blockEntries? : Nat → Source → Option (List (Node × Node) × Source)
  | 0, _ => none
  | fuel + 1, s => do
    match s.peek? with
    | some .key =>
      let (key, s) ← readUnless? [.key, .value, .blockEnd] true true fuel s.skip
      let (value, s) ←
        if s.isAt [.value] then readUnless? [.key, .value, .blockEnd] true true fuel s.skip
        else some (empty, s)
      let (entries, s) ← blockEntries? fuel s
      return ((key, value) :: entries, s)
    | some .blockEnd => return ([], s.skip)
    | _ => none

/-- The value after a key between brackets, which may be left out. -/
def flowValue? (last : Token) : Nat → Source → Option (Node × Source)
  | 0, _ => none
  | fuel + 1, s =>
    if s.isAt [.value] then readUnless? [.flowEntry, last] false false fuel s.skip
    else some (empty, s)

/-- The items of a sequence between brackets, and its end. A key and its value form a mapping with one
entry; if the key is left out, so is the token after it. -/
def flowItems? (first : Bool) : Nat → Source → Option (List Node × Source)
  | 0, _ => none
  | fuel + 1, s => do
    if s.isAt [.flowSequenceEnd] then return ([], s.skip)
    else if first = false ∧ s.isAt [.flowEntry] = false then none
    else
      let s := if first then s else s.skip
      if s.isAt [.key] then
        let s := s.skip
        let (key, s) ←
          if s.isAt [.value, .flowEntry, .flowSequenceEnd] then some (empty, s.skip)
          else read? false false fuel s
        let (value, s) ← flowValue? .flowSequenceEnd fuel s
        let (items, s) ← flowItems? false fuel s
        return (.mapping none [(key, value)] :: items, s)
      else if s.isAt [.flowSequenceEnd] then return ([], s.skip)
      else
        let (item, s) ← read? false false fuel s
        let (items, s) ← flowItems? false fuel s
        return (item :: items, s)

/-- The entries of a mapping between brackets, and its end. -/
def flowEntries? (first : Bool) : Nat → Source → Option (List (Node × Node) × Source)
  | 0, _ => none
  | fuel + 1, s => do
    if s.isAt [.flowMappingEnd] then return ([], s.skip)
    else if first = false ∧ s.isAt [.flowEntry] = false then none
    else
      let s := if first then s else s.skip
      if s.isAt [.key] then
        let (key, s) ← readUnless? [.value, .flowEntry, .flowMappingEnd] false false fuel s.skip
        let (value, s) ← flowValue? .flowMappingEnd fuel s
        let (entries, s) ← flowEntries? false fuel s
        return ((key, value) :: entries, s)
      else if s.isAt [.flowMappingEnd] then return ([], s.skip)
      else
        let (key, s) ← read? false false fuel s
        let (entries, s) ← flowEntries? false fuel s
        return ((key, empty) :: entries, s)

end

/-! ## Documents -/

/-- What the handles of tags stand for if no directive says otherwise. -/
def defaultHandles : List (String × String) := [("!", "!"), ("!!", "tag:yaml.org,2002:")]

/-- The directives before a document: at most one for the version, one for each handle. -/
def directives? (version : Bool) (handles : List (String × String)) :
    List Token → Option (Bool × List (String × String) × List Token)
  | .versionDirective major minor :: rest =>
    if version ∨ major ≠ 1 ∨ (minor ≠ 1 ∧ minor ≠ 2) then none else directives? true handles rest
  | .tagDirective handle start :: rest =>
    if (handles.lookup handle).isSome then none
    else directives? version (handles ++ [(handle, start)]) rest
  | rest => some (version || !handles.isEmpty, handles, rest)

/-- The root of the only document that tokens form: empty if it has no content, none if there are more
documents, or something else. -/
def ofTokens? (tokens : List Token) : Option Node := do
  if tokens = [] then return empty
  let (directed, handles, rest) ← directives? false [] tokens
  let s : Source := { tokens := rest, handles := handles ++ defaultHandles }
  let explicit := s.isAt [.documentStart]
  if directed ∧ explicit = false then none
  else
    let s := if explicit then s.skip else s
    let (root, s) ←
      if explicit ∧ (s.tokens = [] ∨ s.isAt [.documentStart, .documentEnd] ∨ s.startsDirective)
      then some (empty, s)
      else read? true false (4 * s.tokens.length + 4) s
    if s.tokens.all (· = .documentEnd) then return root else none

/-- The root of the only document of a text. -/
def ofText? (text : String) : Option Node := (Token.ofText? text.toList).bind ofTokens?

end Node

end BlobDisk.Yaml
