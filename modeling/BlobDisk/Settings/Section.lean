import BlobDisk.Yaml.Literal

/-!
# Sections of settings

A section is a mapping from names to values, or nothing at all. The names that it knows may come up at
most once.

* `Section.ofNode?`: the section that a node is;
* `Section.read?`: the value of a name.
-/

namespace BlobDisk.Settings

open Yaml (Node)

/-- The values of the names that a section knows. -/
structure Section where
  fields : List (String × Node)

namespace Section

/-- The section without values. -/
def empty : Section := ⟨[]⟩

/-- The names and values of a mapping; a plain scalar without text has none. -/
def fields? (root : Node) (n : Node) : Option (List (String × Node)) :=
  match Node.target root n with
  | .mapping _ entries => entries.mapM fun (key, value) => do
    return (← (Node.target root key).text?, Node.target root value)
  | .scalar _ _ .plain "" => some []
  | _ => none

/-- The section that a node of a document is, none if a name comes up twice. Unless it is `lax`, there
may be no names but those that it knows. -/
def ofNode? (root : Node) (names : List String) (lax : Bool) (n : Node) : Option Section := do
  let fields ← fields? root n
  let known := fields.filter fun f => names.contains f.1
  if (known.map (·.1)).Nodup ∧ (lax ∨ known.length = fields.length) then return ⟨known⟩ else none

/-- The value of a name, if it has one. -/
def read? {α : Type} (s : Section) (name : String) (read : Node → Option α) : Option (Option α) :=
  match s.fields.lookup name with
  | some n => (read n).map some
  | none => some none

/-- The value of a name, which may be nothing. -/
def optional? {α : Type} (s : Section) (name : String) (read : Node → Option α) :
    Option (Option α) := do
  return (← s.read? name (Node.optional? read)).join

/-- The section under a name; without a value if the name has none. -/
def section? (s : Section) (root : Node) (name : String) (names : List String) (lax : Bool) :
    Option Section := do
  return (← s.read? name (ofNode? root names lax)).getD empty

end Section

end BlobDisk.Settings
