import BlobDisk.SystemError
import BlobDisk.Text.Pieces

/-!
# Files for tests

A small tree of files: the directories and devices that every machine has, and the files of a working
directory.

* `Files.openPath`: what a path leads to, or the error of the system;
* `Files.read`: the bytes that can be read there. The input of the program can be read only once.
-/

namespace BlobDisk.Testbed

/-- What a path can lead to. -/
inductive Node
  | directory
  | device
  /-- The input of the program. -/
  | input
  | file (content : List UInt8)
deriving DecidableEq, Repr

/-- A tree of files: the nodes by the names on the way to them from the root. -/
structure Files where
  nodes : List (List String × Node)
  /-- Where paths start that do not start at the root. -/
  current : List String

namespace Files

/-- The directories and devices of every machine. -/
def common : List (List String × Node) :=
  [([], .directory), (["dev"], .directory), (["tmp"], .directory), (["etc"], .directory),
    (["usr"], .directory), (["bin"], .directory), (["proc"], .directory), (["sys"], .directory),
    (["var"], .directory), (["home"], .directory), (["root"], .directory), (["work"], .directory),
    (["dev", "null"], .device), (["dev", "zero"], .device), (["dev", "full"], .device),
    (["dev", "random"], .device), (["dev", "urandom"], .device),
    (["dev", "stdin"], .input), (["dev", "fd"], .directory), (["dev", "fd", "0"], .input),
    (["proc", "self"], .directory), (["proc", "self", "fd"], .directory),
    (["proc", "self", "fd", "0"], .input),
    (["etc", "passwd"], .file []), (["etc", "hosts"], .file []), (["etc", "hostname"], .file [])]

/-- The tree with the given files in an otherwise empty working directory. -/
def withFiles (files : List (String × List UInt8)) : Files where
  nodes := common ++ files.map fun f => (["work", f.1], .file f.2)
  current := ["work"]

/-- The node at a place. -/
def node? (t : Files) (place : List String) : Option Node := t.nodes.lookup place

/-- The place that names lead to from a place; each but the last has to lead to a directory. -/
def walk (t : Files) (place : List String) : List String → Except SystemError (List String)
  | [] => .ok place
  | name :: rest =>
    match t.node? place with
    | some .directory =>
      if name = "" ∨ name = "." then walk t place rest
      else if name = ".." then walk t place.dropLast rest
      else if 255 < name.utf8ByteSize then .error ⟨36⟩
      else walk t (place ++ [name]) rest
    | some _ => .error ⟨20⟩
    | none => .error .noEntry

/-- What a path leads to, or the error of the system in words. -/
def openPath (t : Files) (path : String) : Except String Node :=
  if path.toList.contains '\x00' then .error "file name contained an unexpected NUL byte"
  else if path = "" then .error SystemError.noEntry.message
  else if 4096 ≤ path.utf8ByteSize then .error (SystemError.message ⟨36⟩)
  else
    let names := (Pieces.split '/' path.toList).map String.ofList
    match t.walk (if path.toList.head? = some '/' then [] else t.current) names with
    | .error e => .error e.message
    | .ok place =>
      match t.node? place with
      | some n => .ok n
      | none => .error SystemError.noEntry.message

/-- What is left of the input; nothing is left after it. -/
def takeInput : StateM (List UInt8) (List UInt8) := modifyGet fun left => (left, [])

/-- The bytes of a file to be read whole. The state is what is left of the input. -/
def read (t : Files) (path : String) : StateM (List UInt8) (Except String (List UInt8)) :=
  match t.openPath path with
  | .ok (.file content) => return .ok content
  | .ok .input => return .ok (← takeInput)
  | .ok .device => return .ok []
  | .ok .directory => return .error (SystemError.message ⟨21⟩)
  | .error reason => return .error reason

end Files

end BlobDisk.Testbed
