import BlobDisk.Url.Form
import BlobDisk.Url.Host

/-!
# Addresses

An absolute address in the sense of the URL standard: a scheme, possibly an authority, a path, and
possibly a query and a fragment.

* `Url.parse`: the address in a text, with blanks and line breaks removed, dot segments resolved and
  all parts percent-encoded;
* `Url.text`: the address as a text;
* `Url.target`: the part that a request names, path and query.
-/

namespace BlobDisk

/-- The user, the host and the port in an address. -/
structure Authority where
  user : List Char
  password : List Char
  host : Host
  /-- The port, unless it is that of the scheme. -/
  port : Option Nat
deriving DecidableEq, Repr

/-- An absolute address. All texts in it are already encoded. -/
structure Url where
  scheme : List Char
  authority : Option Authority
  path : List Char
  query : Option (List Char)
  fragment : Option (List Char)
deriving DecidableEq, Repr

namespace Url

/-! ## Schemes -/

/-- The schemes that always name a host, with their ports. -/
def specialPorts : List (List Char × Nat) :=
  [("http".toList, 80), ("https".toList, 443), ("ws".toList, 80), ("wss".toList, 443),
    ("ftp".toList, 21)]

/-- Whether the scheme is one of the web's, files included. -/
def isSpecial (scheme : List Char) : Bool :=
  (specialPorts.lookup scheme).isSome || scheme = "file".toList

/-- The scheme in front of the first colon, and what follows. -/
def scheme? (text : List Char) : Option (List Char × List Char) :=
  match Pieces.cut? ':' text with
  | some (name, rest) =>
    match name with
    | c :: more =>
      if c.isAlpha && more.all fun d => d.isAlphanum || d = '+' || d = '-' || d = '.' then
        some (name.map Char.toLower, rest)
      else none
    | [] => none
  | none => none

/-! ## Authorities -/

/-- Whether the character ends the authority. -/
def endsAuthority (special : Bool) (c : Char) : Bool :=
  c = '/' || c = '?' || c = '#' || (special && c = '\\')

/-- The text before and after the last at-sign. -/
def cutLastAt? (text : List Char) : Option (List Char × List Char) :=
  (Pieces.cut? '@' text.reverse).map fun (back, front) => (front.reverse, back.reverse)

/-- The user and the password, encoded. -/
def userParts (text : List Char) : List Char × List Char :=
  match Pieces.cut? ':' text with
  | some (user, password) =>
    (Percent.encode Percent.userSet user, Percent.encode Percent.userSet password)
  | none => (Percent.encode Percent.userSet text, [])

/-- The host and the text of the port after it: the host ends at a colon outside brackets. -/
def cutPort (inside : Bool) : List Char → List Char × Option (List Char)
  | [] => ([], none)
  | c :: rest =>
    if c = ':' ∧ inside = false then ([], some rest)
    else
      let (host, port) := cutPort (if c = '[' then true else if c = ']' then false else inside) rest
      (c :: host, port)

/-- The port that digits denote, none if there are no digits, and the text after them: nothing, or a
path that starts with a backslash. -/
def port (text : List Char) : Except Fault (Option Nat × List Char) :=
  let (ns, after) := IpAddress.digits 10 text
  if (after ≠ [] ∧ after.head? ≠ some '\\') ∨ 65535 < IpAddress.ofDigits 10 ns then .error .badPort
  else .ok (if ns = [] then none else some (IpAddress.ofDigits 10 ns), after)

/-- The authority in a text and what stands between it and the slash of the path. An address of the
web needs a host, and nothing can have a user or a port without one. `atEnd` says whether the address
ends with the text: only then may an at-sign be all of it. -/
def parseAuthority (scheme text : List Char) (atEnd : Bool) :
    Except Fault (Authority × List Char) := do
  let special := isSpecial scheme
  let (userText, hostText) ←
    match cutLastAt? text with
    | some (user, host) =>
      if user = [] ∧ host = [] ∧ atEnd = false then throw .emptyHost else pure (user, host)
    | none => pure ([], text)
  let (user, password) := userParts userText
  let (hostPart, portPart) := cutPort false hostText
  if hostPart = [] ∧ (special ∨ portPart.isSome ∨ user ≠ [] ∨ password ≠ []) then throw .emptyHost
  let host ← if special then Host.parse hostPart else Host.parseOpaque hostPart
  let (number, after) ← port (portPart.getD [])
  return (⟨user, password, host, if number = specialPorts.lookup scheme then none else number⟩, after)

/-! ## Paths -/

/-- The pieces of a path between slashes; addresses of the web take backslashes for slashes. -/
def segments (special : Bool) (path : List Char) : List (List Char) :=
  Pieces.split '/' (if special then path.map fun c => if c = '\\' then '/' else c else path)

/-- Whether the piece names the current level. -/
def isDot (piece : List Char) : Bool :=
  piece = ['.'] || piece.map Char.toLower = "%2e".toList

/-- Whether the piece names the level above. -/
def isDoubleDot (piece : List Char) : Bool :=
  ["..", "%2e.", ".%2e", "%2e%2e"].any fun d => piece.map Char.toLower = d.toList

/-- Whether the piece is the name of a drive: a letter, and a colon or a bar. -/
def isDrive (piece : List Char) : Bool :=
  match piece with
  | [c, mark] => c.isAlpha && (mark = ':' || mark = '|')
  | _ => false

/-- Whether the piece stays when the level above it is named: a drive does, alone or in front of a
backslash. -/
def isFixed (piece : List Char) : Bool :=
  isDrive (piece.take 2) && (piece.length = 2 || piece[2]? = some '\\')

/-- The pieces with the levels that they name resolved; `done` holds those already resolved, the last
first. A dot at the very end leaves an empty piece. In the address of a file, a drive at the root is
written with a colon. -/
def resolve (file : Bool) (done : List (List Char)) : List (List Char) → List (List Char)
  | [] => done.reverse
  | piece :: rest =>
    let close (done : List (List Char)) := if rest = [] then [] :: done else done
    if isDoubleDot piece then
      resolve file (close (if done.head?.any isFixed then done else done.drop 1)) rest
    else if isDot piece then resolve file (close done) rest
    else if file && done = [] && isDrive piece then resolve file ((piece.take 1 ++ [':']) :: done) rest
    else resolve file (piece :: done) rest

/-- The pieces of the path of an address that has an authority or starts with a slash. -/
def rootedPieces (scheme text : List Char) : List (List Char) :=
  let pieces := segments (isSpecial scheme) text
  let pieces := if text ≠ [] ∧ pieces.head? = some [] then pieces.drop 1 else pieces
  resolve (scheme = "file".toList) [] (pieces.map (Percent.encode Percent.pathSet))

/-- A path of pieces. -/
def joined (pieces : List (List Char)) : List Char := pieces.flatMap fun piece => '/' :: piece

/-! ## Files -/

/-- The authority of a file on this host. -/
def localAuthority : Authority := ⟨[], [], .domain "", none⟩

/-- The path of a file: it starts with one slash. -/
def filePath (pieces : List (List Char)) : List Char := '/' :: (joined pieces).dropWhile (· = '/')

/-- The part of a file's address after two slashes: a host and a path. This host goes unnamed, a drive
is no host, and a path that starts with a drive is on this host. -/
def parseFile (scheme text : List Char) : Except Fault (Authority × List Char) := do
  let slash (c : Char) : Bool := c = '/' || c = '\\'
  let name := text.takeWhile fun c => !slash c
  let (host, path) ←
    if isDrive name then pure (.domain "", text)
    else if name = [] then pure (.domain "", text)
    else do pure (← Host.parse name, text.dropWhile fun c => !slash c)
  if host = .domain "" ∨ host = .domain "localhost" then
    return (localAuthority, filePath (rootedPieces scheme ('/' :: path)))
  let pieces := rootedPieces scheme path
  let found := if pieces.head?.any isDrive then localAuthority else ⟨[], [], host, none⟩
  return (found, filePath pieces)

/-! ## Whole addresses -/

/-- The text without controls and spaces at its ends, and without tabs and line breaks. -/
def clean (text : List Char) : List Char :=
  let blank (c : Char) : Bool := c.toNat ≤ 0x20
  let front := text.dropWhile blank
  (front.reverse.dropWhile blank).reverse.filter fun c => c ≠ '\t' && c ≠ '\n' && c ≠ '\r'

/-- A text before and after the first of a character; all of it is before if there is none. -/
def cutAt (c : Char) (text : List Char) : List Char × Option (List Char) :=
  match Pieces.cut? c text with
  | some (front, back) => (front, some back)
  | none => (text, none)

/-- The part of an address after its scheme: authority and path. `atEnd` says whether the address ends
with them. -/
def hierarchy (scheme text : List Char) (atEnd : Bool) :
    Except Fault (Option Authority × List Char) := do
  let special := isSpecial scheme
  let slash (c : Char) : Bool := c = '/' || (special && c = '\\')
  let withAuthority (rest : List Char) : Except Fault (Option Authority × List Char) := do
    let path := rest.dropWhile fun c => !endsAuthority special c
    let (found, after) ←
      parseAuthority scheme (rest.takeWhile fun c => !endsAuthority special c)
        (atEnd && path.isEmpty)
    let path := after ++ path
    return (some found, if path = [] ∧ special = false then [] else joined (rootedPieces scheme path))
  if scheme = "file".toList then
    let (found, path) ←
      match text with
      | a :: b :: rest =>
        if slash a && slash b then parseFile scheme rest
        else pure (localAuthority, filePath (rootedPieces scheme text))
      | _ => pure (localAuthority, filePath (rootedPieces scheme text))
    return (some found, path)
  else if special then
    withAuthority (text.dropWhile slash)
  else
    match text with
    | '/' :: '/' :: rest => withAuthority rest
    | '/' :: rest => return (none, joined (rootedPieces scheme ('/' :: rest)))
    | path => return (none, Percent.encode Percent.isControl path)

/-- The address in a text. -/
def parse (text : List Char) : Except Fault Url := do
  match scheme? (clean text) with
  | none => throw .relative
  | some (scheme, rest) =>
    let (rest, fragment) := cutAt '#' rest
    let (rest, query) := cutAt '?' rest
    let (found, path) ← hierarchy scheme rest (query.isNone && fragment.isNone)
    let set := if isSpecial scheme then Percent.specialQuerySet else Percent.querySet
    return {
      scheme, authority := found, path
      query := query.map (Percent.encode set)
      fragment := fragment.map (Percent.encode Percent.fragmentSet) }

/-- The authority as a text, with the slashes before it. -/
def Authority.text (a : Authority) : List Char :=
  let secret := if a.password = [] then [] else ':' :: a.password
  let user := if a.user = [] ∧ a.password = [] then [] else a.user ++ secret ++ ['@']
  let number := match a.port with
    | some n => ':' :: (toString n).toList
    | none => []
  "//".toList ++ user ++ a.host.text.toList ++ number

/-- The query with its mark. -/
def queryText (u : Url) : List Char :=
  match u.query with
  | some q => '?' :: q
  | none => []

/-- What stands before the path: the authority, or, without one, a level that keeps two slashes at the
front of the path from being taken for those of an authority. -/
def authorityText (u : Url) : List Char :=
  match u.authority with
  | some a => Authority.text a
  | none => if u.path.take 2 = ['/', '/'] then ['/', '.'] else []

/-- The fragment with its mark. -/
def fragmentText (u : Url) : List Char :=
  match u.fragment with
  | some f => '#' :: f
  | none => []

/-- The address as a text. -/
def text (u : Url) : List Char :=
  u.scheme ++ ':' :: u.authorityText ++ u.path ++ u.queryText ++ u.fragmentText

/-- What a request names of the address: path and query. -/
def target (u : Url) : List Char := u.path ++ u.queryText

/-- The pairs of the query. -/
def queryPairs (u : Url) : List (String × String) := Form.pairs (u.query.getD [])

/-- The address with pairs added to its query; without pairs, the address itself. -/
def withPairs (u : Url) (pairs : List (String × String)) : Url :=
  if pairs = [] then u else { u with query := some (Form.append (u.query.getD []) pairs) }

end Url

end BlobDisk
