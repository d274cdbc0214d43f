import BlobDisk.Environment
import BlobDisk.Settings.Fault
import BlobDisk.Text.Pieces

/-!
# References to the environment

A text may refer to variables of the environment: a name between braces after a dollar sign, with a
default after a colon and a hyphen. References are replaced in one pass from left to right, and what
takes their place is not looked at again. A variable that is set to no text is treated as one that is not
set.

* `Environment.pieces`: the references of a text, and the characters between them;
* `Environment.substitute`: the text with its references replaced, or the names that have no value.
-/

namespace BlobDisk.Environment

/-- A part of a text: a character that stands for itself, or a reference. -/
inductive Piece
  | char (c : Char)
  | reference (name : List Char) (fallback : Option (List Char))
deriving DecidableEq, Repr

/-- Whether the character may start a name. -/
def startsName (c : Char) : Bool := c.isAlpha || c = '_'

/-- Whether the character may stand in a name. -/
def inName (c : Char) : Bool := c.isAlphanum || c = '_'

/-- What follows a name in a reference: its default, if it has one, and the text after the closing
brace. -/
def ending? : List Char → Option (Option (List Char) × List Char)
  | '\x7d' :: rest => some (none, rest)
  | ':' :: '-' :: rest =>
    (Pieces.cut? '\x7d' rest).map fun (fallback, after) => (some fallback, after)
  | _ => none

/-- The reference after a dollar sign and a brace, and the text after it. -/
def reference? (text : List Char) : Option (Piece × List Char) :=
  match text with
  | c :: _ =>
    if startsName c then
      (ending? (text.dropWhile inName)).map fun (fallback, after) =>
        (.reference (text.takeWhile inName) fallback, after)
    else none
  | [] => none

theorem length_cut? {sep : Char} {text front back : List Char}
    (h : Pieces.cut? sep text = some (front, back)) : back.length < text.length := by
  induction text generalizing front with
  | nil => simp [Pieces.cut?] at h
  | cons c rest ih =>
    simp only [Pieces.cut?] at h
    split at h
    · simp only [Option.some.injEq, Prod.mk.injEq] at h
      simp [← h.2]
    · cases hc : Pieces.cut? sep rest with
      | none => simp [hc] at h
      | some p =>
        simp only [hc, Option.map_some, Option.some.injEq, Prod.mk.injEq] at h
        have := @ih p.1 (by rw [hc, ← h.2])
        simp only [List.length_cons]
        omega

theorem length_ending? {text after : List Char} {fallback : Option (List Char)}
    (h : ending? text = some (fallback, after)) : after.length < text.length := by
  unfold ending? at h
  split at h
  · simp only [Option.some.injEq, Prod.mk.injEq] at h
    simp [← h.2]
  · next rest =>
    cases hc : Pieces.cut? '\x7d' rest with
    | none => simp [hc] at h
    | some p =>
      simp only [hc, Option.map_some, Option.some.injEq, Prod.mk.injEq] at h
      have := @length_cut? _ _ p.1 after (by rw [hc, ← h.2])
      simp only [List.length_cons]
      omega
  · simp at h

/-- The text after a reference is shorter than the text before it. -/
theorem length_reference? {text after : List Char} {piece : Piece}
    (h : reference? text = some (piece, after)) : after.length < text.length := by
  unfold reference? at h
  split at h
  · next c rest =>
    split at h
    · cases he : ending? ((c :: rest).dropWhile inName) with
      | none => simp [he] at h
      | some p =>
        simp only [he, Option.map_some, Option.some.injEq, Prod.mk.injEq] at h
        have h1 := @length_ending? _ after p.1 (by rw [he, ← h.2])
        have h2 := ((c :: rest).dropWhile_sublist inName).length_le
        omega
    · simp at h
  · simp at h

/-- The references of a text, and the characters between them. -/
def pieces : List Char → List Piece
  | [] => []
  | c :: rest =>
    if c = '$' then
      match rest with
      | [] => [.char c]
      | d :: more =>
        if d = '\x7b' then
          match _h : reference? more with
          | some (piece, after) => piece :: pieces after
          | none => .char c :: pieces (d :: more)
        else .char c :: pieces (d :: more)
    else .char c :: pieces rest
termination_by text => text.length
decreasing_by
  · have := length_reference? _h
    simp only [List.length_cons]
    omega
  all_goals simp only [List.length_cons]; omega

/-- What stands for a piece: the text that a variable is set to comes before the default. -/
def value? (env : Environment) : Piece → Option (List Char)
  | .char c => some [c]
  | .reference name fallback =>
    match env.var (String.ofList name) with
    | .ok value => some value.toList
    | .error _ => fallback

/-- The names without a value, each once, in the order in which they first come up. -/
def missing (env : Environment) (ps : List Piece) : List String :=
  ps.foldl (fun names p =>
    match p with
    | .reference name _ =>
      if (value? env p).isNone ∧ String.ofList name ∉ names then names ++ [String.ofList name]
      else names
    | .char _ => names) []

/-- The text with its references replaced. -/
def substitute (env : Environment) (text : String) : Except Settings.Fault String :=
  let ps := pieces text.toList
  match missing env ps with
  | [] => .ok (String.ofList (ps.flatMap fun p => (value? env p).getD []))
  | names =>
    .error (.validation ("Missing environment variables: " ++ String.intercalate ", " names))

end BlobDisk.Environment
