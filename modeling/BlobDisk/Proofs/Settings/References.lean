import BlobDisk.Proofs.Text.Decoding
import BlobDisk.Proofs.Text.Pieces
import BlobDisk.Settings.References
import Mathlib.Data.List.Induction

/-!
# References written out

A reference is a dollar sign and, in braces, a name, with or without a default. A text is read as characters and
references, and is these written one after the other, so what is read of a text that is made of literals and
references is what it is made of.

* `Environment.var_eq_ok`, `Environment.var_eq_unset`: what is read of a variable is the text with its bytes;
* `Environment.reference?_eq_some_iff`: what is read as a reference;
* `Environment.pieces_reference`, `Environment.pieces_literal`: a reference and a literal in front of a text;
* `Environment.flatMap_text_pieces`, `Environment.valid_of_mem_pieces`: every text is its pieces;
* `Environment.FirstMentions`, `Environment.firstMentions_missing`: the names that are complained about;
* `Environment.Template`, `Environment.Template.pieces_text`: literals and references, read as what they are;
* `Environment.substitute_single_pass`: a template is filled in piece by piece.
-/

namespace BlobDisk.Environment

/-! ## Pieces as they are written -/

/-- A letter of ASCII or an underscore, then such letters, digits and underscores. -/
def IsName : List Char → Prop
  | [] => False
  | c :: rest => (c.isAlpha = true ∨ c = '_') ∧ ∀ d ∈ rest, d.isAlphanum = true ∨ d = '_'

/-- What follows the name in a reference: the default, if there is one, and the brace that ends it. -/
def closing : Option (List Char) → List Char
  | none => ['\x7d']
  | some text => ':' :: '-' :: (text ++ ['\x7d'])

namespace Piece

/-- A piece as it stands in a text. -/
def text : Piece → List Char
  | char c => [c]
  | reference name fallback => '$' :: '\x7b' :: (name ++ closing fallback)

/-- Whether a piece is one that can be read: a reference needs a name, and its default has no brace. -/
def Valid : Piece → Prop
  | char _ => True
  | reference name fallback => IsName name ∧ ∀ d ∈ fallback, '\x7d' ∉ d

end Piece

variable {env : Environment} {c : Char} {input after rest name literal : List Char} {fallback : Option (List Char)}

/-! ## What is read of a variable -/

/-- A variable is read as the text that has its bytes, and not at all if there is no such text. -/
theorem var_eq_ok {name value : String} :
    env.var name = .ok value ↔ env.lookup name = some (Utf8.encode value.toList) := by
  unfold var
  cases env.lookup name with
  | none => exact ⟨nofun, nofun⟩
  | some bytes =>
    dsimp only
    rw [Option.some.injEq, ← Utf8.decode?_eq_some_iff]
    cases Utf8.decode? bytes with
    | none => exact ⟨nofun, nofun⟩
    | some text => rw [Except.ok.injEq, Option.some.injEq, ← String.toList_inj, String.toList_ofList]

/-- A variable counts as unset just if it is. -/
theorem var_eq_unset {name : String} : env.var name = .error .unset ↔ env.lookup name = none := by
  unfold var
  cases env.lookup name with
  | none => exact ⟨fun _ => rfl, fun _ => rfl⟩
  | some bytes =>
    dsimp only
    cases Utf8.decode? bytes <;> exact ⟨nofun, nofun⟩

/-- The text of a variable, if it is one. -/
def text? (env : Environment) (name : String) : Option String := (env.var name).toOption

theorem text?_eq_some {name value : String} : env.text? name = some value ↔ env.var name = .ok value := by
  unfold text?
  cases env.var name with
  | ok text => rw [Except.toOption, Option.some.injEq, Except.ok.injEq]
  | error e => exact ⟨nofun, nofun⟩

theorem value?_reference : value? env (.reference name fallback) =
    ((env.text? (String.ofList name)).map String.toList).or fallback := by
  rw [value?, text?]
  cases env.var (String.ofList name) <;> rfl

/-! ## What is read as a reference -/

theorem startsName_iff : startsName c = true ↔ c.isAlpha = true ∨ c = '_' := by
  rw [startsName, Bool.or_eq_true, decide_eq_true_eq]

theorem inName_iff : inName c = true ↔ c.isAlphanum = true ∨ c = '_' := by
  rw [inName, Bool.or_eq_true, decide_eq_true_eq]

theorem inName_of_startsName (h : startsName c = true) : inName c = true :=
  inName_iff.mpr ((startsName_iff.mp h).imp_left fun halpha => by rw [Char.isAlphanum, halpha, Bool.true_or])

theorem IsName.inName (h : IsName name) : ∀ d ∈ name, inName d = true := by
  cases name with
  | nil => exact List.forall_mem_nil _
  | cons c rest =>
    exact List.forall_mem_cons.mpr
      ⟨inName_of_startsName (startsName_iff.mpr h.1), fun d hd => inName_iff.mpr (h.2 d hd)⟩

/-- Without a brace in it, a default is read up to its end. -/
theorem ending?_eq_some_iff : ending? input = some (fallback, after) ↔
    input = closing fallback ++ after ∧ ∀ d ∈ fallback, '\x7d' ∉ d := by
  constructor
  · intro h
    unfold ending? at h
    split at h
    · obtain ⟨rfl, rfl⟩ := Prod.mk.inj (Option.some.inj h)
      exact ⟨rfl, nofun⟩
    · obtain ⟨⟨front, back⟩, hcut, hpair⟩ := Option.map_eq_some_iff.mp h
      obtain ⟨rfl, rfl⟩ := Prod.mk.inj hpair
      obtain ⟨rfl, hfront⟩ := Pieces.cut?_eq_some_iff.mp hcut
      refine ⟨by simp [closing], fun d hd => ?_⟩
      exact Option.some.inj hd ▸ hfront
    · cases h
  · rintro ⟨rfl, h⟩
    cases fallback with
    | none => rfl
    | some front =>
      have hcut : Pieces.cut? '\x7d' (front ++ ['\x7d'] ++ after) = some (front, after) :=
        Pieces.cut?_eq_some_iff.mpr ⟨List.append_assoc .., h front rfl⟩
      rw [closing, List.cons_append, List.cons_append, ending?, hcut, Option.map_some]

/-- A name ends where a reference goes on. -/
theorem takeWhile_name (h : IsName name) (fallback : Option (List Char)) (rest : List Char) :
    (name ++ (closing fallback ++ rest)).takeWhile inName = name ∧
      (name ++ (closing fallback ++ rest)).dropWhile inName = closing fallback ++ rest := by
  rw [List.takeWhile_append_of_pos h.inName, List.dropWhile_append_of_pos h.inName]
  cases fallback with
  | none => exact ⟨List.append_nil _, rfl⟩
  | some front => exact ⟨List.append_nil _, rfl⟩

theorem isName_takeWhile (h : startsName c = true) : IsName ((c :: rest).takeWhile inName) := by
  rw [List.takeWhile_cons_of_pos (inName_of_startsName h)]
  exact ⟨startsName_iff.mp h, fun d hd => inName_iff.mp (List.all_eq_true.mp List.all_takeWhile d hd)⟩

/-- A reference is read just where a name and what may follow it are written. -/
theorem reference?_eq_some_iff {piece : Piece} : reference? input = some (piece, after) ↔
    ∃ name fallback, piece = .reference name fallback ∧ IsName name ∧ (∀ d ∈ fallback, '\x7d' ∉ d) ∧
      input = name ++ (closing fallback ++ after) := by
  constructor
  · intro h
    unfold reference? at h
    split at h
    · rename_i c rest
      split at h
      · rename_i hstart
        obtain ⟨⟨fallback, back⟩, hending, hpair⟩ := Option.map_eq_some_iff.mp h
        obtain ⟨rfl, rfl⟩ := Prod.mk.inj hpair
        obtain ⟨hdrop, hbrace⟩ := ending?_eq_some_iff.mp hending
        refine ⟨_, fallback, rfl, isName_takeWhile hstart, hbrace, ?_⟩
        rw [← hdrop, List.takeWhile_append_dropWhile]
      · cases h
    · cases h
  · rintro ⟨name, fallback, rfl, hname, hbrace, rfl⟩
    obtain ⟨htake, hdrop⟩ := takeWhile_name hname fallback after
    have hending : ending? (closing fallback ++ after) = some (fallback, after) :=
      ending?_eq_some_iff.mpr ⟨rfl, hbrace⟩
    cases name with
    | nil => exact hname.elim
    | cons c rest =>
      rw [List.cons_append] at htake hdrop ⊢
      rw [reference?, if_pos (startsName_iff.mpr hname.1), htake, hdrop, hending, Option.map_some]

/-! ## Texts as pieces -/

theorem pieces_char (h : c ≠ '$') (rest : List Char) : pieces (c :: rest) = .char c :: pieces rest := by
  rw [pieces.eq_def]
  exact if_neg h

theorem pieces_reference (h : (Piece.reference name fallback).Valid) (rest : List Char) :
    pieces ((Piece.reference name fallback).text ++ rest) = .reference name fallback :: pieces rest := by
  have hread : reference? (name ++ closing fallback ++ rest) = some (.reference name fallback, rest) :=
    reference?_eq_some_iff.mpr ⟨name, fallback, rfl, h.1, h.2, List.append_assoc ..⟩
  rw [Piece.text, List.cons_append, List.cons_append, pieces, if_pos rfl, if_pos rfl]
  split
  · rename_i piece after hsome
    obtain ⟨rfl, rfl⟩ := Prod.mk.inj (Option.some.inj (hread.symm.trans hsome))
    rfl
  · rename_i hnone
    rw [hread] at hnone
    cases hnone

theorem pieces_literal (h : '$' ∉ literal) (rest : List Char) :
    pieces (literal ++ rest) = literal.map .char ++ pieces rest := by
  induction literal with
  | nil => rfl
  | cons c literal ih =>
    obtain ⟨hc, hliteral⟩ := List.ne_and_not_mem_of_not_mem_cons h
    rw [List.cons_append, pieces_char (Ne.symm hc), ih hliteral, List.map_cons, List.cons_append]

/-- What is read of a text is a text again, the same. -/
theorem flatMap_text_pieces (text : List Char) : (pieces text).flatMap Piece.text = text := by
  fun_induction pieces text with
  | case1 => rfl
  | case2 => rfl
  | case3 more piece after hread ih =>
    obtain ⟨name, fallback, rfl, -, -, rfl⟩ := reference?_eq_some_iff.mp hread
    rw [List.flatMap_cons, ih, Piece.text, List.cons_append, List.cons_append, List.append_assoc]
  | case4 _ _ ih | case5 _ _ _ ih | case6 _ _ _ ih =>
    rw [List.flatMap_cons, ih, Piece.text, List.singleton_append]

theorem valid_of_mem_pieces {piece : Piece} (h : piece ∈ pieces input) : piece.Valid := by
  fun_induction pieces input with
  | case1 => cases h
  | case2 => exact List.mem_singleton.mp h ▸ trivial
  | case3 more first after hread ih =>
    rcases List.mem_cons.mp h with rfl | h
    · obtain ⟨name, fallback, rfl, hname, hbrace, -⟩ := reference?_eq_some_iff.mp hread
      exact ⟨hname, hbrace⟩
    · exact ih h
  | case4 _ _ ih | case5 _ _ _ ih | case6 _ _ _ ih =>
    exact (List.mem_cons.mp h).elim (fun heq => heq ▸ trivial) ih

/-! ## Names without a value -/

/-- The names among all that are mentioned: each once, in the order in which they are first mentioned. -/
structure FirstMentions (mentions names : List String) : Prop where
  mem_iff : ∀ name, name ∈ names ↔ name ∈ mentions
  ordered : names.Pairwise fun a b => mentions.idxOf a < mentions.idxOf b

/-- One more mention adds a name if the name is new. -/
theorem FirstMentions.mention {mentions names : List String} (h : FirstMentions mentions names) (name : String) :
    FirstMentions (mentions ++ [name]) (if name ∈ names then names else names ++ [name]) := by
  -- The mentions of what is listed already stand where they stood.
  have hkept : names.Pairwise fun a b => (mentions ++ [name]).idxOf a < (mentions ++ [name]).idxOf b :=
    h.ordered.imp_of_mem fun ha hb hlt => by
      rwa [List.idxOf_append, List.idxOf_append, if_pos ((h.mem_iff _).mp ha), if_pos ((h.mem_iff _).mp hb)]
  split
  · rename_i hname
    refine ⟨fun other => ?_, hkept⟩
    rw [List.mem_append, List.mem_singleton, ← h.mem_iff]
    exact ⟨.inl, fun hother => hother.elim id fun heq => heq ▸ hname⟩
  · rename_i hname
    refine ⟨fun other => ?_, List.pairwise_append.mpr ⟨hkept, List.pairwise_singleton .., ?_⟩⟩
    · rw [List.mem_append, List.mem_append, h.mem_iff]
    · intro a ha b hb
      obtain rfl := List.mem_singleton.mp hb
      have hnew : b ∉ mentions := fun hb => hname ((h.mem_iff b).mpr hb)
      rw [List.idxOf_append, List.idxOf_append, if_pos ((h.mem_iff a).mp ha), if_neg hnew]
      exact Nat.lt_of_lt_of_le (List.idxOf_lt_length_iff.mpr ((h.mem_iff a).mp ha)) (Nat.le_add_left ..)

/-- The name in a reference that has nothing to take its place. -/
def Piece.unset? (env : Environment) : Piece → Option String
  | .char _ => none
  | .reference name fallback =>
    if env.text? (String.ofList name) = none ∧ fallback = none then some (String.ofList name) else none

theorem isNone_value?_reference : (value? env (.reference name fallback)).isNone = true ↔
    env.text? (String.ofList name) = none ∧ fallback = none := by
  rw [Option.isNone_iff_eq_none, value?_reference, Option.or_eq_none_iff, Option.map_eq_none_iff]

/-- One more piece adds its name, unless it has a value or the name is there already. -/
theorem missing_concat (env : Environment) (ps : List Piece) (p : Piece) : missing env (ps ++ [p]) =
    (p.unset? env).elim (missing env ps) fun name =>
      if name ∈ missing env ps then missing env ps else missing env ps ++ [name] := by
  rw [missing, List.foldl_append, ← missing]
  cases p with
  | char c => rfl
  | reference name fallback =>
    simp only [List.foldl_cons, List.foldl_nil, isNone_value?_reference, Piece.unset?]
    by_cases hunset : env.text? (String.ofList name) = none ∧ fallback = none
    · rw [if_pos hunset, Option.elim_some]
      by_cases hname : String.ofList name ∈ missing env ps
      · rw [if_pos hname, if_neg fun h => h.2 hname]
      · rw [if_neg hname, if_pos ⟨hunset, hname⟩]
    · rw [if_neg hunset, if_neg fun h => hunset h.1, Option.elim_none]

theorem firstMentions_missing (env : Environment) (ps : List Piece) :
    FirstMentions (ps.filterMap (Piece.unset? env)) (missing env ps) := by
  induction ps using List.reverseRecOn with
  | nil => exact ⟨fun _ => Iff.rfl, List.Pairwise.nil⟩
  | append_singleton ps p ih =>
    rw [List.filterMap_append, missing_concat]
    cases hname : p.unset? env with
    | none =>
      rw [List.filterMap_cons_none hname, List.filterMap_nil, List.append_nil]
      exact ih
    | some name =>
      rw [List.filterMap_cons_some hname]
      exact ih.mention name

/-- The text that pieces are replaced by. -/
def filled (env : Environment) (ps : List Piece) : List Char := ps.flatMap fun p => (value? env p).getD []

theorem substitute_eq_ok {source : String} (h : (pieces source.toList).filterMap (Piece.unset? env) = []) :
    substitute env source = .ok (String.ofList (filled env (pieces source.toList))) := by
  have hnames : missing env (pieces source.toList) = [] :=
    List.eq_nil_iff_forall_not_mem.mpr fun name hname => by
      have hmention := ((firstMentions_missing env _).mem_iff name).mp hname
      rw [h] at hmention
      cases hmention
  rw [substitute, hnames]
  rfl

theorem substitute_eq_error {source : String} (h : (pieces source.toList).filterMap (Piece.unset? env) ≠ []) :
    ∃ names, FirstMentions ((pieces source.toList).filterMap (Piece.unset? env)) names ∧
      substitute env source =
        .error (.validation ("Missing environment variables: " ++ String.intercalate ", " names)) := by
  have hfirst := firstMentions_missing env (pieces source.toList)
  refine ⟨_, hfirst, ?_⟩
  obtain ⟨name, hname⟩ := List.exists_mem_of_ne_nil _ h
  have hnames := (hfirst.mem_iff name).mpr hname
  unfold substitute
  dsimp only
  split
  · rename_i hnil
    rw [hnil] at hnames
    cases hnames
  · rfl

/-! ## Templates -/

/-- A reference to a variable: its name, and its default if it has one. -/
structure Reference where
  name : String
  fallback : Option String
  isName : IsName name.toList
  unbraced : ∀ d ∈ fallback, '\x7d' ∉ d.toList

namespace Reference

variable (r : Reference)

/-- The reference as it is written. -/
def text : String :=
  "$\x7b" ++ r.name ++ (match r.fallback with | none => "" | some d => ":-" ++ d) ++ "\x7d"

/-- What takes the place of the reference: the text that the variable is set to, else the default. -/
def value? (env : Environment) : Option String := (env.text? r.name).or r.fallback

/-- The reference as it is read. -/
def piece : Piece := .reference r.name.toList (r.fallback.map String.toList)

theorem valid_piece : r.piece.Valid := by
  refine ⟨r.isName, fun d hd => ?_⟩
  obtain ⟨text, htext, rfl⟩ := Option.map_eq_some_iff.mp hd
  exact r.unbraced text htext

theorem text_piece : r.piece.text = r.text.toList := by
  unfold text piece Piece.text
  cases r.fallback <;> simp [closing]

theorem value?_piece (env : Environment) : Environment.value? env r.piece = (r.value? env).map String.toList := by
  rw [piece, value?_reference, value?, String.ofList_toList, Option.map_or]

theorem unset?_piece (env : Environment) :
    r.piece.unset? env = if r.value? env = none then some r.name else none := by
  simp only [piece, Piece.unset?, value?, String.ofList_toList, Option.map_eq_none_iff, Option.or_eq_none_iff]

theorem exists_piece_eq (h : (Piece.reference name fallback).Valid) :
    ∃ r : Reference, r.piece = .reference name fallback := by
  have hfallback : ∀ d ∈ fallback.map String.ofList, '\x7d' ∉ d.toList := fun d hd => by
    obtain ⟨chars, hchars, rfl⟩ := Option.map_eq_some_iff.mp hd
    rw [String.toList_ofList]
    exact h.2 chars hchars
  refine ⟨⟨String.ofList name, fallback.map String.ofList, ?_, hfallback⟩, ?_⟩
  · rw [String.toList_ofList]
    exact h.1
  · cases fallback <;> simp [piece]

end Reference

/-- A text between references, which has no dollar sign. -/
structure Literal where
  text : String
  plain : '$' ∉ text.toList

/-- A text with references: a literal, and references with a literal after each. -/
structure Template where
  start : Literal
  parts : List (Reference × Literal)

namespace Template

variable (t : Template)

/-- The template as it is written. -/
def text : String := t.start.text ++ String.join (t.parts.map fun p => p.1.text ++ p.2.text)

/-- The template with what takes the places of its references. -/
def filled (env : Environment) : String :=
  t.start.text ++ String.join (t.parts.map fun p => (p.1.value? env).getD "" ++ p.2.text)

/-- The names of the references that nothing takes the place of, in order. -/
def unset (env : Environment) : List String :=
  ((t.parts.map Prod.fst).filter fun r => r.value? env = none).map (·.name)

/-- The template as it is read. -/
def pieces : List Piece :=
  t.start.text.toList.map .char ++ t.parts.flatMap fun p => p.1.piece :: p.2.text.toList.map .char

theorem pieces_parts (parts : List (Reference × Literal)) :
    Environment.pieces (parts.flatMap fun p => p.1.text.toList ++ p.2.text.toList) =
      parts.flatMap fun p => p.1.piece :: p.2.text.toList.map .char := by
  induction parts with
  | nil => rw [List.flatMap_nil, List.flatMap_nil, Environment.pieces]
  | cons p parts ih =>
    rw [List.flatMap_cons, List.flatMap_cons, ← Reference.text_piece, List.append_assoc, Reference.piece,
      pieces_reference p.1.valid_piece, pieces_literal p.2.plain, ih, List.cons_append]

/-- A template is read as what it is made of. -/
theorem pieces_text : Environment.pieces t.text.toList = t.pieces := by
  have htext : t.text.toList =
      t.start.text.toList ++ t.parts.flatMap fun p => p.1.text.toList ++ p.2.text.toList := by
    rw [text, String.toList_append, String.toList_join, List.flatMap_map]
    simp only [String.toList_append]
  rw [htext, pieces_literal t.start.plain, pieces_parts, pieces]

theorem filterMap_unset?_literal (env : Environment) (literal : List Char) :
    (literal.map Piece.char).filterMap (Piece.unset? env) = [] := by
  rw [List.filterMap_map]
  exact List.filterMap_eq_nil_iff.mpr fun _ _ => rfl

theorem filterMap_unset? (env : Environment) : t.pieces.filterMap (Piece.unset? env) = t.unset env := by
  rw [pieces, List.filterMap_append, filterMap_unset?_literal, List.nil_append, unset]
  induction t.parts with
  | nil => rfl
  | cons p parts ih =>
    rw [List.flatMap_cons, List.filterMap_append, ih, List.filterMap_cons, filterMap_unset?_literal, List.map_cons,
      List.filter_cons, Reference.unset?_piece]
    by_cases hvalue : p.1.value? env = none
    · rw [if_pos hvalue, if_pos (decide_eq_true hvalue)]
      rfl
    · rw [if_neg hvalue, if_neg (mt of_decide_eq_true hvalue)]
      rfl

theorem filled_literal (env : Environment) (literal : List Char) :
    Environment.filled env (literal.map Piece.char) = literal := by
  rw [Environment.filled, List.flatMap_map]
  exact List.flatMap_singleton' literal

theorem filled_pieces (env : Environment) : Environment.filled env t.pieces = (t.filled env).toList := by
  have hvalue (r : Reference) : (Environment.value? env r.piece).getD [] = ((r.value? env).getD "").toList := by
    rw [Reference.value?_piece]
    cases r.value? env <;> rfl
  rw [filled, String.toList_append, String.toList_join, List.flatMap_map, pieces, Environment.filled,
    List.flatMap_append, ← Environment.filled, filled_literal, List.flatMap_assoc]
  congr 2
  funext p
  rw [List.flatMap_cons, ← Environment.filled, filled_literal, hvalue, String.toList_append]

theorem unset_eq_nil_iff (env : Environment) : t.unset env = [] ↔
    ∀ p ∈ t.parts, p.1.fallback = none → ∃ value, env.var p.1.name = .ok value := by
  simp only [unset, List.map_eq_nil_iff, List.filter_eq_nil_iff, List.forall_mem_map, decide_eq_true_eq,
    Reference.value?, Option.or_eq_none_iff, not_and', Option.ne_none_iff_exists', ← text?_eq_some]

end Template

/-- A text where no reference is written is only characters. -/
theorem exists_eq_char_of_mem_pieces {source : String}
    (h : ∀ (front back : String) (r : Reference), source ≠ front ++ r.text ++ back) :
    ∀ piece ∈ pieces source.toList, ∃ c, piece = .char c := by
  intro piece hpiece
  cases piece with
  | char c => exact ⟨c, rfl⟩
  | reference name fallback =>
    obtain ⟨r, hr⟩ := Reference.exists_piece_eq (valid_of_mem_pieces hpiece)
    obtain ⟨before, behind, hsplit⟩ := List.append_of_mem hpiece
    refine (h (String.ofList (before.flatMap Piece.text)) (String.ofList (behind.flatMap Piece.text)) r ?_).elim
    rw [← String.toList_inj, ← flatMap_text_pieces source.toList, hsplit, List.flatMap_append, List.flatMap_cons,
      ← hr, Reference.text_piece, String.toList_append, String.toList_append, String.toList_ofList,
      String.toList_ofList, List.append_assoc]

/-- Two references to one variable, and a default that starts like a reference. -/
def Sample.template : Template where
  start := ⟨"a: ", by decide⟩
  parts := [
    (⟨"A", none, ⟨.inl rfl, nofun⟩, nofun⟩, ⟨", b: ", by decide⟩),
    (⟨"B", some "$\x7bA", ⟨.inl rfl, nofun⟩, by decide⟩, ⟨"", by decide⟩),
    (⟨"C", none, ⟨.inl rfl, nofun⟩, nofun⟩, ⟨"", by decide⟩),
    (⟨"A", none, ⟨.inl rfl, nofun⟩, nofun⟩, ⟨".", by decide⟩)]

/-- A variable that looks like a reference, one that is no text, and an empty one. -/
def Sample.environment : Environment :=
  [("A", Utf8.encode "$\x7bB\x7d".toList), ("B", [0xFF]), ("C", [])]

end BlobDisk.Environment
