import BlobDisk.Proofs.Json.Scalar

/-!
# JSON written and read

A value is read as it was written, at any indentation, if all its strings are text and all its numbers
whole.

* `Json.value?_array`, `Json.value?_object`: what is read between brackets;
* `Json.Reads`: a text that is read as a value, whatever ends it;
* `Json.reads_write`: what is written of a value at any depth is read as that value;
* `Json.Value.read?_pretty`: and so is all of it.
-/

namespace BlobDisk.Json

/-! ## Blanks -/

theorem skip_skip (bytes : List UInt8) : skip (skip bytes) = skip bytes := by
  unfold skip
  induction bytes with
  | nil => rfl
  | cons b bytes ih =>
    cases hb : isBlank b with
    | true => rwa [List.dropWhile_cons_of_pos hb]
    | false =>
      have hkeep : (b :: bytes).dropWhile isBlank = b :: bytes := List.dropWhile_cons_of_neg (by simp [hb])
      rw [hkeep, hkeep]

theorem value?_skip (fuel : Nat) (bytes : List UInt8) : value? fuel (skip bytes) = value? fuel bytes := by
  cases fuel with
  | zero => rw [value?, value?]
  | succ fuel => rw [value?.eq_2, value?.eq_2, skip_skip]

theorem items?_skip (fuel : Nat) (bytes : List UInt8) : items? fuel (skip bytes) = items? fuel bytes := by
  cases fuel with
  | zero => rw [items?, items?]
  | succ fuel => rw [items?, items?, value?_skip]

theorem fields?_skip (fuel : Nat) (bytes : List UInt8) : fields? fuel (skip bytes) = fields? fuel bytes := by
  cases fuel with
  | zero => rw [fields?, fields?]
  | succ fuel => rw [fields?, fields?, skip_skip]

theorem skip_newline (indent depth : Nat) (bytes : List UInt8) :
    skip (Utf8.encode (newline indent depth) ++ bytes) = skip bytes := by
  have hblank : Utf8.encode (newline indent depth) = 10 :: List.replicate (indent * depth) 32 := by
    rw [Utf8.encode_of_ascii]
    · simp [newline]
    · intro c hc
      simp only [newline, List.mem_cons, List.mem_replicate] at hc
      rcases hc with rfl | ⟨-, rfl⟩ <;> decide
  rw [hblank, skip, skip, List.dropWhile_append_of_pos]
  intro b hb
  simp only [List.mem_cons, List.mem_replicate] at hb
  rcases hb with rfl | ⟨-, rfl⟩ <;> rfl

/-! ## Brackets -/

section

variable {fuel : Nat} {bytes rest more after : List UInt8} {v : Value} {vs : List Value}
  {key : Option String} {fs : List (Option String × Value)}

theorem items?_last (h : value? fuel bytes = some (v, rest)) (hrest : skip rest = 93 :: after) :
    items? (fuel + 1) bytes = some ([v], after) := by
  simp only [items?, h, hrest, Option.bind_eq_bind, Option.bind_some]
  rfl

theorem items?_more (h : value? fuel bytes = some (v, rest)) (hrest : skip rest = 44 :: more)
    (hmore : items? fuel more = some (vs, after)) : items? (fuel + 1) bytes = some (v :: vs, after) := by
  simp only [items?, h, hrest, hmore, Option.bind_eq_bind, Option.bind_some]
  rfl

/-- No item starts with a closing bracket. -/
theorem items?_close : items? fuel (93 :: bytes) = none := by
  cases fuel with
  | zero => rw [items?]
  | succ fuel =>
    rw [items?]
    cases fuel with
    | zero => rw [value?]; rfl
    | succ fuel => rfl

theorem value?_array (h : items? fuel bytes = some (vs, after)) :
    value? (fuel + 1) (91 :: bytes) = some (.array vs, after) := by
  have hskip : skip (91 :: bytes) = 91 :: bytes := rfl
  rw [value?.eq_2, hskip]
  split
  case h_3 rest heq =>
    obtain ⟨-, rfl⟩ := List.cons.inj heq
    split
    · rename_i heq
      rw [← items?_skip, heq, items?_close] at h
      cases h
    · rw [items?_skip, h]
      rfl
  -- The other branches are for other first bytes.
  all_goals simp_all

theorem fields?_last {start body : List UInt8} (hkey : skip bytes = 34 :: start)
    (hstart : string? start = some (key, 58 :: body)) (h : value? fuel body = some (v, rest))
    (hrest : skip rest = 125 :: after) : fields? (fuel + 1) bytes = some ([(key, v)], after) := by
  have hcolon : skip (58 :: body) = 58 :: body := rfl
  simp only [fields?, hkey, hstart, hcolon, h, hrest, Option.bind_eq_bind, Option.bind_some]
  rfl

theorem fields?_more {start body : List UInt8} (hkey : skip bytes = 34 :: start)
    (hstart : string? start = some (key, 58 :: body)) (h : value? fuel body = some (v, rest))
    (hrest : skip rest = 44 :: more) (hmore : fields? fuel more = some (fs, after)) :
    fields? (fuel + 1) bytes = some ((key, v) :: fs, after) := by
  have hcolon : skip (58 :: body) = 58 :: body := rfl
  simp only [fields?, hkey, hstart, hcolon, h, hrest, hmore, Option.bind_eq_bind, Option.bind_some]
  rfl

/-- No field starts with a closing brace. -/
theorem fields?_close : fields? fuel (125 :: bytes) = none := by
  cases fuel with
  | zero => rw [fields?]
  | succ fuel => rfl

theorem value?_object (h : fields? fuel bytes = some (fs, after)) :
    value? (fuel + 1) (123 :: bytes) = some (.object fs, after) := by
  have hskip : skip (123 :: bytes) = 123 :: bytes := rfl
  rw [value?.eq_2, hskip]
  split
  case h_4 rest heq =>
    obtain ⟨-, rfl⟩ := List.cons.inj heq
    split
    · rename_i heq
      rw [← fields?_skip, heq, fields?_close] at h
      cases h
    · rw [fields?_skip, h]
      rfl
  -- The other branches are for other first bytes.
  all_goals simp_all

end

/-! ## Values -/

mutual

/-- Whether all strings and keys of the value are texts and all its numbers whole. -/
def Value.isExact : Value → Bool
  | .null | .bool _ | .int _ => true
  | .fraction => false
  | .string text => text.isSome
  | .array items => itemsExact items
  | .object fields => fieldsExact fields

/-- The same of the items of an array. -/
def itemsExact : List Value → Bool
  | [] => true
  | v :: rest => v.isExact && itemsExact rest

/-- The same of the fields of an object. -/
def fieldsExact : List (Option String × Value) → Bool
  | [] => true
  | (key, v) :: rest => key.isSome && v.isExact && fieldsExact rest

end

/-- The text is read as the value, in as many steps as it has characters and up to what ends it. -/
def Reads (text : List Char) (v : Value) : Prop :=
  ∀ fuel rest, text.length ≤ fuel → Ends rest → value? fuel (Utf8.encode text ++ rest) = some (v, rest)

/-- The text is read as items up to a closing bracket. -/
def ReadsItems (text : List Char) (items : List Value) : Prop :=
  ∀ fuel rest after, text.length < fuel → Ends rest → skip rest = 93 :: after →
    items? fuel (Utf8.encode text ++ rest) = some (items, after)

/-- The text is read as fields up to a closing brace. -/
def ReadsFields (text : List Char) (fields : List (Option String × Value)) : Prop :=
  ∀ fuel rest after, text.length < fuel → Ends rest → skip rest = 125 :: after →
    fields? fuel (Utf8.encode text ++ rest) = some (fields, after)

section

variable {indent depth : Nat} {v : Value} {text more : List Char} {vs : List Value}

theorem ends_comma {rest : List UInt8} : Ends (44 :: rest) := by
  rintro b ⟨⟩
  exact .inl rfl

theorem ends_newline {rest : List UInt8} : Ends (Utf8.encode (newline indent depth) ++ rest) := by
  rintro b ⟨⟩
  exact .inr rfl

theorem reads_of_succ (hne : text ≠ []) (h : ∀ fuel rest, text.length ≤ fuel + 1 → Ends rest →
    value? (fuel + 1) (Utf8.encode text ++ rest) = some (v, rest)) : Reads text v := by
  intro fuel rest hfuel hrest
  have hlength := List.length_pos_iff.mpr hne
  obtain ⟨fuel, rfl⟩ := Nat.exists_eq_add_one_of_ne_zero (show fuel ≠ 0 by omega)
  exact h fuel rest hfuel hrest

/-! ### Arrays -/

theorem encode_block {opening closing : Char} {first last : UInt8} (hopening : Utf8.encode [opening] = [first])
    (hclosing : Utf8.encode [closing] = [last]) (rest : List UInt8) :
    Utf8.encode (opening :: (newline indent (depth + 1) ++ text ++ newline indent depth ++ [closing])) ++ rest =
      first :: (Utf8.encode (newline indent (depth + 1)) ++
        (Utf8.encode text ++ (Utf8.encode (newline indent depth) ++ last :: rest))) := by
  rw [show ∀ more, opening :: more = [opening] ++ more from fun _ => rfl]
  simp only [Utf8.encode_append, hopening, hclosing, List.append_assoc]
  rfl

theorem encode_separated (front : List Char) (rest : List UInt8) :
    Utf8.encode (front ++ ',' :: newline indent depth ++ more) ++ rest =
      Utf8.encode front ++ 44 :: (Utf8.encode (newline indent depth) ++ (Utf8.encode more ++ rest)) := by
  simp only [Utf8.encode_append, List.append_assoc]
  rfl

theorem readsItems_last (h : Reads text v) : ReadsItems text [v] := by
  intro fuel rest after hfuel hrest hclose
  obtain ⟨fuel, rfl⟩ := Nat.exists_eq_add_one_of_ne_zero (show fuel ≠ 0 by omega)
  exact items?_last (h fuel rest (by omega) hrest) hclose

theorem readsItems_more (h : Reads text v) (hmore : ReadsItems more vs) :
    ReadsItems (text ++ ',' :: newline indent depth ++ more) (v :: vs) := by
  intro fuel rest after hfuel hrest hclose
  obtain ⟨fuel, rfl⟩ := Nat.exists_eq_add_one_of_ne_zero (show fuel ≠ 0 by omega)
  simp only [List.length_append, List.length_cons] at hfuel
  rw [encode_separated]
  refine items?_more (h fuel _ (by omega) ends_comma) rfl ?_
  rw [← items?_skip, skip_newline, items?_skip]
  exact hmore fuel rest after (by omega) hrest hclose

theorem reads_array (h : ReadsItems text vs) :
    Reads ('[' :: (newline indent (depth + 1) ++ text ++ newline indent depth ++ [']'])) (.array vs) := by
  refine reads_of_succ nofun fun fuel rest hfuel _ => ?_
  simp only [List.length_append, List.length_cons, newline] at hfuel
  rw [encode_block rfl rfl]
  refine value?_array ?_
  rw [← items?_skip, skip_newline, items?_skip]
  refine h fuel _ rest (by omega) ends_newline ?_
  rw [skip_newline]
  rfl

/-! ### Objects -/

variable {key : String} {fs : List (Option String × Value)}

theorem field_read (h : Reads text v) (key : String) {fuel : Nat} {rest : List UInt8}
    (hfuel : text.length ≤ fuel) (hrest : Ends rest) : ∃ start body,
    Utf8.encode (quote (some key) ++ ':' :: ' ' :: text) ++ rest = 34 :: start ∧
      string? start = some (some key, 58 :: body) ∧ value? fuel body = some (v, rest) := by
  obtain ⟨start, hquote, hkey⟩ := string?_quote key (58 :: 32 :: (Utf8.encode text ++ rest))
  refine ⟨start, 32 :: (Utf8.encode text ++ rest), ?_, hkey, ?_⟩
  · rw [← hquote, Utf8.encode_append, List.append_assoc]
    rfl
  · rw [← value?_skip]
    change value? fuel (skip (Utf8.encode text ++ rest)) = _
    rw [value?_skip]
    exact h fuel rest hfuel hrest

theorem readsFields_last (h : Reads text v) :
    ReadsFields (quote (some key) ++ ':' :: ' ' :: text) [(some key, v)] := by
  intro fuel rest after hfuel hrest hclose
  obtain ⟨fuel, rfl⟩ := Nat.exists_eq_add_one_of_ne_zero (show fuel ≠ 0 by omega)
  simp only [List.length_append, List.length_cons] at hfuel
  have hfits : text.length ≤ fuel := by omega
  obtain ⟨start, body, hbytes, hkey, hvalue⟩ := field_read h key hfits hrest
  rw [hbytes]
  exact fields?_last rfl hkey hvalue hclose

theorem readsFields_more (h : Reads text v) (hmore : ReadsFields more fs) :
    ReadsFields (quote (some key) ++ ':' :: ' ' :: text ++ ',' :: newline indent depth ++ more)
      ((some key, v) :: fs) := by
  intro fuel rest after hfuel hrest hclose
  obtain ⟨fuel, rfl⟩ := Nat.exists_eq_add_one_of_ne_zero (show fuel ≠ 0 by omega)
  simp only [List.length_append, List.length_cons] at hfuel
  rw [encode_separated]
  have hfits : text.length ≤ fuel := by omega
  obtain ⟨start, body, hbytes, hkey, hvalue⟩ := field_read h key hfits ends_comma
  rw [hbytes]
  refine fields?_more rfl hkey hvalue rfl ?_
  rw [← fields?_skip, skip_newline, fields?_skip]
  exact hmore fuel rest after (by omega) hrest hclose

theorem reads_object (h : ReadsFields text fs) :
    Reads ('\x7b' :: (newline indent (depth + 1) ++ text ++ newline indent depth ++ ['\x7d'])) (.object fs) := by
  refine reads_of_succ nofun fun fuel rest hfuel _ => ?_
  simp only [List.length_append, List.length_cons, newline] at hfuel
  rw [encode_block rfl rfl]
  refine value?_object ?_
  rw [← fields?_skip, skip_newline, fields?_skip]
  refine h fuel _ rest (by omega) ends_newline ?_
  rw [skip_newline]
  rfl

end

/-! ### Numbers and strings -/

/-- A minus and digits start numbers only. -/
theorem value?_number {fuel : Nat} {b : UInt8} (hb : b = 45 ∨ isDigit b = true) (bytes : List UInt8) :
    value? (fuel + 1) (b :: bytes) = number? (b :: bytes) := by
  have hne : ∀ c : UInt8, c ≠ 45 → isDigit c = false → b ≠ c := by
    rintro c hminus hdigit rfl
    rcases hb with h | h
    · exact hminus h
    · rw [hdigit] at h
      cases h
  have hskip : skip (b :: bytes) = b :: bytes := by
    refine List.dropWhile_cons_of_neg ?_
    simp [isBlank, hne 32 (by decide) rfl, hne 9 (by decide) rfl, hne 10 (by decide) rfl, hne 13 (by decide) rfl]
  rw [value?.eq_2, hskip]
  split
  · rename_i heq
    cases heq
  · rename_i heq
    exact (hne 34 (by decide) rfl (List.cons.inj heq).1).elim
  · rename_i heq
    exact (hne 91 (by decide) rfl (List.cons.inj heq).1).elim
  · rename_i heq
    exact (hne 123 (by decide) rfl (List.cons.inj heq).1).elim
  · rename_i heq
    cases heq
    rw [if_neg (hne 110 (by decide) rfl), if_neg (hne 116 (by decide) rfl), if_neg (hne 102 (by decide) rfl)]

theorem reads_int (n : Int) : Reads (toString n).toList (.int n) := by
  have hstart : ∃ b bytes, Utf8.encode (toString n).toList = b :: bytes ∧ (b = 45 ∨ isDigit b = true) := by
    cases n with
    | ofNat m =>
      obtain ⟨b, bytes, hb⟩ := List.exists_cons_of_ne_nil (digitBytes_ne_nil m)
      refine ⟨b, bytes, ?_, .inr (isDigit_of_mem_digitBytes b (hb ▸ List.mem_cons_self))⟩
      rw [← hb, ← encode_toDigits, ← Decimal.toList_toString]
      rfl
    | negSucc m =>
      refine ⟨45, digitBytes (m + 1), ?_, .inl rfl⟩
      rw [Decimal.toList_negSucc, Utf8.encode_cons, encode_toDigits]
      rfl
  obtain ⟨b, bytes, hbytes, hb⟩ := hstart
  have hne : (toString n).toList ≠ [] := by
    intro h
    rw [h] at hbytes
    cases hbytes
  refine reads_of_succ hne fun fuel rest _ hrest => ?_
  have hnumber := number?_toString n hrest
  rw [hbytes] at hnumber ⊢
  rw [List.cons_append, value?_number hb]
  exact hnumber

theorem reads_string (text : String) : Reads (quote (some text)) (.string (some text)) := by
  refine reads_of_succ nofun fun fuel rest _ _ => ?_
  obtain ⟨start, hquote, hstring⟩ := string?_quote text rest
  rw [hquote]
  change (string? start).map _ = _
  rw [hstring]
  rfl

/-! ### All of it -/

/-- What is written of a value is read as that value. -/
theorem reads_write (indent : Nat) :
    (∀ depth v, v.isExact = true → Reads (v.write indent depth) v) ∧
    (∀ depth fields, fields ≠ [] → fieldsExact fields = true →
      ReadsFields (Pieces.join (',' :: newline indent (depth + 1)) (writeFields indent depth fields)) fields) ∧
    ∀ depth items, items ≠ [] → itemsExact items = true →
      ReadsItems (Pieces.join (',' :: newline indent (depth + 1)) (writeItems indent depth items)) items := by
  apply Value.write.mutual_induct
  case case1 => exact fun depth _ => reads_of_succ nofun fun _ _ _ _ => rfl
  case case2 =>
    intro depth b _
    cases b <;> exact reads_of_succ nofun fun _ _ _ _ => rfl
  case case3 => exact fun depth n _ => reads_int n
  case case4 => exact fun depth h => Bool.noConfusion h
  case case5 =>
    intro depth text htext
    obtain ⟨text, rfl⟩ := Option.isSome_iff_exists.mp htext
    exact reads_string text
  -- The brackets of an array or an object stand on lines of their own unless there is nothing in them.
  case case6 =>
    intro depth items hitems hexact
    cases items with
    | nil => exact reads_of_succ nofun fun _ _ _ _ => rfl
    | cons v items => exact reads_array (hitems nofun hexact)
  case case7 =>
    intro depth fields hfields hexact
    cases fields with
    | nil => exact reads_of_succ nofun fun _ _ _ _ => rfl
    | cons f fields => exact reads_object (hfields nofun hexact)
  case case8 => exact fun depth h => (h rfl).elim
  case case9 =>
    intro depth v items hv hitems _ hexact
    rw [itemsExact, Bool.and_eq_true] at hexact
    cases items with
    | nil => exact readsItems_last (hv hexact.1)
    | cons w items => exact readsItems_more (hv hexact.1) (hitems nofun hexact.2)
  case case10 => exact fun depth h => (h rfl).elim
  case case11 =>
    intro depth key v fields hv hfields _ hexact
    rw [fieldsExact, Bool.and_eq_true, Bool.and_eq_true] at hexact
    obtain ⟨⟨hkey, hexact⟩, hrest⟩ := hexact
    obtain ⟨key, rfl⟩ := Option.isSome_iff_exists.mp hkey
    cases fields with
    | nil => exact readsFields_last (hv hexact)
    | cons f fields => exact readsFields_more (hv hexact) (hfields nofun hrest)

/-- What is written is read as it was. -/
theorem Value.read?_pretty {v : Value} (h : v.isExact = true) (indent : Nat) :
    Value.read? (Utf8.encode (v.pretty indent).toList) = some v := by
  have hlength := Utf8.length_le_encode (v.write indent 0)
  have hread := (reads_write indent).1 0 v h (2 * (Utf8.encode (v.write indent 0)).length + 2) []
    (by omega) nofun
  rw [List.append_nil] at hread
  rw [Value.pretty, String.toList_ofList, Value.read?, hread]
  rfl

end BlobDisk.Json
