/-!
# Maps from text to text

Metadata and labels are finite maps. They are kept as pairs in increasing order of their keys, each key
once, so that equal maps have equal lists.

* `TextMap.insert`, `TextMap.get?`, `TextMap.ofList`;
* `TextMap.get?_insert`: what an insertion does to each key.
-/

namespace BlobDisk

/-- A finite map from text to text: its pairs in increasing order of the keys. -/
abbrev TextMap := List (String × String)

namespace TextMap

/-- The map with `key` set to `value`. -/
def insert (key value : String) : TextMap → TextMap
  | [] => [(key, value)]
  | (k, v) :: rest =>
    if key = k then (key, value) :: rest
    else if key < k then (key, value) :: (k, v) :: rest
    else (k, v) :: insert key value rest

/-- The value of `key`. -/
def get? (key : String) : TextMap → Option String
  | [] => none
  | (k, v) :: rest => if key = k then some v else get? key rest

/-- The map of the pairs; of several pairs with one key the last counts. -/
def ofList (pairs : List (String × String)) : TextMap :=
  pairs.foldl (fun m p => insert p.1 p.2 m) []

theorem get?_insert (key value k : String) (m : TextMap) :
    get? k (insert key value m) = if k = key then some value else get? k m := by
  induction m with
  | nil => simp [insert, get?]
  | cons p rest ih =>
    obtain ⟨k', v⟩ := p
    simp only [insert]
    split
    · next h => subst h; by_cases hk : k = key <;> simp [get?, hk]
    · split
      · by_cases hk : k = key <;> simp [get?, hk]
      · next h _ =>
        by_cases hk : k = k'
        · subst hk; simp [get?, Ne.symm h]
        · simp [get?, hk, ih]

/-- A second insertion of the same pair changes nothing. -/
theorem insert_insert (key value : String) (m : TextMap) :
    insert key value (insert key value m) = insert key value m := by
  induction m with
  | nil => simp [insert]
  | cons p rest ih =>
    obtain ⟨k', v⟩ := p
    simp only [insert]
    split
    · simp [insert]
    · split
      · simp [insert]
      · next h h' => simp [insert, h, h', ih]

end TextMap

end BlobDisk
