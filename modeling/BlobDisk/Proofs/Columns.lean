import BlobDisk.Proofs.Text.Blank
import BlobDisk.Proofs.Text.Decimal
import BlobDisk.Proofs.Text.Pieces
import BlobDisk.Proofs.Text.Utf8
import BlobDisk.Report
import Mathlib.Data.List.Forall2

/-!
# Columns of a table

Columns are as wide as the most bytes in a cell, and cells are filled up with spaces to as many characters. As no text
has more characters than bytes, every cell has room, and all cells of a column start at the same place. Only what is
blank is left out at the end of a line.

* `Report.Widest`, `Report.widest_widths`: how wide a column is;
* `Report.laid`, `Report.slice_laid`, `Report.exists_line_eq`: a row in its columns, and the line that is left of it;
* `Report.Aligned`, `Report.Tabular`, `Report.tabular_table`: where the cells stand in the lines of a table;
* `Report.records_aligned`: the table of any records.
-/

namespace BlobDisk.Report

variable {ws : List Nat} {cells headers : List String} {rows : List (List String)} {i j w : Nat} {cell : String}

/-! ## Widths -/

/-- The width of a column: the most bytes in one of its cells. -/
structure Widest (rows : List (List String)) (i w : Nat) : Prop where
  attained : ∃ row ∈ rows, (row.getD i "").utf8ByteSize = w
  le : ∀ row ∈ rows, (row.getD i "").utf8ByteSize ≤ w

theorem widest_widths (hne : rows ≠ []) {columns : Nat} (h : (widths rows columns)[i]? = some w) :
    Widest rows i w := by
  rw [widths, List.getElem?_map, Option.map_eq_some_iff] at h
  obtain ⟨n, hn, rfl⟩ := h
  obtain ⟨-, rfl⟩ := List.getElem?_eq_some_iff.mp hn
  have hsizes : (rows.map fun row => (row.getD (List.range columns)[i] "").utf8ByteSize) ≠ [] :=
    mt List.map_eq_nil_iff.mp hne
  obtain ⟨m, hm⟩ := Option.isSome_iff_exists.mp (List.isSome_max?_of_ne_nil hsizes)
  obtain ⟨hmem, hle⟩ := List.max?_eq_some_iff.mp hm
  rw [List.foldl_max, hm, Option.getD_some, Nat.zero_max]
  rw [List.getElem_range] at hmem hle
  exact ⟨List.mem_map.mp hmem, List.forall_mem_map.mp hle⟩

theorem length_widths (rows : List (List String)) (columns : Nat) : (widths rows columns).length = columns := by
  rw [widths, List.length_map, List.length_range]

/-! ## Rows -/

/-- Where a column starts, in characters: behind all columns before it, with two spaces after each. -/
def start (ws : List Nat) (j : Nat) : Nat := (ws.take j).foldr (fun w n => w + 2 + n) 0

theorem start_succ (w : Nat) (ws : List Nat) (j : Nat) : start (w :: ws) (j + 1) = w + 2 + start ws j := rfl

/-- The cells in their columns, each with spaces after it up to where the next column starts. -/
def laid (ws : List Nat) (cells : List String) : List Char :=
  (List.zipWith (fun w cell => pad (w + 2) cell) ws cells).flatten

/-- The cells have room in their columns. -/
def Fits (ws : List Nat) (cells : List String) : Prop :=
  List.Forall₂ (fun (w : Nat) cell => cell.toList.length ≤ w) ws cells

theorem length_pad (h : cell.toList.length ≤ w) : (pad w cell).length = w := by
  rw [pad, List.length_append, List.length_replicate]
  omega

/-- The spaces between two columns are like those that fill a cell up. -/
theorem pad_append (h : cell.toList.length ≤ w) : pad w cell ++ [' ', ' '] = pad (w + 2) cell := by
  have hspaces : List.replicate (w - cell.toList.length) ' ' ++ [' ', ' '] =
      List.replicate (w + 2 - cell.toList.length) ' ' := by
    rw [Nat.sub_add_comm h, List.replicate_add]
    rfl
  rw [pad, pad, List.append_assoc, hspaces]

theorem laid_cons (w : Nat) (ws : List Nat) (cell : String) (cells : List String) :
    laid (w :: ws) (cell :: cells) = pad (w + 2) cell ++ laid ws cells := rfl

theorem length_laid (h : Fits ws cells) : (laid ws cells).length = start ws ws.length := by
  induction h with
  | nil => rfl
  | cons hcell _ ih => rw [laid_cons, List.length_append, length_pad (by omega), ih, List.length_cons, start_succ]

/-- Between the starts of two columns stands a cell and nothing but spaces. -/
theorem slice_laid (h : Fits ws cells) (hw : ws[j]? = some w) (hcell : cells[j]? = some cell) :
    ((laid ws cells).take (start ws (j + 1))).drop (start ws j) =
      cell.toList ++ List.replicate (w + 2 - cell.toList.length) ' ' := by
  induction h generalizing j with
  | nil => cases hw
  | @cons first firstCell ws cells hfirst _ ih =>
    have hlength : (pad (first + 2) firstCell).length = first + 2 := length_pad (by omega)
    have htake : (laid (first :: ws) (firstCell :: cells)).take (first + 2 + start ws j) =
        pad (first + 2) firstCell ++ (laid ws cells).take (start ws j) := by
      rw [laid_cons, List.take_append, hlength, List.take_of_length_le (by omega), Nat.add_sub_cancel_left]
    rw [start_succ, htake]
    cases j with
    | zero =>
      cases hw
      cases hcell
      exact List.append_nil _
    | succ j =>
      rw [start_succ, List.drop_append, hlength, List.drop_of_length_le (by omega), Nat.add_sub_cancel_left]
      exact ih hw hcell

theorem mem_laid {c : Char} (h : c ∈ laid ws cells) : c = ' ' ∨ ∃ cell ∈ cells, c ∈ cell.toList := by
  obtain ⟨piece, hpiece, hc⟩ := List.mem_flatten.mp h
  obtain ⟨j, hj⟩ := List.mem_iff_getElem?.mp hpiece
  obtain ⟨w, cell, -, hcell, rfl⟩ := List.getElem?_zipWith_eq_some.mp hj
  rcases List.mem_append.mp hc with hc | hc
  · exact .inr ⟨cell, List.mem_of_getElem? hcell, hc⟩
  · exact .inl (List.eq_of_mem_replicate hc)

theorem flatMap_zipWith_pad (h : Fits ws cells) :
    (List.zipWith pad ws cells).flatMap (· ++ [' ', ' ']) = laid ws cells := by
  induction h with
  | nil => rfl
  | cons hcell _ ih =>
    rw [List.zipWith_cons_cons, List.flatMap_cons, ih, pad_append hcell]
    rfl

/-- The line of a row is the row in its columns, less what is blank at the end. -/
theorem exists_line_eq (h : Fits ws cells) (hne : ws ≠ []) : ∃ shown blanks, line ws cells = shown ++ ['\n'] ∧
    (∀ c ∈ shown.getLast?, Blank.isBlank c = false) ∧ (∀ c ∈ blanks, Blank.isBlank c = true) ∧
    shown ++ blanks = laid ws cells := by
  have hpieces : List.zipWith pad ws cells ≠ [] := by
    cases h with
    | nil => exact (hne rfl).elim
    | cons => exact List.cons_ne_nil _ _
  obtain ⟨blanks, htext, hblanks, hlast⟩ := Blank.trimEnd_eq_iff.mp
    (Eq.refl (Blank.trimEnd (Pieces.join [' ', ' '] (List.zipWith pad ws cells))))
  refine ⟨_, blanks ++ [' ', ' '], rfl, hlast, ?_, ?_⟩
  · exact List.forall_mem_append.mpr ⟨hblanks, List.all_eq_true.mp rfl⟩
  · rw [← List.append_assoc, ← htext, Pieces.join_append _ hpieces, flatMap_zipWith_pad h]

/-! ## Tables -/

/-- A line that shows cells in their columns. With the blanks that it lacks at its end, each cell starts where its
column does, and nothing but spaces follows it up to the start of the next. -/
structure Aligned (ws : List Nat) (cells : List String) (line : List Char) : Prop where
  fits : Fits ws cells
  trimmed : ∀ c ∈ line.getLast?, Blank.isBlank c = false
  columns : ∃ blanks, (∀ c ∈ blanks, Blank.isBlank c = true) ∧ (line ++ blanks).length = start ws ws.length ∧
    ∀ j w cell, ws[j]? = some w → cells[j]? = some cell →
      ((line ++ blanks).take (start ws (j + 1))).drop (start ws j) =
        cell.toList ++ List.replicate (w + 2 - cell.toList.length) ' '

/-- The lines of a table: one for each row, in columns as wide as their widest cells. -/
structure Tabular (rows : List (List String)) (ws : List Nat) (lines : List (List Char)) : Prop where
  widest : ∀ i w, ws[i]? = some w → Widest rows i w
  unbroken : ∀ line ∈ lines, '\n' ∉ line
  aligned : List.Forall₂ (Aligned ws) rows lines

theorem exists_aligned (h : Fits ws cells) (hne : ws ≠ []) (hbreak : ∀ cell ∈ cells, '\n' ∉ cell.toList) :
    ∃ shown, line ws cells = shown ++ ['\n'] ∧ '\n' ∉ shown ∧ Aligned ws cells shown := by
  obtain ⟨shown, blanks, hline, htrimmed, hblanks, hlaid⟩ := exists_line_eq h hne
  refine ⟨shown, hline, fun hmem => ?_, h, htrimmed, blanks, hblanks, ?_, fun j w cell hw hcell => ?_⟩
  · rcases mem_laid (hlaid ▸ List.mem_append_left blanks hmem) with hspace | ⟨cell, hcell, hc⟩
    · exact absurd hspace (by decide)
    · exact hbreak cell hcell hc
  · rw [hlaid, length_laid h]
  · rw [hlaid, slice_laid h hw hcell]

/-- Every cell has room in a column as wide as the most bytes in it. -/
theorem fits_widths {columns : Nat} (hcells : cells ∈ rows) (hlength : cells.length = columns) :
    Fits (widths rows columns) cells := by
  refine List.forall₂_iff_get.mpr ⟨(length_widths ..).trans hlength.symm, fun j hw hcell => ?_⟩
  have hwidest : Widest rows j (widths rows columns)[j] :=
    widest_widths (List.ne_nil_of_mem hcells) (List.getElem?_eq_getElem hw)
  calc cells[j].toList.length
    _ ≤ cells[j].utf8ByteSize := Utf8.length_le_utf8ByteSize _
    _ = (cells.getD j "").utf8ByteSize := by
      rw [List.getD_eq_getElem?_getD, List.getElem?_eq_getElem hcell, Option.getD_some]
    _ ≤ (widths rows columns)[j] := hwidest.le cells hcells

theorem exists_lines (hne : ws ≠ []) (hrows : ∀ row ∈ rows, Fits ws row)
    (hbreak : ∀ row ∈ rows, ∀ cell ∈ row, '\n' ∉ cell.toList) : ∃ lines,
      rows.flatMap (line ws) = lines.flatMap (· ++ ['\n']) ∧ (∀ line ∈ lines, '\n' ∉ line) ∧
        List.Forall₂ (Aligned ws) rows lines := by
  induction rows with
  | nil => exact ⟨[], rfl, nofun, .nil⟩
  | cons row rows ih =>
    obtain ⟨hrow, hrest⟩ := List.forall_mem_cons.mp hrows
    obtain ⟨hrowBreak, hrestBreak⟩ := List.forall_mem_cons.mp hbreak
    obtain ⟨shown, hline, hshown, haligned⟩ := exists_aligned hrow hne hrowBreak
    obtain ⟨lines, hlines, hunbroken, hall⟩ := ih hrest hrestBreak
    refine ⟨shown :: lines, ?_, List.forall_mem_cons.mpr ⟨hshown, hunbroken⟩, .cons haligned hall⟩
    rw [List.flatMap_cons, List.flatMap_cons, hline, hlines]

/-- Any table whose rows have a cell for each header is in columns. -/
theorem tabular_table (hne : headers ≠ []) (hlength : ∀ row ∈ rows, row.length = headers.length)
    (hbreak : ∀ row ∈ headers :: rows, ∀ cell ∈ row, '\n' ∉ cell.toList) : ∃ ws lines,
      table headers rows = String.ofList (lines.flatMap (· ++ ['\n'])) ∧ ws.length = headers.length ∧
        Tabular (headers :: rows) ws lines := by
  have hall : ∀ row ∈ headers :: rows, row.length = headers.length := List.forall_mem_cons.mpr ⟨rfl, hlength⟩
  have hwidths : widths (headers :: rows) headers.length ≠ [] := by
    rw [← List.length_pos_iff, length_widths]
    exact List.length_pos_iff.mpr hne
  obtain ⟨lines, hlines, hunbroken, haligned⟩ :=
    exists_lines hwidths (fun row hrow => fits_widths hrow (hall row hrow)) hbreak
  refine ⟨_, lines, congrArg String.ofList hlines, length_widths .., ?_, hunbroken, haligned⟩
  exact fun i w hw => widest_widths (List.cons_ne_nil _ _) hw

theorem unbroken_recordRow {r : Record} (hname : '\n' ∉ r.name.toList) (haccount : '\n' ∉ r.accountName.toList)
    (hpath : '\n' ∉ r.path.toList) : ∀ cell ∈ recordRow r, '\n' ∉ cell.toList := by
  have hmode : '\n' ∉ r.mode.word.toList := by cases r.mode <;> decide
  have hvhd : '\n' ∉ (yesNo r.vhd).toList := by cases r.vhd <;> decide
  have hsize : '\n' ∉ (toString r.sizeGb.toNat).toList := Decimal.notMem_toString (by decide) _
  simp only [recordRow, List.forall_mem_cons, List.not_mem_nil, false_implies, implies_true, and_true]
  exact ⟨hmode, hname, hvhd, hsize, haccount, hpath⟩

/-- The table of records has a line for the headers and one for each record, in order, in columns as wide as the most
bytes in a cell. All cells of a column start at the same character, with nothing but spaces between a cell and the
next. -/
theorem records_aligned (rs : List Record) (h : ∀ r ∈ rs,
      '\n' ∉ r.name.toList ∧ '\n' ∉ r.accountName.toList ∧ '\n' ∉ r.path.toList) :
    ∃ ws lines, records rs .table = String.ofList (lines.flatMap (· ++ ['\n'])) ∧ lines.length = rs.length + 1 ∧
      ws.length = recordHeaders.length ∧ Tabular (recordHeaders :: rs.map recordRow) ws lines := by
  have hbreak : ∀ row ∈ recordHeaders :: rs.map recordRow, ∀ cell ∈ row, '\n' ∉ cell.toList := by
    refine List.forall_mem_cons.mpr ⟨by decide, List.forall_mem_map.mpr fun r hr => ?_⟩
    exact unbroken_recordRow (h r hr).1 (h r hr).2.1 (h r hr).2.2
  have hheaders : recordHeaders ≠ [] := List.cons_ne_nil _ _
  have hlength : ∀ row ∈ rs.map recordRow, row.length = recordHeaders.length :=
    List.forall_mem_map.mpr fun _ _ => rfl
  obtain ⟨ws, lines, htable, hws, htabular⟩ := tabular_table hheaders hlength hbreak
  refine ⟨ws, lines, htable, ?_, hws, htabular⟩
  rw [← htabular.aligned.length_eq, List.length_cons, List.length_map]

/-- A name with more bytes than characters, a path that ends with a blank, and a record without a path. -/
def Sample.records : List Record :=
  [{ name := "ééééé", sizeGb := 4, accountName := "acct", path := "/c/d\t" },
    { mode := .readOnly, name := "d2", vhd := true }]

theorem records_aligned_sample :
    records Sample.records .table =
        "Type  Name        VHD  SizeGB  AccountName  Path\n" ++
        "RW    ééééé       No   4       acct         /c/d\n" ++
        "R     d2          Yes  0\n" ∧
      ∃ ws lines, records Sample.records .table = String.ofList (lines.flatMap (· ++ ['\n'])) ∧ lines.length = 3 ∧
        ws.length = 6 ∧ Tabular (recordHeaders :: Sample.records.map recordRow) ws lines :=
  ⟨by decide +kernel, records_aligned Sample.records (by decide)⟩

end BlobDisk.Report
