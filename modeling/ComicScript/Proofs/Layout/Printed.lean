import ComicScript.Proofs.Layout.Partition

/-!
# Printed layouts

A grid is printed row by row, with a dot for each blank cell. A printed row is never blank, not even one of dots, and has
no carriage return and no line feed; so nothing is dropped, cut or filled up when it is read again, and the layout that
was printed comes back.
-/

namespace ComicScript.Layout
set_option autoImplicit false

open Text (isBlank)

/-- A cell as it is printed: a dot if it is blank. -/
def printedCell (c : Char) : Char :=
  if c = blank then '.' else c

/-- The rows of a grid as they are printed. -/
def printedRows (l : Layout) : List String :=
  l.grid.map fun row => String.ofList (row.map printedCell)

/-! ## Printed cells -/

/-- A cell of a grid is its own reading. -/
theorem cellOf_cellOf (c : Char) : cellOf (cellOf c) = cellOf c := by
  by_cases empty : c = '.' ∨ isBlank c = true
  · rw [cellOf, cellOf, if_pos empty]
    rfl
  · have visible : cellOf c = c := if_neg empty
    rw [visible, visible]

theorem cellOf_printedCell {c : Char} (h : cellOf c = c) : cellOf (printedCell c) = c := by
  by_cases empty : c = blank
  · rw [printedCell, if_pos empty, empty]
    rfl
  · rw [printedCell, if_neg empty, h]

/-- No printed cell is a blank character. -/
theorem isBlank_printedCell {c : Char} (h : cellOf c = c) : isBlank (printedCell c) = false := by
  by_cases empty : c = blank
  · rw [printedCell, if_pos empty]
    decide
  · rw [printedCell, if_neg empty]
    cases visible : isBlank c with
    | false => rfl
    | true =>
      rw [cellOf, if_pos (.inr visible)] at h
      exact absurd h.symm empty

/-! ## Printed rows -/

/-- The rows of a grid: as wide as the grid, and never without a cell. -/
structure IsRow (width : Nat) (row : List Char) : Prop where
  cells : ∀ c ∈ row, cellOf c = c
  length : row.length = width
  positive : 0 < width

theorem isRow_of_mem_grid {lines : List (List Char)} {row : List Char} (h : row ∈ (ofLines lines).grid) :
    IsRow (widthOf (keptLines lines)) row := by
  obtain ⟨line, kept, rfl⟩ := List.mem_map.1 h
  have fits := length_le_widthOf kept
  have visible : Text.Chars.allBlank line = false := by simpa using (List.mem_filter.1 kept).2
  refine ⟨?_, length_rowOf fits, ?_⟩
  · intro c member
    rcases List.mem_append.1 member with cell | filled
    · obtain ⟨d, -, rfl⟩ := List.mem_map.1 cell
      exact cellOf_cellOf d
    · rw [List.eq_of_mem_replicate filled]
      rfl
  · cases line with
    | nil => cases visible
    | cons c rest => exact Nat.lt_of_lt_of_le (Nat.succ_pos _) fits

namespace IsRow

variable {width : Nat} {row : List Char} (h : IsRow width row)
include h

theorem isBlank_of_mem {c : Char} (member : c ∈ row.map printedCell) : isBlank c = false := by
  obtain ⟨d, cell, rfl⟩ := List.mem_map.1 member
  exact isBlank_printedCell (h.cells d cell)

theorem not_mem {c : Char} (blank : isBlank c = true) : c ∉ row.map printedCell := by
  intro member
  rw [h.isBlank_of_mem member] at blank
  cases blank

/-- A printed row is not dropped, even if it shows nothing. -/
theorem allBlank : Text.Chars.allBlank (row.map printedCell) = false := by
  obtain ⟨c, rest, cells⟩ := List.exists_cons_of_length_pos (h.length.symm ▸ h.positive)
  have first := h.isBlank_of_mem (c := printedCell c) (by simp [cells])
  rw [cells, List.map_cons, Text.Chars.allBlank, List.all_cons, first, Bool.false_and]

theorem dropReturns : Layout.dropReturns (row.map printedCell) = row.map printedCell := by
  obtain ⟨n, whole⟩ := exists_dropReturns_append (row.map printedCell)
  cases n with
  | zero => rwa [List.replicate_zero, List.append_nil, eq_comm] at whole
  | succ n =>
    refine absurd ?_ (h.not_mem (c := '\r') (by decide))
    rw [whole]
    simp

/-- A printed row is read as the row. -/
theorem rowOf_printed : rowOf width (row.map printedCell) = row := by
  have full : width - (row.map printedCell).length = 0 := by rw [List.length_map, h.length, Nat.sub_self]
  have same : (row.map printedCell).map cellOf = row := by
    rw [List.map_map]
    exact (List.map_congr_left fun c cell => cellOf_printedCell (h.cells c cell)).trans (List.map_id row)
  rw [rowOf, full, same, List.replicate_zero, List.append_nil]

end IsRow

/-- All printed rows are kept as they are. -/
theorem keptLines_printed {width : Nat} {grid : List (List Char)} (h : ∀ row ∈ grid, IsRow width row) :
    keptLines (grid.map (·.map printedCell)) = grid.map (·.map printedCell) := by
  have whole : (grid.map (·.map printedCell)).map dropReturns = grid.map (·.map printedCell) := by
    rw [List.map_map]
    exact List.map_congr_left fun row member => (h row member).dropReturns
  rw [keptLines, whole, List.filter_eq_self]
  intro line member
  obtain ⟨row, listed, rfl⟩ := List.mem_map.1 member
  rw [(h row listed).allBlank, Bool.not_false]

theorem widthOf_printed {width : Nat} {grid : List (List Char)} (h : ∀ row ∈ grid, IsRow width row) (rows : grid ≠ []) :
    widthOf (grid.map (·.map printedCell)) = width := by
  have printed : grid.map (·.map printedCell) ≠ [] := fun none => rows (List.map_eq_nil_iff.1 none)
  obtain ⟨line, member, widest⟩ := exists_length_eq_widthOf printed
  obtain ⟨row, listed, rfl⟩ := List.mem_map.1 member
  rw [widest, List.length_map, (h row listed).length]

/-- Lines that are kept alike make the same layout. -/
theorem ofLines_congr {a b : List (List Char)} (h : keptLines a = keptLines b) : ofLines a = ofLines b := by
  rw [ofLines, ofLines, h]

/-- The printed rows of a grid make the same layout. -/
theorem ofLines_printed (lines : List (List Char)) :
    ofLines ((ofLines lines).grid.map (·.map printedCell)) = ofLines lines := by
  have rows : ∀ row ∈ (ofLines lines).grid, IsRow (widthOf (keptLines lines)) row := fun row => isRow_of_mem_grid
  by_cases none : keptLines lines = []
  · have bare : (ofLines lines).grid = [] := by rw [ofLines, none, List.map_nil]
    rw [bare]
    exact ofLines_congr none.symm
  · have width : widthOf ((ofLines lines).grid.map (·.map printedCell)) = widthOf (keptLines lines) :=
      widthOf_printed rows (by simpa [ofLines] using none)
    have grid : ((ofLines lines).grid.map (·.map printedCell)).map (rowOf (widthOf (keptLines lines))) =
        (ofLines lines).grid := by
      rw [List.map_map]
      exact (List.map_congr_left fun row member => (rows row member).rowOf_printed).trans (List.map_id _)
    have height : ((ofLines lines).grid.map (·.map printedCell)).length = (keptLines lines).length := by
      simp [ofLines]
    rw [ofLines, keptLines_printed rows, width, grid, height]
    rfl

/-! ## Printed texts -/

theorem dropReturns_append_replicate (line : List Char) (n : Nat) :
    dropReturns (line ++ List.replicate n '\r') = dropReturns line := by
  have returns : (List.replicate n '\r').dropWhile (· == '\r') = [] := by
    induction n with
    | zero => rfl
    | succ n ih => simp [List.replicate_succ, ih]
  rw [dropReturns, List.reverse_append, List.reverse_replicate, List.dropWhile_append, returns]
  rfl

/-- Lines that are joined by line feeds, with any carriage returns before those, are kept as they are when they stand in
a list. -/
theorem keptLines_splitOn_intercalate (n : Nat) {lines : List (List Char)} (clean : ∀ line ∈ lines, '\n' ∉ line) :
    keptLines (Text.Chars.splitOn '\n' ((List.replicate n '\r' ++ ['\n']).intercalate lines)) = keptLines lines := by
  induction lines with
  | nil => rfl
  | cons line rest ih =>
    have feedless := clean line List.mem_cons_self
    cases rest with
    | nil =>
      have single := Text.Chars.splitOn_append feedless []
      rw [List.append_nil] at single
      rw [List.intercalate_singleton, single]
      simp [Text.Chars.splitOn]
    | cons next rest =>
      have others := ih fun other member => clean other (List.mem_cons_of_mem _ member)
      have ended : '\n' ∉ line ++ List.replicate n '\r' := by
        rw [List.mem_append, not_or]
        exact ⟨feedless, fun member => absurd (List.eq_of_mem_replicate member) (by decide)⟩
      have cut : Text.Chars.splitOn '\n' ((List.replicate n '\r' ++ ['\n']).intercalate (line :: next :: rest)) =
          (line ++ List.replicate n '\r') ::
            Text.Chars.splitOn '\n' ((List.replicate n '\r' ++ ['\n']).intercalate (next :: rest)) := by
        have first := Text.Chars.splitOn_append ended
          ('\n' :: (List.replicate n '\r' ++ ['\n']).intercalate (next :: rest))
        rw [Text.Chars.splitOn, if_pos rfl, List.modifyHead_cons, List.append_nil] at first
        rw [List.intercalate_cons_cons, ← first]
        simp
      have kept (others : List (List Char)) : keptLines ((line ++ List.replicate n '\r') :: others) =
          keptLines [line] ++ keptLines others := by
        rw [keptLines, List.map_cons, dropReturns_append_replicate, ← List.singleton_append, List.filter_append]
        rfl
      rw [cut, kept, others, keptLines, keptLines, keptLines, ← List.filter_append, ← List.map_append]
      rfl

/-- Printed rows that are joined by line feeds, with any carriage returns before those, make the same layout. -/
theorem parse_intercalate_printedRows (lines : List (List Char)) (n : Nat) :
    parse (.str ((String.ofList (List.replicate n '\r' ++ ['\n'])).intercalate (ofLines lines).printedRows)) =
      .ok (ofLines lines) := by
  have text : ((String.ofList (List.replicate n '\r' ++ ['\n'])).intercalate (ofLines lines).printedRows).toList =
      (List.replicate n '\r' ++ ['\n']).intercalate ((ofLines lines).grid.map (·.map printedCell)) := by
    simp [printedRows, String.toList_intercalate, Function.comp_def]
  have clean : ∀ line ∈ (ofLines lines).grid.map (·.map printedCell), '\n' ∉ line := by
    intro line member
    obtain ⟨row, listed, rfl⟩ := List.mem_map.1 member
    exact (isRow_of_mem_grid listed).not_mem (by decide)
  rw [parse, linesOf, text]
  exact congrArg _ ((ofLines_congr (keptLines_splitOn_intercalate n clean)).trans (ofLines_printed lines))

/-- **Printing and reading a layout.** Whatever a layout was read from, its printed rows are read as the same layout: in a
list or tuple, and as one text in which they are joined by line feeds or by carriage returns with line feeds. -/
theorem parse_printedRows {source : Value} {l : Layout} (h : parse source = .ok l) :
    parse (.list (l.printedRows.map .str)) = .ok l ∧ parse (.tuple (l.printedRows.map .str)) = .ok l ∧
      parse (.str ("\n".intercalate l.printedRows)) = .ok l ∧
      parse (.str ("\r\n".intercalate l.printedRows)) = .ok l := by
  obtain ⟨lines, rfl⟩ := exists_ofLines_of_parse h
  have rows : (ofLines lines).printedRows.map String.toList = (ofLines lines).grid.map (·.map printedCell) := by
    simp [printedRows, Function.comp_def]
  have listed : (lineTexts 1 ((ofLines lines).printedRows.map .str)).map ofLines = .ok (ofLines lines) := by
    rw [lineTexts_map_str, rows]
    exact congrArg _ (ofLines_printed lines)
  exact ⟨listed, listed, parse_intercalate_printedRows lines 0, parse_intercalate_printedRows lines 1⟩

/-- A tab, a carriage return inside a row, a row of dots and a blank one. -/
theorem parse_printedRows_blanks :
    ∃ l, parse (.list [.str "A\t\rb\r\r", .str "...", .str " \r"]) = .ok l ∧ l.printedRows = ["A..b", "...."] ∧
      parse (.list (l.printedRows.map .str)) = .ok l ∧ parse (.str ("\n".intercalate l.printedRows)) = .ok l ∧
      parse (.str ("\r\n".intercalate l.printedRows)) = .ok l := by
  have read : parse (.list [.str "A\t\rb\r\r", .str "...", .str " \r"]) =
      .ok (ofLines ["A\t\rb\r\r".toList, "...".toList, " \r".toList]) := rfl
  obtain ⟨list, -, feeds, returns⟩ := parse_printedRows read
  exact ⟨_, read, by decide, list, feeds, returns⟩

end ComicScript.Layout
