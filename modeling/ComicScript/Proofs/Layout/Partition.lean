import ComicScript.Proofs.Layout.Stray
import ComicScript.Proofs.Text.Lines
import Mathlib.Logic.ExistsUnique

/-!
# The panels of a layout

A layout that is read divides its grid: each cell that is not blank belongs to the panel of its token and to no other. The
panels stand in the order of their numbers, and those with one number in the order in which the grid, read row by row,
comes to them.
-/

namespace ComicScript
set_option autoImplicit false

open Text (isBlank)

/-! ## What a layout should be -/

/-- A cell comes before another when the grid is read row by row. -/
def Cell.Before (c d : Cell) : Prop :=
  c.y < d.y ∨ c.y = d.y ∧ c.x < d.x

/-- A cell is inside a rectangle. -/
def Box.Holds (b : Box) (c : Cell) : Prop :=
  b.x ≤ c.x ∧ c.x < b.x + b.width ∧ b.y ≤ c.y ∧ c.y < b.y + b.height

/-- The smallest rectangle that holds some cells: it is inside any other that does. -/
structure Box.Bounds (b : Box) (cells : List Cell) : Prop where
  holds : ∀ c ∈ cells, b.Holds c
  least : ∀ other : Box, (∀ c ∈ cells, other.Holds c) → ∀ c, b.Holds c → other.Holds c

namespace Layout

/-- The lines that are meant by the source of a layout: a text cut at its line feeds, or a list or tuple of texts. -/
inductive Rows : Value → List (List Char) → Prop
  | text (s : String) : Rows (.str s) (s.toList.splitOn '\n')
  | list (rows : List String) : Rows (.list (rows.map .str)) (rows.map String.toList)
  | tuple (rows : List String) : Rows (.tuple (rows.map .str)) (rows.map String.toList)

/-- The lines that are not blank. -/
def visible (lines : List (List Char)) : List (List Char) :=
  lines.filter (!Text.Chars.allBlank ·)

/-- What a line shows in a column: its character there, but a blank for a dot, for any other blank and after its end. -/
def shownAt (s : List Char) (x : Nat) : Char :=
  match s[x]? with
  | none => blank
  | some c => if c = '.' ∨ isBlank c = true then blank else c

/-- A grid shows a token in a cell. -/
def Shows (grid : List (List Char)) (token : Char) (c : Cell) : Prop :=
  ∃ x y : Nat, c = ⟨x, y⟩ ∧ (grid[y]?).bind (·[x]?) = some token

/-- The grid of some lines: a row for each line that is not blank, all as wide as the widest line without its carriage
returns. -/
structure GridOf (lines : List (List Char)) (l : Layout) : Prop where
  grid : l.grid = (visible lines).map fun line => (List.range l.width.toNat).map (shownAt line)
  height : (l.grid.length : Int) = l.height
  width : ∀ row ∈ l.grid, (row.length : Int) = l.width
  wide : ∀ line ∈ visible lines, ((dropReturns line).length : Int) ≤ l.width
  tight : l.grid = [] ∧ l.width = 0 ∨ ∃ line ∈ visible lines, l.width = (dropReturns line).length

/-- The panels of a grid: they divide the cells that are not blank by the tokens that the cells show. Each is numbered by
its token and lists its cells row by row; panels with one number stand in the order of their first cells. -/
structure PanelsOf (grid : List (List Char)) (panels : List Footprint) : Prop where
  distinct : (panels.map (·.label)).Nodup
  labels : ∀ label, label ∈ panels.map (·.label) ↔
    ∃ token c, label = String.singleton token ∧ token ≠ blank ∧ Shows grid token c
  cells : ∀ f ∈ panels, ∀ c, c ∈ f.cells ↔ ∃ token, f.label = String.singleton token ∧ Shows grid token c
  rowMajor : ∀ f ∈ panels, f.cells.Pairwise Cell.Before
  covered : ∀ token c, Shows grid token c → token ≠ blank → ∃! f, f ∈ panels ∧ c ∈ f.cells
  uncovered : ∀ c, Shows grid blank c → ∀ f ∈ panels, c ∉ f.cells
  boxes : ∀ f ∈ panels, f.box.Bounds f.cells
  numbers : ∀ f ∈ panels, sortKey f.label.toList = .ok f.number
  ordered : panels.Pairwise fun f g =>
    f.number < g.number ∨ f.number = g.number ∧ ∃ c ∈ f.cells, ∀ d ∈ g.cells, c.Before d

/-! ## Lines and rows -/

/-- Only carriage returns are dropped at the end of a line. -/
theorem exists_dropReturns_append (line : List Char) : ∃ n, line = dropReturns line ++ List.replicate n '\r' := by
  let returns := line.reverse.takeWhile (· == '\r')
  have same : returns = List.replicate returns.length '\r' := by
    refine List.eq_replicate_iff.2 ⟨rfl, fun c member => ?_⟩
    simpa using List.all_eq_true.1 List.all_takeWhile c member
  have whole : line.reverse = returns ++ line.reverse.dropWhile (· == '\r') := List.takeWhile_append_dropWhile.symm
  refine ⟨returns.length, ?_⟩
  rw [dropReturns, ← List.reverse_replicate, ← same, ← List.reverse_append, ← whole, List.reverse_reverse]

theorem allBlank_dropReturns (line : List Char) : Text.Chars.allBlank (dropReturns line) = Text.Chars.allBlank line := by
  obtain ⟨n, whole⟩ := exists_dropReturns_append line
  have returns : (List.replicate n '\r').all isBlank = true := by
    refine List.all_eq_true.2 fun c member => ?_
    rw [List.eq_of_mem_replicate member]
    decide
  conv => rhs; rw [whole, Text.Chars.allBlank, List.all_append, returns, Bool.and_true]
  rfl

/-- The rows of the grid are those of the visible lines. -/
theorem keptLines_eq (lines : List (List Char)) : keptLines lines = (visible lines).map dropReturns := by
  have same : ((!Text.Chars.allBlank ·) ∘ dropReturns) = fun line => !Text.Chars.allBlank line := by
    funext line
    rw [Function.comp_apply, allBlank_dropReturns]
  rw [keptLines, List.filter_map, same, visible]

/-- Up to its carriage returns a line shows its own characters. -/
theorem shownAt_of_lt {s : List Char} {x : Nat} (h : x < (dropReturns s).length) :
    shownAt s x = cellOf (dropReturns s)[x] := by
  obtain ⟨n, whole⟩ := exists_dropReturns_append s
  have here : s[x]? = some (dropReturns s)[x] := by
    conv => lhs; rw [whole, List.getElem?_append_left h, List.getElem?_eq_getElem h]
  rw [shownAt, here, cellOf]

/-- From its carriage returns on a line shows blanks. -/
theorem shownAt_of_le {s : List Char} {x : Nat} (h : (dropReturns s).length ≤ x) : shownAt s x = blank := by
  obtain ⟨n, whole⟩ := exists_dropReturns_append s
  unfold shownAt
  split
  · rfl
  · rename_i c found
    rw [whole, List.getElem?_append_right h] at found
    rw [List.eq_of_mem_replicate (List.mem_of_getElem? found)]
    decide

/-- A row shows what its line does. -/
theorem rowOf_dropReturns {width : Nat} {line : List Char} (h : (dropReturns line).length ≤ width) :
    rowOf width (dropReturns line) = (List.range width).map (shownAt line) := by
  have cells : ((dropReturns line).map cellOf).length = (dropReturns line).length := List.length_map ..
  apply List.ext_getElem
  · rw [length_rowOf h, List.length_map, List.length_range]
  · intro x _ _
    rw [List.getElem_map, List.getElem_range]
    rcases Nat.lt_or_ge x (dropReturns line).length with early | late
    · rw [shownAt_of_lt early]
      simp only [rowOf, List.getElem_append_left (cells ▸ early), List.getElem_map]
    · rw [shownAt_of_le late]
      simp only [rowOf, List.getElem_append_right (cells ▸ late), List.getElem_replicate]

theorem foldl_max_mem (n : Nat) (ns : List Nat) : ns.foldl max n = n ∨ ns.foldl max n ∈ ns := by
  induction ns generalizing n with
  | nil => exact .inl rfl
  | cons k rest ih =>
    rw [List.foldl_cons]
    rcases ih (max n k) with first | later
    · rw [first]
      rcases Nat.le_total n k with le | le
      · exact .inr (by simp [Nat.max_eq_right le])
      · exact .inl (Nat.max_eq_left le)
    · exact .inr (List.mem_cons_of_mem _ later)

/-- The grid is as wide as one of its lines. -/
theorem exists_length_eq_widthOf {lines : List (List Char)} (h : lines ≠ []) :
    ∃ line ∈ lines, widthOf lines = line.length := by
  rcases foldl_max_mem 0 (lines.map List.length) with zero | attained
  · obtain ⟨line, member⟩ := List.exists_mem_of_ne_nil lines h
    have low := length_le_widthOf member
    refine ⟨line, member, ?_⟩
    rw [widthOf] at low ⊢
    omega
  · obtain ⟨line, member, length⟩ := List.mem_map.1 attained
    exact ⟨line, member, length.symm⟩

/-! ## The tokens of a grid -/

theorem mem_tokensOfRow_iff {y x : Nat} {row : List Char} {token : Char} {c : Cell} :
    (token, c) ∈ tokensOfRow y x row ↔ token ≠ blank ∧ ∃ i, row[i]? = some token ∧ c = ⟨(x + i : Nat), y⟩ := by
  induction row generalizing x with
  | nil => simp [tokensOfRow]
  | cons first rest ih =>
    have step : (∃ i, (first :: rest)[i]? = some token ∧ c = ⟨(x + i : Nat), y⟩) ↔
        (first = token ∧ c = ⟨x, y⟩) ∨ ∃ i, rest[i]? = some token ∧ c = ⟨(x + 1 + i : Nat), y⟩ := by
      constructor
      · rintro ⟨i, found, place⟩
        cases i with
        | zero => exact .inl ⟨by simpa using found, place⟩
        | succ i => exact .inr ⟨i, by simpa using found, by rw [place]; congr 2; omega⟩
      · rintro (⟨found, place⟩ | ⟨i, found, place⟩)
        · exact ⟨0, by simp [found], place⟩
        · exact ⟨i + 1, by simpa using found, by rw [place]; congr 2; omega⟩
    unfold tokensOfRow
    rw [step]
    split
    · rename_i empty
      rw [ih]
      constructor
      · rintro ⟨visible, later⟩
        exact ⟨visible, .inr later⟩
      · rintro ⟨visible, ⟨here, -⟩ | later⟩
        · exact absurd (here.symm.trans empty) visible
        · exact ⟨visible, later⟩
    · rename_i visible
      rw [List.mem_cons, ih, Prod.mk.injEq]
      constructor
      · rintro (⟨rfl, place⟩ | ⟨visible, later⟩)
        · exact ⟨visible, .inl ⟨rfl, place⟩⟩
        · exact ⟨visible, .inr later⟩
      · rintro ⟨visible, ⟨here, place⟩ | later⟩
        · exact .inl ⟨here.symm, place⟩
        · exact .inr ⟨visible, later⟩

theorem mem_tokensOfGrid_iff {y : Nat} {grid : List (List Char)} {token : Char} {c : Cell} :
    (token, c) ∈ tokensOfGrid y grid ↔
      token ≠ blank ∧ ∃ i j : Nat, c = ⟨i, (y + j : Nat)⟩ ∧ (grid[j]?).bind (·[i]?) = some token := by
  induction grid generalizing y with
  | nil => simp [tokensOfGrid]
  | cons row rest ih =>
    rw [tokensOfGrid, List.mem_append, mem_tokensOfRow_iff, ih, ← and_or_left]
    refine and_congr_right fun _ => ⟨?_, ?_⟩
    · rintro (⟨i, found, place⟩ | ⟨i, j, place, found⟩)
      · exact ⟨i, 0, by simpa using place, by simpa using found⟩
      · exact ⟨i, j + 1, by rw [place]; congr 2; omega, by simpa using found⟩
    · rintro ⟨i, j, place, found⟩
      cases j with
      | zero => exact .inl ⟨i, by simpa using found, by simpa using place⟩
      | succ j => exact .inr ⟨i, j, by rw [place]; congr 2; omega, by simpa using found⟩

/-- The tokens of a grid are the characters that it shows, but for blanks. -/
theorem mem_tokens_iff {grid : List (List Char)} {token : Char} {c : Cell} :
    (token, c) ∈ tokensOfGrid 0 grid ↔ token ≠ blank ∧ Shows grid token c := by
  simp [mem_tokensOfGrid_iff, Shows]

theorem pairwise_tokensOfRow (y x : Nat) (row : List Char) :
    (tokensOfRow y x row).Pairwise fun s t => s.2.Before t.2 := by
  induction row generalizing x with
  | nil => exact .nil
  | cons c rest ih =>
    unfold tokensOfRow
    split
    · exact ih _
    · refine .cons (fun t member => ?_) (ih _)
      obtain ⟨here, later, -⟩ := mem_tokensOfRow member
      exact .inr ⟨here.symm, by simp only; omega⟩

/-- The tokens of a grid are listed row by row. -/
theorem pairwise_tokensOfGrid (y : Nat) (grid : List (List Char)) :
    (tokensOfGrid y grid).Pairwise fun s t => s.2.Before t.2 := by
  induction grid generalizing y with
  | nil => exact .nil
  | cons row rest ih =>
    refine List.pairwise_append.2 ⟨pairwise_tokensOfRow y 0 row, ih (y + 1), fun s here t below => .inl ?_⟩
    obtain ⟨same, -⟩ := mem_tokensOfRow here
    obtain ⟨-, i, j, place, -⟩ := mem_tokensOfGrid_iff.1 (show (t.1, t.2) ∈ tokensOfGrid (y + 1) rest from below)
    rw [same, place]
    simp only
    omega

theorem mem_cellsOf {tokens : List (Char × Cell)} {token : Char} {c : Cell} :
    c ∈ cellsOf tokens token ↔ (token, c) ∈ tokens := by
  simp [cellsOf]

theorem pairwise_cellsOf {tokens : List (Char × Cell)} (h : tokens.Pairwise fun s t => s.2.Before t.2) (token : Char) :
    (cellsOf tokens token).Pairwise Cell.Before :=
  List.pairwise_map.2 (h.filter _)

/-- Cells with another token than the first one's are among the rest. -/
theorem mem_cellsOf_cons {first : Char × Cell} {rest : List (Char × Cell)} {token : Char} (other : token ≠ first.1)
    (c : Cell) : c ∈ cellsOf (first :: rest) token ↔ c ∈ cellsOf (rest.filter fun t => !t.1 == first.1) token := by
  rw [mem_cellsOf, mem_cellsOf, List.mem_cons, List.mem_filter]
  constructor
  · rintro (rfl | later)
    · exact absurd rfl other
    · exact ⟨later, by simpa using other⟩
  · exact fun later => .inr later.1

/-- The tokens that appear, each once, in the order in which they first appear. -/
theorem pairwise_eraseDups {tokens : List (Char × Cell)} (h : tokens.Pairwise fun s t => s.2.Before t.2) :
    (tokens.map (·.1)).eraseDups.Pairwise fun a b =>
      a ≠ b ∧ ∃ c ∈ cellsOf tokens a, ∀ d ∈ cellsOf tokens b, c.Before d := by
  match tokens, h with
  | [], _ => exact .nil
  | first :: rest, h =>
    obtain ⟨before, tail⟩ := List.pairwise_cons.1 h
    let others := rest.filter fun t => !t.1 == first.1
    have keys : (rest.map (·.1)).filter (fun b => !b == first.1) = others.map (·.1) := by
      rw [List.filter_map]
      rfl
    have apart {b : Char} (member : b ∈ (others.map (·.1)).eraseDups) : b ≠ first.1 := by
      obtain ⟨t, listed, rfl⟩ := List.mem_map.1 (List.mem_eraseDups.1 member)
      simpa using (List.mem_filter.1 listed).2
    rw [List.map_cons, List.eraseDups_cons, keys]
    refine .cons (fun b member => ⟨(apart member).symm, first.2, ?_, ?_⟩) ?_
    · exact mem_cellsOf.2 List.mem_cons_self
    · intro d cell
      have later := mem_cellsOf.1 ((mem_cellsOf_cons (apart member) d).1 cell)
      exact before (b, d) (List.mem_filter.1 later).1
    · refine (pairwise_eraseDups (tail.filter _)).imp_of_mem ?_
      rintro a b listed member ⟨distinct, c, cell, earliest⟩
      refine ⟨distinct, c, (mem_cellsOf_cons (apart listed) c).2 cell, fun d other => ?_⟩
      exact earliest d ((mem_cellsOf_cons (apart member) d).1 other)
termination_by tokens.length
decreasing_by exact Nat.lt_succ_of_le (List.length_filter_le _ _)

/-! ## Rectangles around cells -/

theorem le_foldl_min_iff {f : Cell → Int} {k n : Int} {cs : List Cell} :
    k ≤ cs.foldl (fun m d => min m (f d)) n ↔ k ≤ n ∧ ∀ d ∈ cs, k ≤ f d := by
  induction cs generalizing n with
  | nil => simp
  | cons c rest ih => rw [List.foldl_cons, ih, List.forall_mem_cons, ← and_assoc, Int.le_min]

theorem foldl_max_le_iff {f : Cell → Int} {k n : Int} {cs : List Cell} :
    cs.foldl (fun m d => max m (f d)) n ≤ k ↔ n ≤ k ∧ ∀ d ∈ cs, f d ≤ k := by
  induction cs generalizing n with
  | nil => simp
  | cons c rest ih => rw [List.foldl_cons, ih, List.forall_mem_cons, ← and_assoc, Int.max_le]

/-- The rectangle around some cells is the smallest that holds them. -/
theorem bounds_boxAround (cells : List Cell) : (boxAround cells).Bounds cells := by
  cases cells with
  | nil =>
    refine ⟨fun c member => absurd member List.not_mem_nil, fun other _ c inside => ?_⟩
    simp only [boxAround, Box.Holds] at inside
    omega
  | cons c cs =>
    let left := cs.foldl (fun m d => min m d.x) c.x
    let right := cs.foldl (fun m d => max m d.x) c.x
    let top := cs.foldl (fun m d => min m d.y) c.y
    let bottom := cs.foldl (fun m d => max m d.y) c.y
    have box : boxAround (c :: cs) = ⟨left, top, right - left + 1, bottom - top + 1⟩ := rfl
    have span (k : Int) : (k ≤ left ↔ ∀ d ∈ c :: cs, k ≤ d.x) ∧ (right ≤ k ↔ ∀ d ∈ c :: cs, d.x ≤ k) ∧
        (k ≤ top ↔ ∀ d ∈ c :: cs, k ≤ d.y) ∧ (bottom ≤ k ↔ ∀ d ∈ c :: cs, d.y ≤ k) := by
      simp only [List.forall_mem_cons]
      exact ⟨le_foldl_min_iff, foldl_max_le_iff, le_foldl_min_iff, foldl_max_le_iff⟩
    rw [box]
    constructor
    · intro d member
      have least := (span left).1.1 (Int.le_refl _) d member
      have greatest := (span right).2.1.1 (Int.le_refl _) d member
      have highest := (span top).2.2.1.1 (Int.le_refl _) d member
      have lowest := (span bottom).2.2.2.1 (Int.le_refl _) d member
      simp only [Box.Holds]
      omega
    · intro other holds d inside
      have least := (span other.x).1.2 fun e member => (holds e member).1
      have greatest := (span (other.x + other.width - 1)).2.1.2 fun e member => by
        have := (holds e member).2.1
        omega
      have highest := (span other.y).2.2.1.2 fun e member => (holds e member).2.2.1
      have lowest := (span (other.y + other.height - 1)).2.2.2.2 fun e member => by
        have := (holds e member).2.2.2
        omega
      simp only [Box.Holds] at inside ⊢
      omega

/-! ## The order of panels -/

section Stable

variable {α : Type} (key : α → Int)

theorem key_le_trans (a b c : α) (ab : decide (key a ≤ key b) = true) (bc : decide (key b ≤ key c) = true) :
    decide (key a ≤ key c) = true := by
  simp only [decide_eq_true_eq] at ab bc ⊢
  omega

theorem key_le_total (a b : α) : (decide (key a ≤ key b) || decide (key b ≤ key a)) = true := by
  simp only [Bool.or_eq_true, decide_eq_true_eq]
  omega

/-- Sorting by a number leaves those with the same number as they are. -/
theorem filter_mergeSort (l : List α) (k : Int) :
    (l.mergeSort fun a b => decide (key a ≤ key b)).filter (key · == k) = l.filter (key · == k) := by
  have level : (l.filter (key · == k)).Pairwise fun a b => decide (key a ≤ key b) = true := by
    refine List.pairwise_of_forall_mem_list fun a left b right => ?_
    simp only [List.mem_filter, beq_iff_eq] at left right
    simp [left.2, right.2]
  have part := (List.sublist_mergeSort (key_le_trans key) (key_le_total key) level List.filter_sublist).filter (key · == k)
  rw [List.filter_filter] at part
  simp only [Bool.and_self] at part
  exact (part.eq_of_length ((List.mergeSort_perm l _).filter _).length_eq.symm).symm

/-- Sorting by a number orders by the number, and what has the same number as before. -/
theorem pairwise_mergeSort_of_pairwise {R : α → α → Prop} {l : List α} (h : l.Pairwise R) :
    (l.mergeSort fun a b => decide (key a ≤ key b)).Pairwise fun a b => key a < key b ∨ key a = key b ∧ R a b := by
  have sorted := List.pairwise_mergeSort (key_le_trans key) (key_le_total key) l
  refine List.pairwise_iff_forall_sublist.2 fun {a b} pair => ?_
  have le : key a ≤ key b := by simpa using List.pairwise_iff_forall_sublist.1 sorted pair
  rcases Int.lt_or_eq_of_le le with lt | same
  · exact .inl lt
  · have both := pair.filter (key · == key b)
    rw [filter_mergeSort] at both
    simp only [List.filter_cons, same, beq_self_eq_true, if_true, List.filter_nil] at both
    exact .inr ⟨same, List.pairwise_iff_forall_sublist.1 h (both.trans List.filter_sublist)⟩

end Stable

/-! ## The partition -/

/-- A cell shows one token. -/
theorem Shows.unique {grid : List (List Char)} {a b : Char} {c : Cell} (h : Shows grid a c) (other : Shows grid b c) :
    a = b := by
  obtain ⟨x, y, rfl, found⟩ := h
  obtain ⟨x', y', place, found'⟩ := other
  simp only [Cell.mk.injEq, Int.natCast_inj] at place
  rw [place.1, place.2, found'] at found
  exact (Option.some.inj found).symm

theorem mem_footprintsOf {tokens : List (Char × Cell)} {f : Footprint} :
    f ∈ footprintsOf tokens ↔ ∃ token c, (token, c) ∈ tokens ∧ f = footprintOf tokens token := by
  rw [footprintsOf, List.mem_mergeSort, List.mem_map]
  constructor
  · rintro ⟨token, known, rfl⟩
    obtain ⟨⟨_, c⟩, listed, rfl⟩ := List.mem_map.1 (List.mem_eraseDups.1 known)
    exact ⟨_, c, listed, rfl⟩
  · rintro ⟨token, c, listed, rfl⟩
    exact ⟨token, List.mem_eraseDups.2 (List.mem_map_of_mem listed), rfl⟩

/-- The panels of a grid are one for each token that it shows, with the cells that show it. -/
theorem mem_footprintsOf_grid {grid : List (List Char)} {f : Footprint} (h : f ∈ footprintsOf (tokensOfGrid 0 grid)) :
    ∃ token, f = footprintOf (tokensOfGrid 0 grid) token ∧ token ≠ blank ∧ ∀ c, c ∈ f.cells ↔ Shows grid token c := by
  obtain ⟨token, c, listed, rfl⟩ := mem_footprintsOf.1 h
  have visible := (mem_tokens_iff.1 listed).1
  refine ⟨token, rfl, visible, fun d => ?_⟩
  have cells : d ∈ cellsOf (tokensOfGrid 0 grid) token ↔ Shows grid token d := by
    rw [mem_cellsOf, mem_tokens_iff]
    exact and_iff_right visible
  exact cells

theorem exists_footprint {grid : List (List Char)} {token : Char} {c : Cell} (h : Shows grid token c)
    (visible : token ≠ blank) : footprintOf (tokensOfGrid 0 grid) token ∈ footprintsOf (tokensOfGrid 0 grid) :=
  mem_footprintsOf.2 ⟨token, c, mem_tokens_iff.2 ⟨visible, h⟩, rfl⟩

/-- A layout has the grid of its lines. -/
theorem gridOf_ofLines (lines : List (List Char)) : GridOf lines (ofLines lines) := by
  have kept := keptLines_eq lines
  have roomy {line : List Char} (member : line ∈ visible lines) :
      (dropReturns line).length ≤ widthOf (keptLines lines) := by
    rw [kept]
    exact length_le_widthOf (List.mem_map_of_mem member)
  refine ⟨?_, ?_, ?_, ?_, ?_⟩
  · have shown : (ofLines lines).grid =
        (visible lines).map fun line => rowOf (widthOf (keptLines lines)) (dropReturns line) := by
      rw [ofLines, kept, List.map_map]
      rfl
    rw [shown]
    exact List.map_congr_left fun line member => rowOf_dropReturns (roomy member)
  · simp [ofLines]
  · intro row member
    obtain ⟨line, listed, rfl⟩ := List.mem_map.1 member
    exact congrArg _ (length_rowOf (length_le_widthOf listed))
  · exact fun line member => Int.ofNat_le.2 (roomy member)
  · by_cases none : keptLines lines = []
    · exact .inl (by simp [ofLines, none, widthOf])
    · obtain ⟨line, listed, width⟩ := exists_length_eq_widthOf none
      rw [kept] at listed
      obtain ⟨source, member, rfl⟩ := List.mem_map.1 listed
      exact .inr ⟨source, member, congrArg _ width⟩

theorem ordered_footprintsOf (grid : List (List Char)) : (footprintsOf (tokensOfGrid 0 grid)).Pairwise fun f g =>
    f.number < g.number ∨ f.number = g.number ∧ ∃ c ∈ f.cells, ∀ d ∈ g.cells, c.Before d := by
  have appearance := pairwise_eraseDups (pairwise_tokensOfGrid 0 grid)
  exact pairwise_mergeSort_of_pairwise Footprint.number (List.pairwise_map.2 (appearance.imp And.right))

theorem distinct_footprintsOf (grid : List (List Char)) :
    ((footprintsOf (tokensOfGrid 0 grid)).map (·.label)).Nodup := by
  have appearance := pairwise_eraseDups (pairwise_tokensOfGrid 0 grid)
  refine (((List.mergeSort_perm _ _).map _).nodup_iff).2 ?_
  rw [List.map_map, List.Nodup, List.pairwise_map]
  refine appearance.imp fun different same => different.1 ?_
  simpa [footprintOf] using same

/-- The footprints of a grid are its panels. -/
theorem panelsOf_footprintsOf (grid : List (List Char)) : PanelsOf grid (footprintsOf (tokensOfGrid 0 grid)) := by
  refine ⟨distinct_footprintsOf grid, ?labels, ?cells, ?rowMajor, ?covered, ?uncovered, ?boxes, ?numbers,
    ordered_footprintsOf grid⟩
  case labels =>
    intro label
    rw [List.mem_map]
    constructor
    · rintro ⟨f, member, rfl⟩
      obtain ⟨token, c, listed, rfl⟩ := mem_footprintsOf.1 member
      obtain ⟨visible, shown⟩ := mem_tokens_iff.1 listed
      exact ⟨token, c, rfl, visible, shown⟩
    · rintro ⟨token, c, rfl, visible, shown⟩
      exact ⟨_, exists_footprint shown visible, rfl⟩
  case cells =>
    intro f member c
    obtain ⟨token, rfl, -, cells⟩ := mem_footprintsOf_grid member
    rw [cells]
    constructor
    · exact fun shown => ⟨token, rfl, shown⟩
    · rintro ⟨other, label, shown⟩
      have same : token = other := by simpa [footprintOf] using label
      rwa [same]
  case rowMajor =>
    intro f member
    obtain ⟨token, rfl, -, -⟩ := mem_footprintsOf_grid member
    exact pairwise_cellsOf (pairwise_tokensOfGrid 0 grid) token
  case covered =>
    intro token c shown visible
    refine ⟨footprintOf (tokensOfGrid 0 grid) token, ⟨exists_footprint shown visible, ?_⟩, ?_⟩
    · exact mem_cellsOf.2 (mem_tokens_iff.2 ⟨visible, shown⟩)
    · rintro f ⟨member, cell⟩
      obtain ⟨other, rfl, -, cells⟩ := mem_footprintsOf_grid member
      rw [((cells c).1 cell).unique shown]
  case uncovered =>
    intro c shown f member cell
    obtain ⟨token, rfl, visible, cells⟩ := mem_footprintsOf_grid member
    exact visible (((cells c).1 cell).unique shown)
  case boxes =>
    intro f member
    obtain ⟨token, rfl, -, -⟩ := mem_footprintsOf_grid member
    exact bounds_boxAround _
  case numbers =>
    intro f member
    obtain ⟨token, rfl, -, -⟩ := mem_footprintsOf_grid member
    simp [footprintOf, sortKey]

/-- A layout that is read has the panels of its grid. -/
theorem panelsOf_of_parse {source : Value} {l : Layout} (h : parse source = .ok l) : PanelsOf l.grid l.footprints := by
  obtain ⟨lines, rfl⟩ := exists_ofLines_of_parse h
  exact panelsOf_footprintsOf _

/-! ## What can be read -/

theorem lineTexts_eq_ok {n : Nat} {items : List Value} {texts : List (List Char)} (h : lineTexts n items = .ok texts) :
    ∃ rows : List String, items = rows.map .str ∧ texts = rows.map String.toList := by
  rcases texts_or_stray items with ⟨rows, rfl⟩ | ⟨rows, v, rest, rfl, stray⟩
  · rw [lineTexts_map_str] at h
    exact ⟨rows, rfl, (Except.ok.inj h).symm⟩
  · rw [lineTexts_stray stray] at h
    cases text : v.quoted with
    | ok shown =>
      rw [text] at h
      cases h
    | error c =>
      rw [text] at h
      cases h

/-- The sources that give lines are those that are meant to. -/
theorem linesOf_eq_ok_iff {source : Value} {lines : List (List Char)} : linesOf source = .ok lines ↔ Rows source lines := by
  constructor
  · intro h
    unfold linesOf at h
    split at h
    · cases h
      rw [Text.Chars.splitOn_eq]
      exact .text _
    · obtain ⟨rows, rfl, rfl⟩ := lineTexts_eq_ok h
      exact .list rows
    · obtain ⟨rows, rfl, rfl⟩ := lineTexts_eq_ok h
      exact .tuple rows
    · cases h
  · intro h
    cases h with
    | text s => rw [linesOf, Text.Chars.splitOn_eq]
    | list rows => exact lineTexts_map_str 1 rows
    | tuple rows => exact lineTexts_map_str 1 rows

/-- **Layouts are partitions.** A text and a list or tuple of texts are read, each as a layout with the grid of its lines and
the panels of that grid. Any other source is refused, but for a list or tuple whose first line that is no text cannot be
written. -/
theorem parse_partition (source : Value) :
    (∃ lines l, Rows source lines ∧ parse source = .ok l ∧ GridOf lines l ∧ PanelsOf l.grid l.footprints) ∨
    ((∀ lines, ¬ Rows source lines) ∧ ((∃ e, parse source = .error (.refused e)) ∨
      parse source = .error (.crashed .tooManyDigits) ∧ ∃ line, FirstStray source line ∧ ¬ line.Writable)) := by
  cases read : linesOf source with
  | ok lines =>
    refine .inl ⟨lines, ofLines lines, linesOf_eq_ok_iff.1 read, ?_, gridOf_ofLines lines, panelsOf_footprintsOf _⟩
    rw [parse, read]
    rfl
  | error e =>
    have failed : parse source = .error e := by
      rw [parse, read]
      rfl
    refine .inr ⟨fun lines rows => ?_, ?_⟩
    · rw [linesOf_eq_ok_iff.2 rows] at read
      cases read
    · cases e with
      | refused e => exact .inl ⟨e, failed⟩
      | crashed c =>
        obtain ⟨rfl, long⟩ := parse_crashed_iff.1 failed
        exact .inr ⟨failed, long⟩

end Layout

end ComicScript
