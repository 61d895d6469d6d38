import ComicScript.Layout.Basic
import ComicScript.Decimal.Integer
import ComicScript.Text.Lines

/-!
# Reading a layout

One line is one row of the grid and one character one cell. Dots and blanks are blank cells, blank lines are dropped and
short rows are filled up. Any list of rows is a layout: only something that is no list of rows is refused.
-/

namespace ComicScript
set_option autoImplicit false

open Text (isBlank)

namespace Layout

/-- A blank cell. -/
def blank : Char := ' '

/-- The number that orders a token: its value if it is an integer, else its first character's code point less 55, so
that `A` follows `9`. -/
def tokenNumber (first : Char) (rest : List Char) : Int :=
  (Decimal.readInt? 10 (first :: rest)).getD ((first.toNat : Int) - 55)

/-- The number that orders a token of any length. -/
def sortKey : List Char → Except LayoutError Int
  | [] => .error .emptyToken
  | first :: rest => .ok (tokenNumber first rest)

/-- The cell that a character stands for. -/
def cellOf (c : Char) : Char :=
  if c = '.' ∨ isBlank c = true then blank else c

/-- Drops the carriage returns at the end of a line. -/
def dropReturns (line : List Char) : List Char :=
  (line.reverse.dropWhile (· == '\r')).reverse

/-- The lines that become rows of the grid. -/
def keptLines (lines : List (List Char)) : List (List Char) :=
  (lines.map dropReturns).filter (!Text.Chars.allBlank ·)

/-- A row of a grid of the given width. -/
def rowOf (width : Nat) (line : List Char) : List Char :=
  line.map cellOf ++ List.replicate (width - line.length) blank

/-- The length of the longest line. -/
def widthOf (lines : List (List Char)) : Nat :=
  (lines.map List.length).foldl max 0

/-- The tokens of a row from a column on, each with its cell. -/
def tokensOfRow (y x : Nat) : List Char → List (Char × Cell)
  | [] => []
  | c :: rest =>
    if c = blank then tokensOfRow y (x + 1) rest else (c, ⟨x, y⟩) :: tokensOfRow y (x + 1) rest

/-- The tokens of a grid from a row on, row by row. -/
def tokensOfGrid (y : Nat) : List (List Char) → List (Char × Cell)
  | [] => []
  | row :: rows => tokensOfRow y 0 row ++ tokensOfGrid (y + 1) rows

/-- The smallest rectangle around some cells. -/
def boxAround : List Cell → Box
  | [] => ⟨0, 0, 0, 0⟩
  | c :: cs =>
    let left := cs.foldl (fun m d => min m d.x) c.x
    let right := cs.foldl (fun m d => max m d.x) c.x
    let top := cs.foldl (fun m d => min m d.y) c.y
    let bottom := cs.foldl (fun m d => max m d.y) c.y
    ⟨left, top, right - left + 1, bottom - top + 1⟩

/-- The cells of a token. -/
def cellsOf (tokens : List (Char × Cell)) (token : Char) : List Cell :=
  (tokens.filter (·.1 == token)).map (·.2)

/-- The footprint of a token. -/
def footprintOf (tokens : List (Char × Cell)) (token : Char) : Footprint :=
  let cells := cellsOf tokens token
  ⟨String.singleton token, tokenNumber token [], cells, boxAround cells⟩

/-- The footprints of some tokens, in the order of their numbers; equal numbers keep the order of first appearance. -/
def footprintsOf (tokens : List (Char × Cell)) : List Footprint :=
  ((tokens.map (·.1)).eraseDups.map (footprintOf tokens)).mergeSort fun a b => decide (a.number ≤ b.number)

/-- The layout of some lines. -/
def ofLines (lines : List (List Char)) : Layout :=
  let kept := keptLines lines
  let grid := kept.map (rowOf (widthOf kept))
  ⟨grid, footprintsOf (tokensOfGrid 0 grid), widthOf kept, kept.length⟩

/-- The texts of a list of lines, counted from the given number. -/
def lineTexts : Nat → List Value → Except (Stop LayoutError) (List (List Char))
  | _, [] => .ok []
  | n, .str s :: rest => do return s.toList :: (← lineTexts (n + 1) rest)
  | n, v :: _ => do throw (.refused (.notLine n (← v.quoted)))

/-- The lines of a layout's source: one text or a list of lines. -/
def linesOf : Value → Except (Stop LayoutError) (List (List Char))
  | .str s => .ok (Text.Chars.splitOn '\n' s.toList)
  | .list items => lineTexts 1 items
  | .tuple items => lineTexts 1 items
  | v => .error (.refused (.notGrid v.typeName))

/-- Reads a layout. -/
def parse (source : Value) : Except (Stop LayoutError) Layout :=
  (linesOf source).map ofLines

end Layout

end ComicScript
