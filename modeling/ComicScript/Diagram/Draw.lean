import ComicScript.Diagram.Colour
import ComicScript.Diagram.Length
import ComicScript.Diagram.Svg
import ComicScript.Layout.Parse

/-!
# Diagrams of layouts

A diagram shows the grid of a page: each cell of a panel is a rectangle in the panel's colour, and the panel's label
stands at the mean of its cells. A page without panels has a placeholder.
-/

namespace ComicScript
set_option autoImplicit false

open Svg (Element)

/-- How diagrams are drawn, and the title of a document that has none of its own. -/
structure Config where
  width : Length := .whole 400
  height : Length := .whole 600
  showNumbers : Bool := true
  showGrid : Bool := false
  documentTitle : String := "Comic Script Preview"

namespace Diagram

/-- The largest size of a label, in pixels. -/
def maxFontSize : Nat := 24

/-- The elements of a drawing that shows a message only, in the middle of it. -/
def placeholderElements (cfg : Config) (message : String) (x y : Float) : List Element :=
  [.rect [("width", cfg.width.value), ("height", cfg.height.value), ("fill", .str "#f0f0f0"), ("stroke", .str "#333"),
      ("stroke_width", .int 2)],
    .text (.str message) [("x", .float x), ("y", .float y), ("text_anchor", .str "middle"),
      ("font_family", .str "Arial"), ("font_size", .int 14), ("fill", .str "#666")]]

/-- A drawing that shows a message only. -/
def placeholder (cfg : Config) (message : String) : Except Crash String :=
  Svg.document cfg.width.value cfg.height.value do
    let x ← cfg.width.part 2
    let y ← cfg.height.part 2
    return placeholderElements cfg message x y

/-- What a page without panels shows. -/
def noLayout : String := "No layout defined"

/-- What a page with a wrong layout shows. -/
def badLayout : String := "Invalid layout"

/-- Whether a diagram has room inside its margins. -/
def hasRoom (cfg : Config) : Bool :=
  !(cfg.width.atMost (2 * margin) || cfg.height.atMost (2 * margin))

/-- A place at a number of cells from the margin. -/
def place (cells size : Float) : Float :=
  Decimal.ofRatio margin 1 + cells * size

/-- The character of a number; from `2 ^ 31` on a number is not even looked up. -/
def characterOf (n : Int) : Except Crash Char :=
  if 0x80000000 ≤ n then .error .tooLarge
  else if 0x110000 ≤ n then .error .noCharacter
  else .ok (Char.ofNat n.toNat)

/-- The label of a panel: its token, or else its number, from ten on as a letter. -/
def label (f : Footprint) : Except Crash String :=
  if !f.label.isEmpty then .ok f.label
  else if f.number ≤ 9 then Decimal.intText f.number
  else do return String.singleton (← characterOf (65 + f.number - 10))

/-- The mean of some numbers. -/
def mean (ns : List Int) : Float :=
  Decimal.ofIntRatio (ns.foldl (· + ·) 0) ns.length

/-- The size of a label: a third of the shorter side of the panel's box, but no more than the largest size. -/
def fontSize (f : Footprint) (cellWidth cellHeight : Float) : Value :=
  let across := Decimal.ofInt f.box.width * cellWidth
  let down := Decimal.ofInt f.box.height * cellHeight
  let third := (if down < across then down else across) / 3.0
  if third < Decimal.ofRatio maxFontSize 1 then .float third else .int maxFontSize

/-- The rectangle of one cell. -/
def cellElement (cellWidth cellHeight : Float) (colour : Colour) (c : Cell) : Element :=
  .rect [("x", .float (place (Decimal.ofInt c.x) cellWidth)), ("y", .float (place (Decimal.ofInt c.y) cellHeight)),
    ("width", .float cellWidth), ("height", .float cellHeight), ("fill", .str colour.text)]

/-- The label of one panel. -/
def labelElement (cellWidth cellHeight : Float) (f : Footprint) (label : String) : Element :=
  .text (.str label)
    [("x", .float (place (mean (f.cells.map (·.x)) + 0.5) cellWidth)),
      ("y", .float (place (mean (f.cells.map (·.y)) + 0.5) cellHeight)),
      ("text_anchor", .str "middle"), ("dominant_baseline", .str "middle"), ("font_family", .str "Arial"),
      ("font_size", fontSize f cellWidth cellHeight), ("font_weight", .str "bold"),
      ("fill", .str (Colour.ofNumber f.number).contrast.text)]

/-- The cells of one panel. -/
def cellElements (cellWidth cellHeight : Float) (f : Footprint) : List Element :=
  f.cells.map (cellElement cellWidth cellHeight (Colour.ofNumber f.number))

/-- The cells of one panel, and its label if labels are shown. -/
def panelElements (showNumbers : Bool) (cellWidth cellHeight : Float) (f : Footprint) : Except Crash (List Element) :=
  let cells := cellElements cellWidth cellHeight f
  if showNumbers then do return cells ++ [labelElement cellWidth cellHeight f (← label f)] else .ok cells

/-- The cells and labels of some panels. -/
def panelsElements (showNumbers : Bool) (cellWidth cellHeight : Float) : List Footprint → Except Crash (List Element)
  | [] => .ok []
  | f :: rest => do
    let first ← panelElements showNumbers cellWidth cellHeight f
    return first ++ (← panelsElements showNumbers cellWidth cellHeight rest)

/-- The lines between cells, in a group of their own. -/
def gridElements (cfg : Config) (columns rows : Nat) (cellWidth cellHeight : Float) : List Element :=
  let near : Value := .int margin
  let column (i : Nat) : Element :=
    let x := Value.float (place (Decimal.ofRatio i 1) cellWidth)
    .line x near x (cfg.height.less margin).value
  let row (i : Nat) : Element :=
    let y := Value.float (place (Decimal.ofRatio i 1) cellHeight)
    .line near y (cfg.width.less margin).value y
  Element.openGroup [("stroke", .str "#e0e0e0"), ("stroke_width", .float 0.5)] ::
    (List.range (columns + 1)).map column ++ (List.range (rows + 1)).map row ++ [Element.closeGroup]

/-- The white ground of a diagram. -/
def groundElement (cfg : Config) : Element :=
  .rect [("width", cfg.width.value), ("height", cfg.height.value), ("fill", .str "white")]

/-- The frame around the cells. -/
def frameElement (cfg : Config) : Element :=
  .rect [("x", .int margin), ("y", .int margin), ("width", (cfg.width.less (2 * margin)).value),
    ("height", (cfg.height.less (2 * margin)).value), ("fill", .str "none"), ("stroke", .str "#333"),
    ("stroke_width", .int 3)]

/-- The elements of a diagram with cells of a size, from the ground up. -/
def elements (cfg : Config) (l : Layout) (cellWidth cellHeight : Float) : Except Crash (List Element) := do
  let grid := if cfg.showGrid then gridElements cfg l.width.toNat l.height.toNat cellWidth cellHeight else []
  let panels ← panelsElements cfg.showNumbers cellWidth cellHeight l.footprints
  return groundElement cfg :: grid ++ panels ++ [frameElement cfg]

/-- The diagram of a layout. -/
def draw (cfg : Config) (l : Layout) : Except (Stop LayoutError) String := do
  if l.isEmpty then placeholder cfg noLayout
  else if !hasRoom cfg then
    let width ← cfg.width.text
    let height ← cfg.height.text
    throw (.refused (.noRoom width height))
  else if l.width ≤ 0 ∨ l.height ≤ 0 then
    let width ← Decimal.intText l.width
    let height ← Decimal.intText l.height
    throw (.refused (.noCells width height))
  else
    let cellWidth ← (cfg.width.less (2 * margin)).part l.width.toNat
    let cellHeight ← (cfg.height.less (2 * margin)).part l.height.toNat
    Svg.document cfg.width.value cfg.height.value (elements cfg l cellWidth cellHeight)

/-- The diagram of a layout's source. -/
def ofSource (cfg : Config) (source : Value) : Except (Stop LayoutError) String := do
  draw cfg (← Layout.parse source)

end Diagram

end ComicScript
