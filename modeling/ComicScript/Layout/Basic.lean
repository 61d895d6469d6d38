import ComicScript.Value.Text

/-!
# Page layouts

A layout is a grid of characters. All cells with the same character, its token, are one panel, whether or not they touch;
panels are ordered by a number that their token stands for.
-/

namespace ComicScript
set_option autoImplicit false

/-- A cell of a grid, by column and row. -/
structure Cell where
  x : Int
  y : Int
  deriving DecidableEq, Repr

/-- A rectangle of cells. -/
structure Box where
  x : Int
  y : Int
  width : Int
  height : Int
  deriving DecidableEq, Repr

/-- The cells of one panel, with the smallest rectangle around them. -/
structure Footprint where
  label : String
  number : Int
  cells : List Cell
  box : Box
  deriving DecidableEq, Repr

/-- A grid, with blank cells as spaces, and the footprints of its panels in order. A layout made by hand may have any
size and any cells. -/
structure Layout where
  grid : List (List Char)
  footprints : List Footprint
  width : Int
  height : Int
  deriving DecidableEq, Repr

/-- Why a layout cannot be read or drawn. -/
inductive LayoutError
  /-- a token without characters -/
  | emptyToken
  /-- something else where a grid is expected -/
  | notGrid (typeName : String)
  /-- something else where a line of a grid is expected; lines are counted from one -/
  | notLine (line : Nat) (shown : String)
  /-- a diagram without room inside its margins -/
  | noRoom (width height : String)
  /-- panels on a grid without cells -/
  | noCells (width height : String)
  /-- a text that is no colour -/
  | notColour (shown : String)
  deriving DecidableEq, Repr

/-- The margin of a diagram, in pixels. -/
def margin : Nat := 10

/-- What is wrong with a layout. -/
def LayoutError.message : LayoutError → String
  | emptyToken => "empty panel token"
  | notGrid typeName => "layout must be a string or a list of lines, got " ++ typeName
  | notLine line shown => "layout line " ++ toString line ++ " is not a string: " ++ shown
  | noRoom width height =>
    "diagram size " ++ width ++ "x" ++ height ++ " leaves no room inside the " ++ toString margin ++ "px padding"
  | noCells width height => "layout has panels but a " ++ width ++ "x" ++ height ++ " grid"
  | notColour shown => "Not a #rrggbb color: " ++ shown

/-- Whether a layout has no panels. -/
def Layout.isEmpty (l : Layout) : Bool :=
  l.footprints.isEmpty

end ComicScript
