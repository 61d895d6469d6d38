import ComicScript.Output.Files
import ComicScript.Preview.Sections

/-!
# Layout suites

One diagram for each page in a file of its own, and an index that lists the pages with the number of their panels.
-/

namespace ComicScript.Suite
set_option autoImplicit false

/-- The file of a page's diagram; the number has at least two places. -/
def filename (number : Int) : String :=
  let digits := toString number.natAbs
  "page_" ++ (if number < 0 then "-" ++ digits else Decimal.padLeft 2 digits) ++ ".svg"

/-- The name of a page in the index. -/
def displayName (number : Nat) (p : Page) : String :=
  let title := "Page " ++ toString number
  if (Markdown.collapsed p.name).isEmpty then title else title ++ ": " ++ Markdown.collapsed p.name

/-- A text as a cell of a table: line ends are spaces and bars are escaped. -/
def tableCell (s : String) : String :=
  let oneLine := Text.Chars.replaceChar '\n' " " (Text.Chars.replaceChar '\r' " " s.toList)
  String.ofList (Text.Chars.replaceChar '|' "\\|" (Text.Chars.trim oneLine))

/-- How many panels a layout has; nothing if there is no layout. -/
def layoutCount (p : Page) : Except Crash String :=
  if p.layout.isNull then .ok ""
  else
    match Layout.parse p.layout with
    | .ok l => .ok (toString l.footprints.length)
    | .error (.refused _) => .ok "invalid"
    | .error (.crashed c) => .error c

/-- The size of a value: its characters or its entries. -/
def extent : Value → Nat
  | .str s => s.length
  | .list items => items.length
  | .tuple items => items.length
  | .map entries => entries.length
  | _ => 0

/-- The number of panels that a page lists, or the size of what stands in their place. -/
def panelCount (p : Page) : Nat :=
  match p.panels with
  | .filled panels => panels.length
  | .malformed found => extent found

/-- A page, or an empty one in place of something else. -/
def pageOf (slot : Slot Page) : Page :=
  slot.part?.getD ⟨none, .null, .malformed .null⟩

/-- The line of a page in the index. -/
def row (number : Nat) (p : Page) (layoutPanels : String) : String :=
  let file := filename number
  "| " ++ " | ".intercalate [toString number, tableCell (displayName number p), toString (panelCount p),
    tableCell layoutPanels, "[" ++ file ++ "](" ++ file ++ ")"] ++ " |"

/-- The lines before the table's rows. -/
def indexHead : List String :=
  ["This page lists the panel layout diagram generated for each page.", "",
    "| page | name | script panels | layout panels | diagram |", "|---|---|---|---|---|"]

/-- The index with a row for each page. -/
def index (rows : List String) : String :=
  Text.unlines (indexHead ++ rows ++ if rows.isEmpty then ["", "The script has no pages."] else [])

/-- The title of the index. -/
def indexTitle (c : Chapter) : Except Crash String := do
  match ← c.title.label? with
  | none => return "Layouts"
  | some title => return "Layouts: " ++ title

/-- Writes the diagrams of the pages from the given number on; gives their files and their rows in the index. -/
def writePages (cfg : Config) (dir : Path) (number : Nat) : List (Slot Page) → Writing (List (Path × String))
  | [] => return []
  | slot :: rest => do
    let file := dir.child (filename number)
    let svg ← Preview.pageDiagram cfg (some slot)
    writeFile file (withFinalLineFeed svg)
    let page := pageOf slot
    let first := (file, row number page (← layoutCount page))
    return first :: (← writePages cfg dir (number + 1) rest)

/-- Where a suite goes unless a caller says otherwise. -/
def usualName : String := "layouts"

/-- Writes the diagrams of a chapter, and the index if it is asked for; gives the files of the diagrams, in the order of
the pages. -/
def write (cfg : Config) (out : Path) (name : String) (withIndex : Bool) (c : Chapter) : Writing (List Path) := do
  let dir := out.child name
  let pages ← writePages cfg dir 1 c.pageList
  if withIndex then
    let title ← indexTitle c
    writeFile (dir.child "index.md") (titled title (index (pages.map (·.2))))
  return pages.map (·.1)

end ComicScript.Suite
