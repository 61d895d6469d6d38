import ComicScript.Script.Basic
import ComicScript.Text.Blank
import ComicScript.Text.Lines
import ComicScript.Text.Upper

/-!
# Chapters as markdown

Sections are joined by one empty line: title, synopsis and credits, then the pages. A page is its heading and its panels;
a panel is its heading, its description, its effects and one quote with all that is said. A malformed part leaves an
error heading in its place. The line of each page heading is kept beside the text.
-/

namespace ComicScript.Markdown
set_option autoImplicit false

/-- What stands for a malformed chapter. -/
def malformedChapter : String := "# Error: Invalid chapter data"

/-- What stands for a malformed page. -/
def malformedPage : String := "## Error: Invalid page data"

/-- What stands for a malformed panel. -/
def malformedPanel : String := "### Error: Invalid panel data"

/-- The text of a field with its blanks collapsed; a field without text is empty. -/
def collapsed (field : Option String) : String :=
  match field with
  | none => ""
  | some s => if s.isEmpty then "" else Text.collapse s

/-- A line in italics. -/
def italic (s : String) : String :=
  "*" ++ s ++ "*"

/-- A line in bold. -/
def bold (s : String) : String :=
  "**" ++ s ++ "**"

/-- The description of a panel. -/
def description (s : String) : String :=
  italic (Text.collapse s)

/-- The name of a speaker before what is said. -/
def speaker (character : String) : String :=
  "**" ++ Text.upper character ++ ":** "

/-- A line of dialogue: narration in italics, a sound effect in bold, else the speaker, the type if it is not plain
speech, and the text. -/
def dialogue (d : Dialogue) : String :=
  let text := Text.collapse d.text
  let character := if d.character.isEmpty then defaultCharacter else d.character
  let type := if d.type.isEmpty then speechType else d.type
  if d.isNarration || type == narrationType then italic text
  else if type == soundEffectType then bold text
  else if type == speechType then speaker character ++ text
  else speaker character ++ "(" ++ type ++ ") " ++ text

/-- The title of a page or panel: its number, and its name if it has one. -/
def numberedTitle (kind : String) (number : Int) (name : Option String) : String :=
  let title := "(" ++ kind ++ " " ++ toString number ++ ")"
  if (collapsed name).isEmpty then title else title ++ " " ++ collapsed name

/-- What is made of a field that is neither empty nor blank. -/
def unlessBlank (field : Option String) (make : String → String) : List String :=
  match field with
  | none => []
  | some s => if !s.isEmpty && !(Text.collapse s).isEmpty then [make s] else []

/-- The dialogue of a panel, if all of it is well formed. -/
def dialogue? (p : Panel) : Option (List Dialogue) :=
  p.dialogue.part?.bind (·.mapM Slot.part?)

/-- The lines of a panel's quote: the caption, the dialogue and the end caption. -/
def quoteLines (p : Panel) (lines : List Dialogue) : List String :=
  unlessBlank p.caption (fun s => italic ("CAPTION: " ++ Text.collapse s)) ++ lines.map dialogue ++
    unlessBlank p.endCaption (fun s => italic ("END CAPTION: " ++ Text.collapse s))

/-- A quote, each of its lines on a line of its own. -/
def quote (lines : List String) : List String :=
  if lines.isEmpty then [] else ["> " ++ "\n> ".intercalate lines]

/-- Joins sections with an empty line between them. -/
def joinSections (sections : List String) : String :=
  "\n\n".intercalate sections

/-- The sections of a panel. -/
def panelSections (number : Int) (p : Panel) (lines : List Dialogue) : List String :=
  ("### " ++ numberedTitle "Panel" number p.name) :: unlessBlank p.desc description ++
    unlessBlank p.fx (fun s => "**FX:** " ++ Text.collapse s) ++ quote (quoteLines p lines)

/-- A panel with its number. -/
def panel (number : Int) (slot : Slot Panel) : String :=
  match slot with
  | .malformed _ => malformedPanel
  | .filled p =>
    match dialogue? p with
    | none => malformedPanel
    | some lines => joinSections (panelSections number p lines)

/-- Panels numbered from the given number on. -/
def panelsFrom (number : Nat) : List (Slot Panel) → List String
  | [] => []
  | slot :: rest => panel number slot :: panelsFrom (number + 1) rest

/-- A page with its number. -/
def page (number : Int) (slot : Slot Page) : String :=
  match slot with
  | .malformed _ => malformedPage
  | .filled p =>
    match p.panels with
    | .malformed _ => malformedPage
    | .filled panels => joinSections (("## " ++ numberedTitle "Page" number p.name) :: panelsFrom 1 panels)

/-- Pages numbered from the given number on. -/
def pagesFrom (number : Nat) : List (Slot Page) → List String
  | [] => []
  | slot :: rest => page number slot :: pagesFrom (number + 1) rest

/-- The credits as a list, if there are any. -/
def credits (entries : Option (List (Option String))) : List String :=
  match entries with
  | none => []
  | some [] => []
  | some entries =>
    ["**Credits:**\n" ++ Text.unlines ((entries.filterMap id).map fun entry => "- " ++ Text.trim entry)]

/-- The sections before the pages. -/
def headerSections (c : Chapter) : List String :=
  (c.heading?.map ("# " ++ ·)).toList ++
    (match c.synopsis with
      | none => []
      | some s => if s.isEmpty then [] else ["**Synopsis:** " ++ s]) ++
    credits c.credits

/-- The number of lines that a section takes, with the empty line after it. -/
def height (s : String) : Nat :=
  Text.countLineFeeds s + 2

/-- The number of lines that some sections take. -/
def heights : List String → Nat
  | [] => 0
  | s :: rest => height s + heights rest

/-- The line of each section, if the first is at the given line. -/
def startsFrom (line : Nat) : List String → List Nat
  | [] => []
  | s :: rest => line :: startsFrom (line + height s) rest

/-- A chapter as markdown, with the line of each page heading, counted from zero. -/
structure Document where
  text : String
  pageStarts : List Nat
  deriving DecidableEq, Repr

/-- Renders a chapter. -/
def document (slot : Slot Chapter) : Document :=
  match slot with
  | .malformed _ => ⟨malformedChapter, []⟩
  | .filled c =>
    match c.pages with
    | .malformed _ => ⟨malformedChapter, []⟩
    | .filled pages =>
      let header := headerSections c
      let blocks := pagesFrom 1 pages
      ⟨joinSections (header ++ blocks), startsFrom (heights header) blocks⟩

end ComicScript.Markdown
