import ComicScript.Crash
import ComicScript.Output.Path
import ComicScript.Text.Blank

/-!
# Written files

Files by path, in the order in which they were first written; a file that is written again has its last text. What was
written before a crash stays.
-/

namespace ComicScript
set_option autoImplicit false

/-- Written files. -/
abbrev Files := List (Path × String)

namespace Files

/-- The text of a file. -/
def textOf? (files : Files) (p : Path) : Option String :=
  (List.find? (·.1 == p) files).map (·.2)

/-- Writes a file. -/
def put (p : Path) (text : String) : Files → Files
  | [] => [(p, text)]
  | (q, old) :: rest => if q = p then (q, text) :: rest else (q, old) :: put p text rest

end Files

/-- A step that writes files and may crash. -/
abbrev Writing := ExceptT Crash (StateM Files)

/-- Writes a file. -/
def writeFile (p : Path) (text : String) : Writing Unit :=
  modify (Files.put p text)

/-- A text with one line feed in place of the blanks at its end. -/
def withFinalLineFeed (s : String) : String :=
  Text.trimRight s ++ "\n"

/-- A markdown text under a title. -/
def titled (title body : String) : String :=
  "# " ++ title ++ "\n\n" ++ withFinalLineFeed body

end ComicScript
