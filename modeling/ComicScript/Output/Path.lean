import ComicScript.Text.Lines

/-!
# Paths

A path is a row of names after an optional root. Empty names and names of a single dot say nothing; two dots stay.
-/

namespace ComicScript
set_option autoImplicit false

/-- A path; the root is empty or consists of slashes. -/
structure Path where
  root : String
  names : List String
  deriving DecidableEq, Repr

namespace Path

/-- The root of a written path: none, two slashes if it begins with exactly two, else one. -/
def rootOf (s : List Char) : String :=
  let slashes := s.takeWhile (· == '/')
  if slashes.isEmpty then "" else if slashes.length = 2 then "//" else "/"

/-- Reads a path. -/
def ofString (s : String) : Path :=
  ⟨rootOf s.toList, (Text.splitOn '/' s).filter fun name => !name.isEmpty && name != "."⟩

/-- A path as it is written; the path without names is a single dot. -/
def text (p : Path) : String :=
  if p.root.isEmpty ∧ p.names.isEmpty then "." else p.root ++ "/".intercalate p.names

/-- The last name. -/
def name (p : Path) : String :=
  p.names.getLast?.getD ""

/-- The path without its last name. -/
def parent (p : Path) : Path :=
  { p with names := p.names.dropLast }

/-- A path inside another; a path with a root stands for itself. -/
def join (p q : Path) : Path :=
  if q.root.isEmpty then { p with names := p.names ++ q.names } else q

/-- A name inside a path. -/
def child (p : Path) (name : String) : Path :=
  p.join (ofString name)

/-- A name without its last extension; a dot at either end begins none. -/
def stem (name : List Char) : List Char :=
  let extension := name.reverse.takeWhile (· != '.')
  let kept := name.take (name.length - extension.length - 1)
  if '.' ∈ name ∧ !kept.isEmpty ∧ !extension.isEmpty then kept else name

end Path

/-- What script files are recognised by. -/
def scriptEndings : List String := [".comic.yml", ".comic.yaml"]

/-- A name without the ending of a script file, in any casing, or without its last extension. -/
def scriptStem (name : List Char) : List Char :=
  let low := name.map Char.toLower
  match scriptEndings.find? fun ending => ending.toList.isSuffixOf low with
  | some ending => name.take (name.length - ending.length)
  | none => Path.stem name

/-- Where the outputs of a script go unless a caller says otherwise: a directory next to the script. -/
def Path.defaultOutput (script : Path) : Path :=
  script.parent.child (String.ofList (scriptStem script.name.toList) ++ "_out")

end ComicScript
