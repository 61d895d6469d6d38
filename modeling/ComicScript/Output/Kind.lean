import ComicScript.Preview.Document

/-!
# Outputs of a chapter

The documents that a chapter can be written as.
-/

namespace ComicScript
set_option autoImplicit false

/-- A kind of document. -/
inductive Output
  | markdown
  | html
  deriving DecidableEq, Repr

namespace Output

/-- All kinds, in the order in which they are written. -/
def all : List Output := [markdown, html]

/-- The name of a kind, by which it is chosen. -/
def id : Output → String
  | markdown => "markdown"
  | html => "html"

/-- The title of a kind. -/
def title : Output → String
  | markdown => "Script (markdown)"
  | html => "Script with page layouts (HTML)"

/-- The file that a kind is written to. -/
def filename : Output → String
  | markdown => "script.md"
  | html => "script.html"

/-- A chapter as a document of a kind. -/
def render (cfg : Config) (c : Chapter) : Output → Except Crash String
  | markdown => .ok (Markdown.document (.filled c)).text
  | html => Preview.ofChapter cfg true c

/-- The name that stands for all kinds. -/
def allName : String := "all"

/-- The kinds that a name stands for, if there are any. -/
def select? (name : String) : Option (List Output) :=
  if name = allName then some all
  else
    match all.filter (·.id == name) with
    | [] => none
    | kinds => some kinds

/-- What is wrong with a name that stands for no kind. -/
def unknownMessage (name : String) : String :=
  "unknown output format " ++ Text.quoted name

end Output

end ComicScript
