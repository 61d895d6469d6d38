import ComicScript.Preview.Inline
import ComicScript.Text.Blank
import ComicScript.Text.Lines

/-!
# Markdown as HTML

Lines are converted one by one. Quoted lines are held back until a line that is not quoted, or the end, and then become
one quote.
-/

namespace ComicScript.Preview
set_option autoImplicit false

open Text (startsWith drop trim allBlank)

/-- What a quoted line begins with. -/
def quoteLead : String := "> "

/-- What the heading of a page begins with. -/
def pageLead : String := "## "

/-- What a heading begins with, and its tag. -/
def headings : List (String × String) :=
  [("# ", "h1"), (pageLead, "h2"), ("### ", "h3")]

/-- Some HTML between two tags of a name. -/
def element (tag body : String) : String :=
  "<" ++ tag ++ ">" ++ body ++ "</" ++ tag ++ ">"

/-- A paragraph of converted text. -/
def paragraph (line : String) : String :=
  element "p" (inline line) ++ "\n"

/-- A quote of some lines, without the blank ones. -/
def blockquote (lines : List String) : String :=
  element "blockquote" (String.join ((lines.filter (!allBlank ·)).map fun line => paragraph (trim line))) ++ "\n"

/-- A line that is not quoted: nothing but its end if it is blank, a heading, or a paragraph. -/
def plainLine (line : String) : String :=
  if allBlank line then "\n"
  else
    match headings.find? fun (lead, _) => startsWith lead line with
    | some (lead, tag) => element tag (Text.escapeHtml (drop lead.length line)) ++ "\n"
    | none => paragraph line

/-- Whether the line before was quoted. -/
inductive Mode
  | normal
  | inQuote
  deriving DecidableEq, Repr

/-- The state between two lines: the quoted lines that are held back, and the HTML so far. -/
structure Scan where
  mode : Mode
  held : List String
  html : String
  deriving DecidableEq, Repr

namespace Scan

/-- The state before the first line. -/
def start : Scan := ⟨.normal, [], ""⟩

/-- Writes the lines that are held back as one quote. -/
def flush (s : Scan) : Scan :=
  match s.mode with
  | .normal => s
  | .inQuote => ⟨.normal, [], s.html ++ blockquote s.held⟩

/-- Converts one line. -/
def feed (s : Scan) (line : String) : Scan :=
  if startsWith quoteLead line then { s with mode := .inQuote, held := s.held ++ [drop quoteLead.length line] }
  else
    let s := s.flush
    { s with html := s.html ++ plainLine line }

/-- The HTML of all lines. -/
def finish (s : Scan) : String :=
  s.flush.html

end Scan

/-- Markdown as HTML. -/
def convert (markdown : String) : String :=
  ((Text.lines markdown).foldl Scan.feed Scan.start).finish

end ComicScript.Preview
