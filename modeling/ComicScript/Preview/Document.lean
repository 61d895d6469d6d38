import ComicScript.Preview.Sections

/-!
# Preview documents

A preview as a document of its own, with its stylesheet.
-/

namespace ComicScript.Preview
set_option autoImplicit false

/-- The lines of the stylesheet. -/
def styleLines : List String := [
    "body \x7b",
    "    font-family: -apple-system, BlinkMacSystemFont, 'Segoe UI', Roboto, sans-serif;",
    "    line-height: 1.4;",
    "    margin: 0;",
    "    padding: 1rem;",
    "    color: #000;",
    "    background-color: #fff;",
    "    font-size: 12px;",
    "\x7d",
    "h1 \x7b color: #333; font-size: 18px; margin: 1rem 0; font-weight: 700; text-align: center; \x7d",
    "h2 \x7b",
    "    color: #555;",
    "    margin: 1.5rem 0 0.5rem 0;",
    "    font-size: 16px;",
    "    font-weight: 600;",
    "    border-bottom: 1px solid #e0e0e0;",
    "    padding-bottom: 0.2rem;",
    "\x7d",
    "h3 \x7b color: #666; margin: 1.5rem 0 0.5rem 0; font-size: 12px; font-weight: 500; \x7d",
    "p \x7b margin: 0.5rem 0; line-height: 1.5; \x7d",
    "blockquote \x7b",
    "    border-left: 3px solid #dfe2e5;",
    "    padding: 0.5rem 0.75rem;",
    "    margin: 0.75rem 0;",
    "    color: #6a737d;",
    "    background: #f6f8fa;",
    "\x7d",
    "blockquote p \x7b margin: 0.25rem 0; line-height: 1.4; \x7d",
    ".content \x7b max-width: 1100px; margin: 0 auto; \x7d",
    ".page \x7b",
    "    display: grid;",
    "    grid-template-columns: minmax(0, 3fr) minmax(0, 2fr);",
    "    gap: 1.5rem;",
    "    align-items: start;",
    "\x7d",
    ".page-layout svg \x7b width: 100%; height: auto; \x7d",
    "@media print \x7b",
    "    .page \x7b break-inside: avoid; page-break-after: always; \x7d",
    "\x7d"]

/-- The stylesheet, on lines of its own. -/
def stylesheet : String :=
  "\n" ++ String.join (styleLines.map (· ++ "\n"))

/-- What stands in for a blank body. -/
def emptyBody (title : String) : String :=
  element "h1" (Text.escapeHtml title) ++ "\n" ++ element "p" "No content available." ++ "\n"

/-- A body as a document; the title of a printable one says so. -/
def document (title : String) (printable : Bool) (body : String) : String :=
  let body := if Text.allBlank body then emptyBody title else body
  let fullTitle := if printable then title ++ " - Print" else title
  "<!DOCTYPE html>\n<html lang=\"en\">\n<head>\n<meta charset=\"UTF-8\">\n" ++
    "<meta name=\"viewport\" content=\"width=device-width, initial-scale=1.0\">\n" ++
    element "title" (Text.escapeHtml fullTitle) ++ "\n" ++ element "style" stylesheet ++ "\n</head>\n<body>\n" ++
    "<div class=\"content\">\n" ++ body ++ "</div>\n</body>\n</html>\n"

/-- The title of a chapter's document. -/
def titleOf (cfg : Config) (c : Chapter) : Except Crash String := do
  return (← c.title.label?).getD cfg.documentTitle

/-- The body of a chapter's document. -/
def bodyOf (cfg : Config) (slot : Slot Chapter) : Except Crash String :=
  let doc := Markdown.document slot
  assemble cfg doc.text (some slot) (some (startValues doc.pageStarts))

/-- A chapter as a document. -/
def ofChapter (cfg : Config) (printable : Bool) (c : Chapter) : Except Crash String := do
  let body ← bodyOf cfg (.filled c)
  return document (← titleOf cfg c) printable body

end ComicScript.Preview
