import ComicScript.Text.Blank

/-!
# Escaped text

Text as it stands between tags and inside attribute values: the characters that markup gives a meaning are written
as entities.
-/

namespace ComicScript.Text
set_option autoImplicit false

namespace Chars

/-- Writes a text in place of a character, wherever the character stands. -/
def replaceChar (c : Char) (text : String) (s : List Char) : List Char :=
  s.flatMap fun d => if d = c then text.toList else [d]

/-- HTML text; quotes stay as they are. The ampersand comes first, so that no entity is escaped again. -/
def escapeHtml (s : List Char) : List Char :=
  replaceChar '>' "&gt;" (replaceChar '<' "&lt;" (replaceChar '&' "&amp;" s))

/-- SVG text: blanks are collapsed, then the five special characters are written as entities. -/
def escapeSvg (s : List Char) : List Char :=
  replaceChar '\'' "&apos;" (replaceChar '"' "&quot;" (replaceChar '>' "&gt;" (replaceChar '<' "&lt;" (replaceChar '&' "&amp;" (collapse s)))))

end Chars

/-- HTML text; quotes stay as they are. -/
def escapeHtml (s : String) : String :=
  String.ofList (Chars.escapeHtml s.toList)

/-- SVG text: blanks are collapsed, then the five special characters are written as entities. -/
def escapeSvg (s : String) : String :=
  String.ofList (Chars.escapeSvg s.toList)

end ComicScript.Text
