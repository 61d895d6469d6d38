/-!
# Places in a YAML text

A cursor holds the text that is left and where it starts. A character past the end reads as the null character, which
no text may hold.
-/

namespace ComicScript.Yaml
set_option autoImplicit false

/-- The rest of a text with its distance from the start, its line and its column. -/
structure Cursor where
  rest : List Char
  index : Nat
  line : Nat
  column : Nat

/-- What stands for a character past the end. -/
def endChar : Char := '\x00'

/-- A character that ends a line. -/
def isBreak (c : Char) : Bool :=
  c.toNat ∈ [0x0A, 0x0D, 0x85, 0x2028, 0x2029]

/-- A line end or the end of the text. -/
def isBreakOrEnd (c : Char) : Bool :=
  c == endChar || isBreak c

/-- A space, a line end or the end of the text. -/
def isSpaceOrEnd (c : Char) : Bool :=
  c == ' ' || isBreakOrEnd c

/-- A space, a tab, a line end or the end of the text. -/
def isGapOrEnd (c : Char) : Bool :=
  c == '\t' || isSpaceOrEnd c

/-- A space or a tab. -/
def isSpaceOrTab (c : Char) : Bool :=
  c == ' ' || c == '\t'

/-- A letter, digit, dash or underscore of ASCII. -/
def isNameChar (c : Char) : Bool :=
  c.isAlphanum || c == '-' || c == '_'

/-- A hexadecimal digit of ASCII. -/
def isHexDigit (c : Char) : Bool :=
  c.isDigit || ('a' ≤ c && c ≤ 'f') || ('A' ≤ c && c ≤ 'F')

namespace Cursor

/-- The start of a text. -/
def start (text : List Char) : Cursor :=
  ⟨text, 0, 0, 0⟩

/-- The `n`th character from here. -/
def peek (c : Cursor) (n : Nat) : Char :=
  (c.rest[n]?).getD endChar

/-- The next character. -/
def next (c : Cursor) : Char :=
  c.peek 0

/-- Moves past one character. A byte order mark takes no column. -/
def advance (c : Cursor) : Cursor :=
  match c.rest with
  | [] => c
  | ch :: rest =>
    if (isBreak ch && ch != '\r') || (ch == '\r' && rest.head? != some '\n') then
      ⟨rest, c.index + 1, c.line + 1, 0⟩
    else ⟨rest, c.index + 1, c.line, if ch == '\uFEFF' then c.column else c.column + 1⟩

/-- Moves past several characters. -/
def advanceBy (c : Cursor) : Nat → Cursor
  | 0 => c
  | n + 1 => c.advance.advanceBy n

/-- The longest run of characters of one kind, and the place after it. -/
def span (c : Cursor) (kind : Char → Bool) : List Char × Cursor :=
  let run := c.rest.takeWhile kind
  (run, c.advanceBy run.length)

/-- The place after a run of characters of one kind. -/
def skip (c : Cursor) (kind : Char → Bool) : Cursor :=
  (c.span kind).2

/-- Reads a line end: as a line feed, or as itself if it is a line or paragraph separator. -/
def lineBreak? (c : Cursor) : Option (Char × Cursor) :=
  let ch := c.next
  if ch == '\r' && c.peek 1 == '\n' then some ('\n', c.advanceBy 2)
  else if ch == '\r' || ch == '\n' || ch == '\u0085' then some ('\n', c.advance)
  else if ch == '\u2028' || ch == '\u2029' then some (ch, c.advance)
  else none

/-- Whether a line starts here that begins or ends a document. -/
def atDocumentMark (c : Cursor) : Bool :=
  let mark := c.rest.take 3
  (mark == ['-', '-', '-'] || mark == ['.', '.', '.']) && isGapOrEnd (c.peek 3)

/-- Skips a comment if one starts here. -/
def skipComment (c : Cursor) : Cursor :=
  if c.next == '#' then c.skip (!isBreak ·) else c

end Cursor

end ComicScript.Yaml
