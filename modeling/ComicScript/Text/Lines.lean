/-!
# Lines

Two ways to cut a text into lines. `lines` cuts at line feeds alone and is undone by `unlines`; `physicalLines` cuts
at every line end that Unicode knows and has no line after a final one.
-/

namespace ComicScript.Text
set_option autoImplicit false

namespace Chars

/-- The pieces between the separators; there is always one more piece than separators. -/
def splitOn (separator : Char) : List Char → List (List Char)
  | [] => [[]]
  | c :: rest =>
    if c = separator then [] :: splitOn separator rest
    else
      match splitOn separator rest with
      | [] => [[c]]
      | piece :: pieces => (c :: piece) :: pieces

/-- A character that ends a line; a carriage return and the line feed after it end one line together. -/
def isLineEnd (c : Char) : Bool :=
  c.toNat ∈ [0x0A, 0x0B, 0x0C, 0x0D, 0x1C, 0x1D, 0x1E, 0x85, 0x2028, 0x2029]

/-- The lines of a text at any kind of line end, without those ends. -/
def physicalLines : List Char → List (List Char)
  | [] => []
  | '\r' :: '\n' :: rest => [] :: physicalLines rest
  | c :: rest =>
    if isLineEnd c then [] :: physicalLines rest
    else
      match physicalLines rest with
      | [] => [[c]]
      | line :: lines => (c :: line) :: lines

/-- Writes every carriage return, with the line feed after it if there is one, as a line feed. -/
def unifyLineEnds : List Char → List Char
  | [] => []
  | '\r' :: '\n' :: rest => '\n' :: unifyLineEnds rest
  | '\r' :: rest => '\n' :: unifyLineEnds rest
  | c :: rest => c :: unifyLineEnds rest

/-- Drops one line feed at the end. -/
def dropFinalLineFeed (s : List Char) : List Char :=
  if s.getLast? = some '\n' then s.dropLast else s

end Chars

/-- The pieces between the separators. -/
def splitOn (separator : Char) (s : String) : List String :=
  (Chars.splitOn separator s.toList).map String.ofList

/-- The lines between line feeds; the empty text has one empty line. -/
def lines (s : String) : List String :=
  splitOn '\n' s

/-- Joins lines with line feeds. -/
def unlines (pieces : List String) : String :=
  "\n".intercalate pieces

/-- The lines of a text at any kind of line end. -/
def physicalLines (s : String) : List String :=
  (Chars.physicalLines s.toList).map String.ofList

/-- Writes every carriage return, with the line feed after it if there is one, as a line feed. -/
def unifyLineEnds (s : String) : String :=
  String.ofList (Chars.unifyLineEnds s.toList)

/-- The number of line feeds. -/
def countLineFeeds (s : String) : Nat :=
  s.toList.count '\n'

/-- Whether a text begins with another. -/
def startsWith (lead s : String) : Bool :=
  lead.toList.isPrefixOf s.toList

/-- The text after its first `n` characters. -/
def drop (n : Nat) (s : String) : String :=
  String.ofList (s.toList.drop n)

end ComicScript.Text
