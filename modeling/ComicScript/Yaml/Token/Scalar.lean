import ComicScript.Yaml.Cursor
import ComicScript.Yaml.Fault
import ComicScript.Decimal.Integer

/-!
# Scalars of a YAML text

The texts of plain, quoted and block scalars. A scalar may go over several lines: one line end inside it is read as a
space, and of several in a row the first is dropped. Each loop is bounded by the length of the text that is left.
-/

namespace ComicScript.Yaml
set_option autoImplicit false

/-- What a run of line ends inside a scalar stands for, given the first and the others. -/
def foldBreaks (first : Char) (others : List Char) : List Char :=
  if first != '\n' then first :: others
  else if others.isEmpty then [' ']
  else others

/-! ### Plain scalars -/

/-- What lies between two words of a plain scalar; an empty text ends the scalar. -/
structure Gap where
  text : List Char
  after : Cursor
  hasBreak : Bool

/-- The line ends and spaces at the start of lines; none if a line begins or ends a document. -/
def gapBreaks : Nat → Cursor → Option (List Char) × Cursor
  | 0, c => (some [], c)
  | fuel + 1, c =>
    if c.next == ' ' then gapBreaks fuel c.advance
    else
      match c.lineBreak? with
      | none => (some [], c)
      | some (b, c) =>
        if c.atDocumentMark then (none, c)
        else
          let (others, last) := gapBreaks fuel c
          (others.map (b :: ·), last)

/-- The gap after a word of a plain scalar. -/
def plainGap (c : Cursor) : Gap :=
  let (spaces, c) := c.span (· == ' ')
  match c.lineBreak? with
  | none => ⟨spaces, c, false⟩
  | some (first, c) =>
    if c.atDocumentMark then ⟨[], c, true⟩
    else
      match gapBreaks (c.rest.length + 1) c with
      | (some others, last) => ⟨foldBreaks first others, last, true⟩
      | (none, last) => ⟨[], last, true⟩

/-- Whether a plain scalar ends before this text; inside brackets and braces more characters end it. -/
def endsPlain (inFlow : Bool) : List Char → Bool
  | [] => true
  | c :: rest =>
    let after := rest.headD endChar
    isGapOrEnd c || (c == ':' && (isGapOrEnd after || (inFlow && after ∈ ",[]\x7b\x7d".toList))) ||
      (inFlow && c ∈ ",?[]\x7b\x7d".toList)

/-- The next word of a plain scalar. -/
def plainWord (inFlow : Bool) : List Char → List Char
  | [] => []
  | c :: rest => if endsPlain inFlow (c :: rest) then [] else c :: plainWord inFlow rest

/-- The text of a plain scalar, the place after it and whether a line end has just been passed. Outside brackets and
braces its lines stay right of `indent`. -/
def plainText (inFlow : Bool) (indent : Int) : Nat → Cursor → Bool → List Char × Cursor × Bool
  | 0, c, passed => ([], c, passed)
  | fuel + 1, c, passed =>
    let word := plainWord inFlow c.rest
    if c.next == '#' || word.isEmpty then ([], c, passed)
    else
      let gap := plainGap (c.advanceBy word.length)
      if gap.text.isEmpty || gap.after.next == '#' || (!inFlow && (gap.after.column : Int) ≤ indent) then
        (word, gap.after, gap.hasBreak)
      else
        let (more, last, passed) := plainText inFlow indent fuel gap.after gap.hasBreak
        (word ++ (if more.isEmpty then [] else gap.text ++ more), last, passed)

/-- The plain scalar that starts here. -/
def readPlain (inFlow : Bool) (indent : Int) (c : Cursor) : List Char × Cursor × Bool :=
  plainText inFlow indent (c.rest.length + 1) c false

/-! ### Quoted scalars -/

/-- The line ends at the start of lines of a quoted scalar, which no line may cut that begins or ends a document. -/
def quotedBreaks : Nat → Cursor → Except Fault (List Char × Cursor)
  | 0, c => .ok ([], c)
  | fuel + 1, c =>
    if c.atDocumentMark then .error .badText
    else
      let c := c.skip isSpaceOrTab
      match c.lineBreak? with
      | none => .ok ([], c)
      | some (b, c) => do
        let (others, last) ← quotedBreaks fuel c
        return (b :: others, last)

/-- The character that a letter after a backslash stands for. -/
def simpleEscape? (c : Char) : Option Char :=
  match c with
  | '0' => some '\x00'
  | 'a' => some '\x07'
  | 'b' => some '\x08'
  | 't' => some '\t'
  | '\t' => some '\t'
  | 'n' => some '\n'
  | 'v' => some '\x0B'
  | 'f' => some '\x0C'
  | 'r' => some '\r'
  | 'e' => some '\x1B'
  | ' ' => some ' '
  | '"' => some '"'
  | '\\' => some '\\'
  | '/' => some '/'
  | 'N' => some '\u0085'
  | '_' => some '\u00A0'
  | 'L' => some '\u2028'
  | 'P' => some '\u2029'
  | _ => none

/-- The number of hexadecimal digits after an escape by number. -/
def numberWidth? (c : Char) : Option Nat :=
  match c with
  | 'x' => some 2
  | 'u' => some 4
  | 'U' => some 8
  | _ => none

/-- The character with a number. -/
def charOf? (n : Nat) : Option Char :=
  if n.isValidChar then some (Char.ofNat n) else none

/-- What an escape stands for; the backslash has been read. -/
def readEscape (c : Cursor) : Except Fault (List Char × Cursor) :=
  match simpleEscape? c.next, numberWidth? c.next, c.lineBreak? with
  | some ch, _, _ => .ok ([ch], c.advance)
  | none, some width, _ =>
    let digits := c.advance.rest.take width
    if digits.length = width ∧ digits.all isHexDigit then
      match charOf? (Decimal.ofDigits 16 (digits.filterMap Text.digitOrLetter?)) with
      | some ch => .ok ([ch], c.advanceBy (width + 1))
      | none => .error .badText
    else .error .badText
  | none, none, some (_, c) => quotedBreaks (c.rest.length + 1) c
  | none, none, none => .error .badText

/-- What a run of spaces, with the line ends in it, stands for. -/
def quotedGap (c : Cursor) : Except Fault (List Char × Cursor) := do
  let (spaces, c) := c.span isSpaceOrTab
  match c.lineBreak? with
  | none => return (spaces, c)
  | some (first, c) =>
    let (others, last) ← quotedBreaks (c.rest.length + 1) c
    return (foldBreaks first others, last)

/-- The text up to the closing quote. -/
def quotedText (quote : Char) : Nat → Cursor → Except Fault (List Char × Cursor)
  | 0, _ => .error .badText
  | fuel + 1, c => do
    let ch := c.next
    if ch == endChar then throw .badText
    let doubled := quote == '\'' && c.peek 1 == '\''
    if ch == quote && !doubled then return ([], c.advance)
    let (piece, c) ←
      if ch == quote then pure ([quote], c.advanceBy 2)
      else if ch == '\\' && quote == '"' then readEscape c.advance
      else if isGapOrEnd ch then quotedGap c
      else pure ([ch], c.advance)
    let (more, last) ← quotedText quote fuel c
    return (piece ++ more, last)

/-- The quoted scalar that starts here. -/
def readQuoted (c : Cursor) : Except Fault (List Char × Cursor) :=
  quotedText c.next (c.rest.length + 1) c.advance

/-! ### Block scalars -/

/-- What is kept of the line ends after a block scalar: none, one or all. -/
inductive Chomp
  | strip
  | clip
  | keep
  deriving DecidableEq, Repr

/-- How much of the final line ends a sign asks for. -/
def chomp? (c : Char) : Option Chomp :=
  if c == '+' then some .keep else if c == '-' then some .strip else none

/-- An indentation given by a digit; zero is none. -/
def readIndentation (c : Cursor) : Except Fault (Option Nat × Cursor) :=
  if c.next == '0' then .error .badText
  else if c.next.isDigit then .ok (some (c.next.toNat - '0'.toNat), c.advance)
  else .ok (none, c)

/-- The header after a block scalar's indicator: a sign and a digit in either order, then nothing but a comment. -/
def readBlockHeader (c : Cursor) : Except Fault (Chomp × Option Nat × Cursor) := do
  let (chomp, indentation, c) ←
    match chomp? c.next with
    | some chomp => do
      let (indentation, c) ← readIndentation c.advance
      pure (chomp, indentation, c)
    | none => do
      let (indentation, c) ← readIndentation c
      match indentation, chomp? c.next with
      | some _, some chomp => pure (chomp, indentation, c.advance)
      | _, _ => pure (Chomp.clip, indentation, c)
  if !isSpaceOrEnd c.next then throw .badText
  let c := (c.skip (· == ' ')).skipComment
  if !isBreakOrEnd c.next then throw .badText
  return (chomp, indentation, (c.lineBreak?.map (·.2)).getD c)

/-- The line ends before the first line of a block scalar, and the deepest column of the spaces among them. -/
def leadingBreaks : Nat → Cursor → Nat → List Char × Nat × Cursor
  | 0, c, deepest => ([], deepest, c)
  | fuel + 1, c, deepest =>
    if c.next == ' ' then
      let c := c.advance
      leadingBreaks fuel c (max deepest c.column)
    else
      match c.lineBreak? with
      | none => ([], deepest, c)
      | some (b, c) =>
        let (others, deepest, last) := leadingBreaks fuel c deepest
        (b :: others, deepest, last)

/-- Skips spaces up to a column. -/
def skipIndentation (indent : Nat) : Nat → Cursor → Cursor
  | 0, c => c
  | fuel + 1, c => if c.column < indent && c.next == ' ' then skipIndentation indent fuel c.advance else c

/-- The line ends before the next line of a block scalar. -/
def blockBreaks (indent : Nat) : Nat → Cursor → List Char × Cursor
  | 0, c => ([], c)
  | fuel + 1, c =>
    let c := skipIndentation indent indent c
    match c.lineBreak? with
    | none => ([], c)
    | some (b, c) =>
      let (others, last) := blockBreaks indent fuel c
      (b :: others, last)

/-- What follows the last line of a block scalar: its own line end and the empty lines after it. -/
structure BlockEnd where
  lineEnd : List Char
  breaks : List Char
  after : Cursor

/-- The lines of a block scalar, from the line ends before the first; in a folded one, two lines of text that begin with
no space are joined by a space. -/
def blockLines (folded : Bool) (indent : Nat) : Nat → Cursor → List Char → List Char × BlockEnd
  | 0, c, breaks => ([], ⟨[], breaks, c⟩)
  | fuel + 1, c, breaks =>
    let goesOn (c : Cursor) : Bool := c.column == indent && c.next != endChar
    if !goesOn c then ([], ⟨[], breaks, c⟩)
    else
      let atText := !isSpaceOrTab c.next
      let (line, c) := c.span (!isBreak ·)
      let (lineEnd, c) :=
        match c.lineBreak? with
        | some (b, c) => ([b], c)
        | none => ([], c)
      let (between, c) := blockBreaks indent (c.rest.length + 1) c
      if !goesOn c then (breaks ++ line, ⟨lineEnd, between, c⟩)
      else
        let joint :=
          if folded && lineEnd == ['\n'] && atText && !isSpaceOrTab c.next then
            (if between.isEmpty then [' '] else [])
          else lineEnd
        let (more, last) := blockLines folded indent fuel c between
        (breaks ++ line ++ joint ++ more, last)

/-- The block scalar that starts here, under a block of the given indentation. -/
def readBlock (folded : Bool) (outer : Int) (c : Cursor) : Except Fault (List Char × Cursor) := do
  let (chomp, indentation, c) ← readBlockHeader c.advance
  let least := (max 1 (outer + 1)).toNat
  let fuel := c.rest.length + 1
  let (breaks, indent, c) :=
    match indentation with
    | some n =>
      let (breaks, c) := blockBreaks (least + n - 1) fuel c
      (breaks, least + n - 1, c)
    | none =>
      let (breaks, deepest, c) := leadingBreaks fuel c 0
      (breaks, max least deepest, c)
  let (text, last) := blockLines folded indent fuel c breaks
  let final :=
    match chomp with
    | .strip => []
    | .clip => last.lineEnd
    | .keep => last.lineEnd ++ last.breaks
  return (text ++ final, last.after)

end ComicScript.Yaml
