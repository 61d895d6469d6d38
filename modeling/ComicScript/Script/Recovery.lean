import ComicScript.Text.Blank
import ComicScript.Text.Escape
import ComicScript.Text.Lines

/-!
# Recovery of free text

Scripts often hold plain text with a colon inside, such as `Wait: what?`, which the format does not admit. Recovery puts
quotes around such text on the lines that hold free text: those of a known key and those of a line of dialogue.
-/

namespace ComicScript.Script
set_option autoImplicit false

open Text (isBlank)
open Text.Chars (replaceChar)

/-- The keys whose values are free text. -/
def freeTextKeys : List String :=
  ["title", "synopsis", "name", "desc", "fx", "caption", "endCaption"]

/-- The characters that a value begins with when it is quoted already, a block of lines or no plain text. -/
def markedStarts : List Char :=
  ['\'', '"', '|', '>', '[', '{', '&', '*', '!']

/-- A character that no name of a speaker begins with. -/
def endsSpeaker (c : Char) : Bool :=
  isBlank c || c ∈ ":#'\"\x7b[&*!|>".toList

/-- The longest run of blanks at the start, and the rest. -/
def spanBlanks (s : List Char) : List Char × List Char :=
  s.span isBlank

/-- The text after another at the start. -/
def afterLead? (lead s : List Char) : Option (List Char) :=
  if lead.isPrefixOf s then some (s.drop lead.length) else none

/-- A line of a free-text key, cut before its value. -/
def splitFreeText? (line : List Char) : Option (List Char × List Char) :=
  let (margin, rest) := spanBlanks line
  let (mark, rest) :=
    match rest with
    | '-' :: more => ('-' :: (spanBlanks more).1, (spanBlanks more).2)
    | more => ([], more)
  freeTextKeys.findSome? fun key =>
    (afterLead? (key.toList ++ [':']) rest).bind fun after =>
      let (space, value) := spanBlanks after
      if value.isEmpty then none else some (margin ++ mark ++ key.toList ++ ':' :: space, value)

/-- A line of dialogue, cut before its text. -/
def splitDialogue? (line : List Char) : Option (List Char × List Char) :=
  let (margin, rest) := spanBlanks line
  match rest with
  | '-' :: rest =>
    let (gap, rest) := spanBlanks rest
    match rest with
    | first :: more =>
      let (speaker, rest) := more.span fun c => c != ':' && c != '#'
      match rest with
      | ':' :: after =>
        let (space, value) := spanBlanks after
        if gap.isEmpty || endsSpeaker first || space.isEmpty || value.isEmpty then none
        else some (margin ++ '-' :: gap ++ first :: speaker ++ ':' :: space, value)
      | _ => none
    | [] => none
  | _ => none

/-- A line that recovery may change, cut before its value. -/
def splitLine? (line : List Char) : Option (List Char × List Char) :=
  (splitFreeText? line).or (splitDialogue? line)

/-- The comment that a text consists of: blanks, a number sign and the rest of the line. -/
def comment? (s : List Char) : Option (List Char) :=
  let (space, rest) := spanBlanks s
  match rest with
  | '#' :: _ =>
    let words := Text.Chars.dropFinalLineFeed rest
    if space.isEmpty || '\n' ∈ words then none else some (space ++ words)
  | _ => none

/-- A value cut before its comment, if it has one; a line feed before the comment's blanks rules it out. -/
def splitComment? : List Char → Option (List Char × List Char)
  | [] => none
  | c :: rest =>
    match comment? (c :: rest) with
    | some comment => some ([], comment)
    | none => if c = '\n' then none else (splitComment? rest).map fun (body, comment) => (c :: body, comment)

/-- Whether a colon is followed by a blank or by nothing. -/
def hasOpenColon : List Char → Bool
  | [] => false
  | c :: rest => (c == ':' && (rest.head?.all isBlank)) || hasOpenColon rest

/-- A text between double quotes: backslashes are doubled first, then the quotes have one before them. -/
def doubleQuoted (s : List Char) : List Char :=
  '"' :: replaceChar '"' "\\\"" (replaceChar '\\' "\\\\" s) ++ ['"']

/-- A value after the start of its line: between quotes, but for its comment, if it has an open colon. -/
def quoteValue (lead value : List Char) : List Char :=
  let (body, comment) := (splitComment? value).getD (value, [])
  if hasOpenColon body then lead ++ doubleQuoted body ++ comment else lead ++ value

/-- A line after recovery. -/
def recoverLine (line : List Char) : List Char :=
  match splitLine? line with
  | none => line
  | some (lead, value) =>
    if value.head?.any (· ∈ markedStarts) then line else quoteValue lead value

/-- A line that recovery changed; lines are counted from one. -/
structure Change where
  line : Nat
  old : String
  new : String
  deriving DecidableEq, Repr

/-- A text after recovery, with the lines that are not as before. -/
structure Recovered where
  text : String
  changes : List Change
  deriving DecidableEq, Repr

/-- The changed lines among lines before and after recovery, from the `n`th on. -/
def changesFrom : Nat → List (List Char) → List Change
  | _, [] => []
  | n, line :: rest =>
    let new := recoverLine line
    if new = line then changesFrom (n + 1) rest
    else ⟨n, String.ofList line, String.ofList new⟩ :: changesFrom (n + 1) rest

/-- Recovers each line of a text. Lines are joined by line feeds; there is a last one if the text has one. -/
def recover (raw : String) : Recovered :=
  let lines := Text.Chars.physicalLines raw.toList
  let final := if raw.toList.getLast? = some '\n' then "\n" else ""
  ⟨Text.unlines (lines.map fun line => String.ofList (recoverLine line)) ++ final, changesFrom 1 lines⟩

end ComicScript.Script
