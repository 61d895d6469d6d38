import ComicScript.Yaml.Token.Word
import ComicScript.Yaml.Token.Scalar

/-!
# The tokens of a YAML text

Indentation opens and closes blocks, so the tokens depend on where each line starts. A word turns out to be a key only
at the colon after it, on the same line and at most 1024 characters later: until then its place is kept, and the key
token is put there once the colon is met.
-/

namespace ComicScript.Yaml
set_option autoImplicit false

/-- A place where a key may have begun; a `required` one is the first word of a block's line. -/
structure OpenKey where
  place : Nat
  required : Bool
  index : Nat
  line : Nat
  column : Nat

/-- The most characters of a key before its colon. -/
def maxKeyLength : Nat := 1024

/-- What has been read of a text. `depth` counts open brackets and braces, `indent` is the column of the innermost block
(-1 outside of all) and `outer` those around it; `keys` holds the open key of each depth. -/
structure Reading where
  cursor : Cursor
  tokens : Array Token
  depth : Nat
  indent : Int
  outer : List Int
  keyAllowed : Bool
  keys : List (Nat × OpenKey)

/-- A step of reading. -/
abbrev Read (α : Type) := StateT Reading (Except Fault) α

namespace Read

/-- Adds a token. -/
def emit (t : Token) : Read Unit :=
  modify fun r => { r with tokens := r.tokens.push t }

/-- Moves past `n` characters and adds a token. -/
def emitAfter (n : Nat) (t : Token) : Read Unit :=
  modify fun r => { r with cursor := r.cursor.advanceBy n, tokens := r.tokens.push t }

/-- Says whether a key may begin next. -/
def allowKey (allowed : Bool) : Read Unit :=
  modify fun r => { r with keyAllowed := allowed }

/-- Adds what a reader of the text at the cursor gives. -/
def emitRead {α : Type} (read : Cursor → Except Fault (α × Cursor)) (token : α → Token) : Read Unit := do
  let (x, c) ← read (← get).cursor
  modify fun r => { r with cursor := c, tokens := r.tokens.push (token x) }

/-- Gives up open keys whose colon can no longer come; a required one is a fault. -/
def dropStaleKeys : Read Unit := do
  let r ← get
  let stale (key : OpenKey) : Bool :=
    key.line != r.cursor.line || r.cursor.index - key.index > maxKeyLength
  if r.keys.any fun (_, key) => stale key && key.required then throw .unfinishedKey
  set { r with keys := r.keys.filter fun (_, key) => !stale key }

/-- Gives up the open key of this depth; a required one is a fault. -/
def dropKey : Read Unit := do
  let r ← get
  if r.keys.any fun (depth, key) => depth == r.depth && key.required then throw .unfinishedKey
  set { r with keys := r.keys.filter fun (depth, _) => depth != r.depth }

/-- Keeps this place as one where a key may have begun. -/
def openKey : Read Unit := do
  if (← get).keyAllowed then
    dropKey
    modify fun r =>
      let c := r.cursor
      let required := r.depth == 0 && r.indent == c.column
      { r with keys := (r.depth, ⟨r.tokens.size, required, c.index, c.line, c.column⟩) :: r.keys }

/-- Closes the blocks that are right of a column. -/
def closeBlocks (column : Int) : Read Unit :=
  modify fun r =>
    if r.depth != 0 then r
    else
      let closed := (r.indent :: r.outer).takeWhile (column < ·)
      match (r.indent :: r.outer).drop closed.length with
      | indent :: outer =>
        { r with tokens := r.tokens ++ Array.replicate closed.length Token.blockEnd, indent, outer }
      | [] => r

/-- Opens a block at a column right of the innermost one, with its token at the given place. -/
def openBlock (column : Int) (place : Nat) (t : Token) : Read Unit :=
  modify fun r =>
    if r.indent < column then
      { r with tokens := r.tokens.insertIdxIfInBounds place t, indent := column, outer := r.indent :: r.outer }
    else r

/-- Outside brackets and braces, opens a block for an entry here, where an entry must be allowed. -/
def openBlockHere (t : Token) : Read Unit := do
  let r ← get
  if r.depth == 0 then
    if !r.keyAllowed then throw .misplacedIndicator
    openBlock r.cursor.column r.tokens.size t

/-- Skips spaces, comments and line ends; a new line may begin with a key. -/
def skipToToken : Nat → Read Unit
  | 0 => return
  | fuel + 1 => do
    let c := ((← get).cursor.skip (· == ' ')).skipComment
    match c.lineBreak? with
    | none => modify fun r => { r with cursor := c }
    | some (_, c) =>
      modify fun r => { r with cursor := c, keyAllowed := r.keyAllowed || r.depth == 0 }
      skipToToken fuel

/-- A directive, or a line that starts or ends a document, closes all blocks. -/
def leaveDocument : Read Unit := do
  closeBlocks (-1)
  dropKey
  allowKey false

/-- An opening bracket or brace, which may be a key as a whole. -/
def openFlow (t : Token) : Read Unit := do
  openKey
  modify fun r => { r with depth := r.depth + 1, keyAllowed := true }
  emitAfter 1 t

/-- A closing bracket or brace. -/
def closeFlow (t : Token) : Read Unit := do
  dropKey
  if (← get).depth == 0 then throw .badStructure
  modify fun r => { r with depth := r.depth - 1, keyAllowed := false }
  emitAfter 1 t

/-- A comma. -/
def comma : Read Unit := do
  allowKey true
  dropKey
  emitAfter 1 .comma

/-- The dash of an entry. -/
def dash : Read Unit := do
  openBlockHere .blockSequence
  allowKey true
  dropKey
  emitAfter 1 .dash

/-- The question mark of a key. -/
def explicitKey : Read Unit := do
  openBlockHere .blockMapping
  allowKey ((← get).depth == 0)
  dropKey
  emitAfter 1 .key

/-- The colon of a value; an open key of this depth becomes a key. -/
def value : Read Unit := do
  let r ← get
  match r.keys.find? (·.1 == r.depth) with
  | some (_, key) =>
    set { r with
      keys := r.keys.filter (·.1 != r.depth)
      tokens := r.tokens.insertIdxIfInBounds key.place .key
      keyAllowed := false }
    if r.depth == 0 then openBlock key.column key.place .blockMapping
  | none =>
    openBlockHere .blockMapping
    allowKey (r.depth == 0)
    dropKey
  emitAfter 1 .value

/-- A name or quoted scalar, which may be a key. -/
def word {α : Type} (read : Cursor → Except Fault (α × Cursor)) (token : α → Token) : Read Unit := do
  openKey
  allowKey false
  emitRead read token

/-- A block scalar. -/
def block (folded : Bool) : Read Unit := do
  allowKey true
  dropKey
  let indent := (← get).indent
  emitRead (readBlock folded indent) fun text => .scalar (String.ofList text) false

/-- A plain scalar, which may be a key; a line end after it lets a key begin. -/
def plain : Read Unit := do
  openKey
  let r ← get
  let (text, last, passed) := readPlain (r.depth != 0) r.indent r.cursor
  set { r with
    cursor := last
    keyAllowed := passed
    tokens := r.tokens.push (.scalar (String.ofList text) true) }

/-- Whether a plain scalar may start here. -/
def startsPlain (inFlow : Bool) (c : Cursor) : Bool :=
  let ch := c.next
  !(isGapOrEnd ch || ch ∈ "-?:,[]\x7b\x7d#&*!|>'\"%@\x60".toList) ||
    (!isGapOrEnd (c.peek 1) && (ch == '-' || (!inFlow && (ch == '?' || ch == ':'))))

/-- Reads the next token; true at the end of the text. -/
def token : Read Bool := do
  skipToToken ((← get).cursor.rest.length + 1)
  dropStaleKeys
  closeBlocks (← get).cursor.column
  let r ← get
  let c := r.cursor
  let ch := c.next
  let inFlow := r.depth != 0
  let spaced := isGapOrEnd (c.peek 1)
  if ch == endChar then
    leaveDocument
    return true
  if ch == '%' && c.column == 0 then
    leaveDocument
    emitRead readDirective .directive
  else if c.column == 0 && c.atDocumentMark then
    leaveDocument
    emitAfter 3 (if ch == '-' then .documentStart else .documentEnd)
  else if ch == '[' then openFlow .openBracket
  else if ch == '{' then openFlow .openBrace
  else if ch == ']' then closeFlow .closeBracket
  else if ch == '}' then closeFlow .closeBrace
  else if ch == ',' then comma
  else if ch == '-' && spaced then dash
  else if ch == '?' && (inFlow || spaced) then explicitKey
  else if ch == ':' && (inFlow || spaced) then value
  else if ch == '*' then word readAnchor .alias
  else if ch == '&' then word readAnchor .anchor
  else if ch == '!' then word readTag .tag
  else if ch == '|' && !inFlow then block false
  else if ch == '>' && !inFlow then block true
  else if ch == '\'' || ch == '"' then word readQuoted fun text => .scalar (String.ofList text) false
  else if startsPlain inFlow c then plain
  else throw .strayCharacter
  return false

/-- Reads tokens up to the end of the text. -/
def all : Nat → Read Unit
  | 0 => throw .strayCharacter
  | fuel + 1 => do
    if !(← token) then all fuel

end Read

/-- A character that a text may hold. -/
def isAdmitted (c : Char) : Bool :=
  let n := c.toNat
  n == 0x09 || n == 0x0A || n == 0x0D || (0x20 ≤ n && n ≤ 0x7E) || n == 0x85 || (0xA0 ≤ n && n ≤ 0xD7FF) ||
    (0xE000 ≤ n && n ≤ 0xFFFD) || 0x10000 ≤ n

/-- The tokens of a text; a byte order mark at its start is skipped. -/
def tokensOf (text : List Char) : Except Fault (List Token) := do
  require .unprintable (text.all isAdmitted)
  let start := Cursor.start text
  let cursor := if start.next == '\uFEFF' then start.advance else start
  let (_, r) ← (Read.all (text.length + 2)).run ⟨cursor, #[], 0, -1, [], true, []⟩
  return r.tokens.toList

end ComicScript.Yaml
