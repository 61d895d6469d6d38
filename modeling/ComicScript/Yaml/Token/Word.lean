import ComicScript.Yaml.Cursor
import ComicScript.Yaml.Fault
import ComicScript.Yaml.Token.Basic
import ComicScript.Decimal.Integer

/-!
# Names in a YAML text

Anchors and aliases, tags and directives.
-/

namespace ComicScript.Yaml
set_option autoImplicit false

/-- Goes on only if a condition holds. -/
def require (fault : Fault) (condition : Bool) : Except Fault Unit :=
  if condition then .ok () else .error fault

/-- The name after the indicator of an anchor or alias. -/
def readAnchor (c : Cursor) : Except Fault (String × Cursor) := do
  let (name, c) := c.advance.span isNameChar
  require .badName (!name.isEmpty && (isGapOrEnd c.next || c.next ∈ "?:,]\x7d%@\x60".toList))
  return (String.ofList name, c)

/-- The bytes of a row of percent escapes. -/
def escapedBytes : Nat → Cursor → Except Fault (List UInt8 × Cursor)
  | 0, c => .ok ([], c)
  | fuel + 1, c => do
    if c.next != '%' then return ([], c)
    let high := c.peek 1
    let low := c.peek 2
    require .badName (isHexDigit high && isHexDigit low)
    let byte := Decimal.ofDigits 16 ([high, low].filterMap Text.digitOrLetter?)
    let (bytes, c) ← escapedBytes fuel (c.advanceBy 3)
    return (UInt8.ofNat byte :: bytes, c)

/-- A character that may stand in a tag as it is. -/
def isTagChar (c : Char) : Bool :=
  c.isAlphanum || c ∈ "-;/?:@&=+$,_.!~*'()[]".toList

/-- The characters of a tag, with percent escapes read as text. -/
def tagChars : Nat → Cursor → Except Fault (List Char × Cursor)
  | 0, c => .ok ([], c)
  | fuel + 1, c => do
    if isTagChar c.next then
      let (rest, last) ← tagChars fuel c.advance
      return (c.next :: rest, last)
    else if c.next == '%' then
      let (bytes, c) ← escapedBytes fuel c
      let some text := String.fromUTF8? ⟨bytes.toArray⟩ | throw .badName
      let (rest, last) ← tagChars fuel c
      return (text.toList ++ rest, last)
    else return ([], c)

/-- A tag, or the end of one; it is not empty. -/
def readTagChars (c : Cursor) : Except Fault (String × Cursor) := do
  let (text, last) ← tagChars (c.rest.length + 1) c
  require .badName (last.index != c.index)
  return (String.ofList text, last)

/-- The handle of a tag: a name between two exclamation marks, or one mark before a space. -/
def readHandle (c : Cursor) : Except Fault (String × Cursor) := do
  require .badName (c.next == '!')
  if c.peek 1 == ' ' then return ("!", c.advance)
  let (name, last) := c.advance.span isNameChar
  require .badName (last.next == '!')
  return (String.ofList ('!' :: name ++ ['!']), last.advance)

/-- Whether a second exclamation mark follows in the same word. -/
def hasHandle (c : Cursor) : Bool :=
  '!' ∈ c.advance.rest.takeWhile (!isSpaceOrEnd ·)

/-- The tag that starts here. -/
def readTag (c : Cursor) : Except Fault (TagName × Cursor) := do
  let (tag, last) ←
    if c.peek 1 == '<' then do
      let (uri, last) ← readTagChars (c.advanceBy 2)
      require .badName (last.next == '>')
      pure (TagName.complete uri, last.advance)
    else if isGapOrEnd (c.peek 1) then pure (TagName.complete "!", c.advance)
    else do
      let (handle, c) ← if hasHandle c then readHandle c else pure ("!", c.advance)
      let (rest, last) ← readTagChars c
      pure (TagName.short handle rest, last)
  require .badName (isSpaceOrEnd last.next)
  return (tag, last)

/-- A row of digits of ASCII as a number. -/
def readNumber (c : Cursor) : Except Fault (Nat × Cursor) := do
  let (digits, last) := c.span Char.isDigit
  let some n := Decimal.readInt? 10 digits | throw .badDirective
  return (n.toNat, last)

/-- What a directive of a known name says. -/
def readDirectiveBody (name : List Char) (c : Cursor) : Except Fault (Directive × Cursor) := do
  if name == "YAML".toList then
    let (major, c) ← readNumber (c.skip (· == ' '))
    require .badDirective (c.next == '.')
    let (_, c) ← readNumber c.advance
    require .badDirective (isSpaceOrEnd c.next)
    return (.version major, c)
  else if name == "TAG".toList then
    let (handle, c) ← readHandle (c.skip (· == ' '))
    require .badDirective (c.next == ' ')
    let (lead, c) ← readTagChars (c.skip (· == ' '))
    require .badDirective (isSpaceOrEnd c.next)
    return (.tagHandle handle lead, c)
  else return (.other, c.skip (!isBreak ·))

/-- The directive that starts here, with the end of its line. -/
def readDirective (c : Cursor) : Except Fault (Directive × Cursor) := do
  let (name, c) := c.advance.span isNameChar
  require .badDirective (!name.isEmpty && isSpaceOrEnd c.next)
  let (directive, c) ← readDirectiveBody name c
  let c := (c.skip (· == ' ')).skipComment
  require .badDirective (isBreakOrEnd c.next)
  return (directive, (c.lineBreak?.map (·.2)).getD c)

end ComicScript.Yaml
