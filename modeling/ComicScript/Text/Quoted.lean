import ComicScript.Text.Printable

/-!
# Quoted text

A text between quotes, as messages and the text of a collection show it. Single quotes are used unless the text has
single quotes and no double ones; unprintable characters are written by number.
-/

namespace ComicScript.Text
set_option autoImplicit false

namespace Chars

/-- The hexadecimal numeral of a number, with zeros in front up to a width. -/
def hex (width n : Nat) : List Char :=
  let ds := Nat.toDigits 16 n
  List.replicate (width - ds.length) '0' ++ ds

/-- An unprintable character by number: two, four or eight places. -/
def numbered (n : Nat) : List Char :=
  if n < 0x100 then '\\' :: 'x' :: hex 2 n
  else if n < 0x10000 then '\\' :: 'u' :: hex 4 n
  else '\\' :: 'U' :: hex 8 n

/-- The quote that a text is put between. -/
def quoteFor (s : List Char) : Char :=
  if '\'' ∈ s ∧ '"' ∉ s then '"' else '\''

/-- A character that has an escape of its own inside quotes. -/
def namedEscape? (quote c : Char) : Option (List Char) :=
  if c = quote ∨ c = '\\' then some ['\\', c]
  else if c = '\t' then some ['\\', 't']
  else if c = '\n' then some ['\\', 'n']
  else if c = '\r' then some ['\\', 'r']
  else none

/-- A character inside quotes. -/
def quotedChar (quote c : Char) : List Char :=
  (namedEscape? quote c).getD (if isPrintable c then [c] else numbered c.toNat)

/-- A text between quotes. -/
def quoted (s : List Char) : List Char :=
  let quote := quoteFor s
  quote :: s.flatMap (quotedChar quote) ++ [quote]

/-- A byte inside quotes; bytes past ASCII are written by number. -/
def quotedByte (quote c : Char) : List Char :=
  (namedEscape? quote c).getD (if 0x20 ≤ c.toNat ∧ c.toNat < 0x7F then [c] else numbered c.toNat)

/-- Bytes between quotes, after the letter that marks them. -/
def quotedBytes (bytes : List UInt8) : List Char :=
  let s := bytes.map fun b => Char.ofNat b.toNat
  let quote := quoteFor s
  'b' :: quote :: s.flatMap (quotedByte quote) ++ [quote]

end Chars

/-- A text between quotes. -/
def quoted (s : String) : String :=
  String.ofList (Chars.quoted s.toList)

/-- Bytes between quotes, after the letter that marks them. -/
def quotedBytes (bytes : List UInt8) : String :=
  String.ofList (Chars.quotedBytes bytes)

end ComicScript.Text
