import ComicScript.Layout.Basic
import ComicScript.Text.Lines
import ComicScript.Decimal.Binary
import ComicScript.Decimal.Integer

/-!
# Colours of panels

Panels take the colours of a palette in turn, by their number; labels are black on light colours and white on dark ones.
-/

namespace ComicScript
set_option autoImplicit false

/-- A colour by its parts from 0 to 255. -/
structure Colour where
  red : Nat
  green : Nat
  blue : Nat
  deriving DecidableEq, Repr

namespace Colour

/-- A number sign and six hexadecimal digits. -/
def text (c : Colour) : String :=
  let part (n : Nat) : List Char := [(n / 16).digitChar, (n % 16).digitChar]
  String.ofList ('#' :: part c.red ++ part c.green ++ part c.blue)

/-- The colour of six digits. -/
def ofDigits? (ds : List Nat) : Option Colour :=
  match ds with
  | [a, b, c, d, e, f] => some ⟨a * 16 + b, c * 16 + d, e * 16 + f⟩
  | _ => none

/-- A hexadecimal digit of ASCII. -/
def digit? (c : Char) : Option Nat :=
  if c.toNat < 0x80 then Decimal.digitOf? 16 c else none

/-- Reads a colour; a line feed may follow it. -/
def read? (s : List Char) : Option Colour :=
  match s with
  | '#' :: ds =>
    let ds := Text.Chars.dropFinalLineFeed ds
    (ds.mapM digit?).bind ofDigits?
  | _ => none

/-- Reads a colour, or says that the text is none. -/
def read (s : String) : Except LayoutError Colour :=
  match read? s.toList with
  | some c => .ok c
  | none => .error (.notColour (Text.quoted s))

/-- How light a colour looks, from 0 to 1. -/
def luminance (c : Colour) : Float :=
  let part (n : Nat) : Float := Decimal.ofRatio n 1
  (0.299 * part c.red + 0.587 * part c.green + 0.114 * part c.blue) / 255.0

/-- The colour of a label on this colour. -/
def contrast (c : Colour) : Colour :=
  if 0.5 < c.luminance then ⟨0, 0, 0⟩ else ⟨255, 255, 255⟩

/-- The colours of panels. -/
def palette : List Colour :=
  [⟨0xff, 0x6b, 0x6b⟩, ⟨0x4e, 0xcd, 0xc4⟩, ⟨0x45, 0xb7, 0xd1⟩, ⟨0x96, 0xce, 0xb4⟩, ⟨0xff, 0xea, 0xa7⟩,
    ⟨0xdd, 0xa0, 0xdd⟩, ⟨0x98, 0xd8, 0xc8⟩, ⟨0xf7, 0xdc, 0x6f⟩, ⟨0xbb, 0x8f, 0xce⟩, ⟨0x85, 0xc1, 0xe9⟩,
    ⟨0xf8, 0xc4, 0x71⟩, ⟨0x82, 0xe0, 0xaa⟩, ⟨0xf1, 0x94, 0x8a⟩, ⟨0x85, 0xc1, 0xe9⟩, ⟨0xd7, 0xbd, 0xe2⟩]

/-- The colour of a panel by its number; number 1 has the first colour. -/
def ofNumber (number : Int) : Colour :=
  (palette[((number - 1) % palette.length).toNat]?).getD ⟨0, 0, 0⟩

end Colour

end ComicScript
