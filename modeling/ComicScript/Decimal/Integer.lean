import ComicScript.Crash
import ComicScript.Text.Blank
import ComicScript.Text.Digit

/-!
# Integer numerals

Reading an integer: blanks around it, a sign, decimal digits of any script and single underscores between digits are
allowed. A decimal numeral has at most 4300 digits; a binary, octal or hexadecimal one may repeat its base (`0b`, `0o`,
`0x`) and has no limit. An integer that would have a longer decimal numeral can be read and computed with, but not written.
-/

namespace ComicScript.Decimal
set_option autoImplicit false

/-- The most digits that a decimal numeral may have. -/
def maxDigits : Nat := 4300

/-- A blank that may stand around a numeral; the four ASCII information separators may not. -/
def isMargin (c : Char) : Bool :=
  Text.isBlank c && !(0x1C ≤ c.toNat && c.toNat ≤ 0x1F)

/-- Drops the blanks that may stand around a numeral. -/
def trimMargins (s : List Char) : List Char :=
  ((s.dropWhile isMargin).reverse.dropWhile isMargin).reverse

/-- Splits off a sign; true stands for minus. -/
def splitSign : List Char → Bool × List Char
  | '-' :: rest => (true, rest)
  | '+' :: rest => (false, rest)
  | s => (false, s)

/-- The value of one digit of a base. -/
def digitOf? (base : Nat) (c : Char) : Option Nat :=
  (Text.digitOrLetter? c).filter (· < base)

/-- The digits of a numeral without its sign; single underscores may stand between digits. -/
def digits? (base : Nat) : List Char → Option (List Nat)
  | [] => none
  | [c] => (digitOf? base c).map ([·])
  | c :: '_' :: rest => do
    let d ← digitOf? base c
    let ds ← digits? base rest
    some (d :: ds)
  | c :: rest => do
    let d ← digitOf? base c
    let ds ← digits? base rest
    some (d :: ds)

/-- The number that a row of digits stands for. -/
def ofDigits (base : Nat) (ds : List Nat) : Nat :=
  ds.foldl (fun n d => n * base + d) 0

/-- The letter that announces a base after a zero. -/
def baseLetter (base : Nat) : List Char :=
  if base = 2 then ['b', 'B'] else if base = 8 then ['o', 'O'] else if base = 16 then ['x', 'X'] else []

/-- Drops the announcement of the base, and one underscore after it. -/
def dropBase (base : Nat) : List Char → List Char
  | '0' :: letter :: '_' :: rest => if letter ∈ baseLetter base then rest else '0' :: letter :: '_' :: rest
  | '0' :: letter :: rest => if letter ∈ baseLetter base then rest else '0' :: letter :: rest
  | s => s

/-- Reads an integer numeral of a base. -/
def readInt? (base : Nat) (s : List Char) : Option Int := do
  let (negative, body) := splitSign (trimMargins s)
  let ds ← digits? base (dropBase base body)
  if base = 10 ∧ maxDigits < ds.length then none
  else
    let n := ofDigits base ds
    some (if negative then -(n : Int) else n)

/-- The decimal numeral of an integer, if it is not too long; the sign does not count. -/
def intText (n : Int) : Except Crash String :=
  if maxDigits < (Nat.toDigits 10 n.natAbs).length then .error .tooManyDigits else .ok (toString n)

end ComicScript.Decimal
