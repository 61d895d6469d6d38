import ComicScript.Yaml.Fault
import ComicScript.Yaml.Tag
import ComicScript.Value.Basic
import ComicScript.Decimal.Fraction
import ComicScript.Text.Lines

/-!
# Values of scalars

The value of a scalar of a known type. Underscores in numbers are skipped; groups of a number between colons count in
base sixty.
-/

namespace ComicScript.Yaml
set_option autoImplicit false

namespace Scalar

/-- A number without its underscores, and whether it has a minus sign. -/
def signed? (text : List Char) : Option (Bool × List Char) :=
  match text.filter (· != '_') with
  | [] => none
  | '-' :: body => some (true, body)
  | '+' :: body => some (false, body)
  | body => some (false, body)

/-- The sum of groups in base sixty, the last one counting once. -/
def sexagesimal (groups : List Int) : Int :=
  groups.foldl (fun n group => n * 60 + group) 0

/-- An integer without its sign. -/
def readMagnitude? (body : List Char) : Option Int :=
  match body with
  | [] => none
  | ['0'] => some 0
  | '0' :: 'b' :: digits => Decimal.readInt? 2 digits
  | '0' :: 'x' :: digits => Decimal.readInt? 16 digits
  | '0' :: _ => Decimal.readInt? 8 body
  | _ =>
    if ':' ∈ body then
      ((Text.Chars.splitOn ':' body).mapM (Decimal.readInt? 10)).map sexagesimal
    else Decimal.readInt? 10 body

/-- The value of an integer. -/
def int? (text : List Char) : Option Value := do
  let (negative, body) ← signed? text
  let n ← readMagnitude? body
  some (.int (if negative then -n else n))

/-- The most groups in base sixty as doubles: no higher power of sixty is a double. -/
def maxFloatGroups : Nat := 174

/-- The sum of groups in base sixty as doubles, from the last group on. -/
def sexagesimalFloat? (groups : List Float) : Option Float :=
  if maxFloatGroups < groups.length then none
  else some (groups.reverse.zipIdx.foldl (fun sum (group, i) => sum + group * Decimal.ofRatio (Nat.pow 60 i) 1) 0.0)

/-- Whether a decimal is the word for not-a-number. -/
def isNotANumber (text : List Char) : Bool :=
  (signed? (text.map Char.toLower)).any (·.2 == ".nan".toList)

/-- The value of a decimal. -/
def float? (text : List Char) : Option Value := do
  let (negative, body) ← signed? (text.map Char.toLower)
  let x ←
    if body = ".inf".toList then some (Decimal.ofScientific 1 400)
    else if body = ".nan".toList then some (0.0 / 0.0)
    else if ':' ∈ body then (Text.Chars.splitOn ':' body).mapM Decimal.readFloat? >>= sexagesimalFloat?
    else Decimal.readFloat? body
  some (.float (if negative then -x else x))

/-- The value of a word for true or false, in any casing. -/
def bool? (text : List Char) : Option Value :=
  (Tag.boolWords.find? fun (word, _) => word.toList == text.map Char.toLower).map fun (_, b) => .bool b

/-- The number that a character of base 64 stands for. -/
def sextet? (c : Char) : Option Nat :=
  if c.isUpper then some (c.toNat - 'A'.toNat)
  else if c.isLower then some (c.toNat - 'a'.toNat + 26)
  else if c.isDigit then some (c.toNat - '0'.toNat + 52)
  else if c = '+' then some 62
  else if c = '/' then some 63
  else none

/-- The whole bytes of an unfinished group. -/
def wholeBytes : List Nat → List Nat
  | [a, b] => [a * 4 + b / 16]
  | [a, b, d] => [a * 4 + b / 16, b % 16 * 16 + d / 4]
  | _ => []

/-- The bytes of a text in base 64, read in groups of four characters. `held` are the numbers of the current group,
`pads` the padding characters after them; foreign characters are skipped. -/
def bytesFrom? (held : List Nat) (pads : Nat) : List Char → Option (List Nat)
  | [] => if held = [] then some [] else none
  | '=' :: rest =>
    if held.length < 2 then bytesFrom? held pads rest
    else if held.length + pads + 1 < 4 then bytesFrom? held (pads + 1) rest
    else some (wholeBytes held)
  | c :: rest =>
    match sextet? c with
    | none => bytesFrom? held pads rest
    | some n =>
      match held with
      | [a, b, d] => (bytesFrom? [] 0 rest).map ([a * 4 + b / 16, b % 16 * 16 + d / 4, d % 4 * 64 + n] ++ ·)
      | _ => bytesFrom? (held ++ [n]) 0 rest

/-- The value of bytes in base 64. -/
def binary? (text : List Char) : Option Value :=
  if text.all (·.toNat < 0x80) then (bytesFrom? [] 0 text).map fun bytes => .bytes (bytes.map UInt8.ofNat)
  else none

/-- The value of a timestamp. -/
def timestamp? (text : List Char) : Option Value := do
  let t ← Timestamp.read? (Text.Chars.dropFinalLineFeed text)
  let date ← Date.of? t.year t.month t.day
  match t.time with
  | none => some (.date date)
  | some time => (Moment.of? date time.hour time.minute time.second time.microsecond time.offset).map .moment

/-- The value of a scalar. -/
def value (tag : Tag) (text : String) : Except Fault Value :=
  let s := text.toList
  let given (v : Option Value) : Except Fault Value := v.elim (.error .badScalar) .ok
  match tag with
  | .null => .ok .null
  | .bool => given (bool? s)
  | .int => given (int? s)
  | .float => given (float? s)
  | .binary => given (binary? s)
  | .timestamp => given (timestamp? s)
  | .str => .ok (.str text)
  | _ => .error .badTag

end Scalar

end ComicScript.Yaml
