import ComicScript.Value.Calendar
import ComicScript.Decimal.Integer

/-!
# Timestamps

The written form of days and times: `2001-12-14`, or with a time of day, a fraction and an offset.
-/

namespace ComicScript.Yaml
set_option autoImplicit false

/-- The numbers of a written time; the offset is in minutes. -/
structure TimeOfDay where
  hour : Nat
  minute : Nat
  second : Nat
  microsecond : Nat
  offset : Option Int

/-- The numbers of a written timestamp. -/
structure Timestamp where
  year : Nat
  month : Nat
  day : Nat
  /-- whether month and day both have two digits -/
  padded : Bool
  time : Option TimeOfDay

namespace Timestamp

/-- The number that decimal digits stand for. -/
def number (ds : List Char) : Nat :=
  Decimal.ofDigits 10 (ds.map fun c => c.toNat - '0'.toNat)

/-- Between `least` and `most` digits at the start, and the rest. -/
def digits? (least most : Nat) (s : List Char) : Option (List Char × List Char) :=
  let ds := (s.take most).takeWhile Char.isDigit
  if least ≤ ds.length then some (ds, s.drop ds.length) else none

/-- Drops a character. -/
def expect? (c : Char) : List Char → Option (List Char)
  | d :: rest => if d = c then some rest else none
  | [] => none

/-- Drops spaces and tabs. -/
def skipBlanks (s : List Char) : List Char :=
  s.dropWhile fun c => c == ' ' || c == '\t'

/-- The first six digits of a fraction as microseconds. -/
def microseconds (ds : List Char) : Nat :=
  number ((ds ++ List.replicate 6 '0').take 6)

/-- The offset at the end of a time. -/
def offset? (s : List Char) : Option (Option Int) :=
  match s, skipBlanks s with
  | [], _ => some none
  | _, ['Z'] => some (some 0)
  | _, sign :: rest => do
    if sign ≠ '+' ∧ sign ≠ '-' then none
    let (hours, rest) ← digits? 1 2 rest
    let minutes ←
      match rest with
      | [] => some []
      | ':' :: rest => (digits? 2 2 rest).bind fun (ds, tail) => if tail = [] then some ds else none
      | _ => none
    let total : Int := number hours * 60 + number minutes
    some (some (if sign = '-' then -total else total))
  | _, [] => none

/-- The time of day after a date. -/
def time? (s : List Char) : Option TimeOfDay := do
  let rest ←
    match s with
    | 'T' :: rest => some rest
    | 't' :: rest => some rest
    | ' ' :: rest => some (skipBlanks rest)
    | '\t' :: rest => some (skipBlanks rest)
    | _ => none
  let (hour, rest) ← digits? 1 2 rest
  let (minute, rest) ← expect? ':' rest >>= digits? 2 2
  let (second, rest) ← expect? ':' rest >>= digits? 2 2
  let (fraction, rest) :=
    match rest with
    | '.' :: rest => (rest.takeWhile Char.isDigit, rest.dropWhile Char.isDigit)
    | rest => ([], rest)
  let offset ← offset? rest
  some ⟨number hour, number minute, number second, microseconds fraction, offset⟩

/-- Reads a timestamp. -/
def read? (s : List Char) : Option Timestamp := do
  let (year, rest) ← digits? 4 4 s
  let (month, rest) ← expect? '-' rest >>= digits? 1 2
  let (day, rest) ← expect? '-' rest >>= digits? 1 2
  let time ← if rest.isEmpty then some none else (time? rest).map some
  some ⟨number year, number month, number day, month.length == 2 && day.length == 2, time⟩

end Timestamp

end ComicScript.Yaml
