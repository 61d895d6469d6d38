import ComicScript.Decimal.Binary
import ComicScript.Decimal.Integer

/-!
# Decimal fractions

Reading a double from a decimal text: blanks around it, a sign, digits of any script, a point, an exponent, or one of
the words for infinity and not-a-number.
-/

namespace ComicScript.Decimal
set_option autoImplicit false

/-- The longest row of digits at the start, and the rest. -/
def spanDigits : List Char → List Nat × List Char
  | [] => ([], [])
  | c :: rest =>
    match Text.digit? c with
    | some d => (d :: (spanDigits rest).1, (spanDigits rest).2)
    | none => ([], c :: rest)

/-- The exponent at the end of a decimal; an absent one is zero. -/
def exponent? : List Char → Option Int
  | [] => some 0
  | c :: rest =>
    if c = 'e' ∨ c = 'E' then
      let (negative, body) := splitSign rest
      match spanDigits body with
      | ([], _) => none
      | (ds, []) => some (if negative then -(ofDigits 10 ds : Int) else ofDigits 10 ds)
      | _ => none
    else none

/-- Reads a decimal without its sign. -/
def readUnsigned? (s : List Char) : Option Float :=
  let word := s.map Char.toLower
  if word = "inf".toList ∨ word = "infinity".toList then some (ofScientific 1 400)
  else if word = "nan".toList then some (0.0 / 0.0)
  else
    let (whole, rest) := spanDigits s
    let (places, tail) :=
      match rest with
      | '.' :: more => spanDigits more
      | more => ([], more)
    let ds := whole ++ places
    if ds = [] then none
    else (exponent? tail).map fun e => ofScientific (ofDigits 10 ds) (e - places.length)

/-- Reads a decimal. -/
def readFloat? (s : List Char) : Option Float :=
  let (negative, body) := splitSign (trimMargins s)
  (readUnsigned? body).map fun x => if negative then -x else x

end ComicScript.Decimal
