import ComicScript.Decimal.Binary

/-!
# Decimals with two places

The text of a double rounded to the nearest hundredth, a tie to the even one, with no zeros at the end and no sign on
zero.
-/

namespace ComicScript.Decimal
set_option autoImplicit false

/-- The absolute value in hundredths. -/
def Dyadic.hundredths (d : Dyadic) : Nat :=
  roundHalfEven (100 * d.num) d.den

/-- A number of hundredths with two places after the point. -/
def twoPlaces (negative : Bool) (n : Nat) : List Char :=
  (if negative then ['-'] else []) ++ Nat.toDigits 10 (n / 100) ++
    ['.', (n % 100 / 10).digitChar, (n % 100 % 10).digitChar]

/-- Drops a character at the end as often as it stands there. -/
def stripRight (c : Char) (s : List Char) : List Char :=
  (s.reverse.dropWhile (· == c)).reverse

/-- The text of a double with two places after the point. -/
def fixedText (x : Float) : List Char :=
  match exact x with
  | .notANumber => "nan".toList
  | .infinite negative => if negative then "-inf".toList else "inf".toList
  | .finite d => twoPlaces d.negative d.hundredths

/-- The text of a double rounded to hundredths: zeros at the end are dropped, then points, and what is left of a zero is
written as one. -/
def roundedText (x : Float) : String :=
  let kept := stripRight '.' (stripRight '0' (fixedText x))
  if kept = [] ∨ kept = ['-', '0'] then "0" else String.ofList kept

end ComicScript.Decimal
