import ComicScript.Crash

/-!
# Doubles as exact fractions

A finite double is a whole number times a power of two. `exact` reads that fraction off a double and `ofRatio` rounds a
quotient of whole numbers to the nearest double, a tie to the even one.
-/

namespace ComicScript.Decimal
set_option autoImplicit false

/-- The quotient rounded to the nearest whole number, a tie to the even one. -/
def roundHalfEven (num den : Nat) : Nat :=
  let q := num / den
  let r := num % den
  if 2 * r < den then q
  else if den < 2 * r then q + 1
  else if q % 2 = 0 then q
  else q + 1

/-- The number `± mantissa * 2 ^ exponent`. -/
structure Dyadic where
  negative : Bool
  mantissa : Nat
  exponent : Int
  deriving DecidableEq, Repr

namespace Dyadic

/-- The numerator of the absolute value. -/
def num (d : Dyadic) : Nat :=
  d.mantissa * Nat.pow 2 d.exponent.toNat

/-- The denominator of the absolute value, a power of two. -/
def den (d : Dyadic) : Nat :=
  Nat.pow 2 (-d.exponent).toNat

end Dyadic

/-- The smallest exponent of a double's last binary place. -/
def minExponent : Int := -1074

/-- The number of values that a double's fraction can take. -/
def fractionSize : Nat := Nat.pow 2 52

/-- What a double stands for. -/
inductive Exact
  | finite (value : Dyadic)
  | infinite (negative : Bool)
  | notANumber
  deriving DecidableEq, Repr

/-- The exact value of a double. -/
def exact (x : Float) : Exact :=
  let bits := x.toBits.toNat
  let negative := bits / Nat.pow 2 63 == 1
  let biased := bits / fractionSize % 2048
  let fraction := bits % fractionSize
  if biased = 2047 then
    if fraction = 0 then .infinite negative else .notANumber
  else if biased = 0 then .finite ⟨negative, fraction, minExponent⟩
  else .finite ⟨negative, fraction + fractionSize, (biased : Int) + minExponent - 1⟩

/-- The largest exponent `e`, but no less than `minExponent`, with at least 53 binary digits before the point of
`num / den / 2 ^ e`. -/
def ratioExponent (num den : Nat) : Int :=
  let e := (num.log2 : Int) - (den.log2 : Int) - 52
  let scaled := num * Nat.pow 2 (-e).toNat
  let unit := den * Nat.pow 2 e.toNat
  max minExponent (if scaled < fractionSize * unit then e - 1 else e)

/-- The bits of the double nearest to `num / den`, a tie to the even one; past the largest double they run on. -/
def ratioBits (num den : Nat) : Nat :=
  if num = 0 then 0
  else
    let e := ratioExponent num den
    let mantissa := roundHalfEven (num * Nat.pow 2 (-e).toNat) (den * Nat.pow 2 e.toNat)
    if mantissa < fractionSize then mantissa
    else ((e - minExponent).toNat) * fractionSize + mantissa

/-- The bits of infinity. -/
def infinityBits : Nat := 2047 * fractionSize

/-- The double nearest to `num / den`, a tie to the even one; past the largest double it is infinite. -/
def ofRatio (num den : Nat) : Float :=
  Float.ofBits (UInt64.ofNat (min (ratioBits num den) infinityBits))

/-- The double nearest to a quotient of an integer by a positive number. -/
def ofIntRatio (num : Int) (den : Nat) : Float :=
  if num < 0 then -(ofRatio num.natAbs den) else ofRatio num.natAbs den

/-- The double nearest to a quotient of an integer by a positive number, unless it is past the largest one. -/
def quotient (num : Int) (den : Nat) : Except Crash Float :=
  if infinityBits ≤ ratioBits num.natAbs den then .error .tooLarge else .ok (ofIntRatio num den)

/-- The double nearest to an integer. -/
def ofInt (n : Int) : Float :=
  ofIntRatio n 1

/-- The number of decimal digits of a number. -/
def digitCount (n : Nat) : Nat :=
  (Nat.toDigits 10 n).length

/-- The double nearest to `mantissa * 10 ^ exponent`; far outside the range of doubles it is infinite or zero. -/
def ofScientific (mantissa : Nat) (exponent : Int) : Float :=
  let size := exponent + digitCount mantissa
  if mantissa = 0 ∨ size < -330 then 0
  else if 310 < size then ofRatio (Nat.pow 10 310) 1
  else ofRatio (mantissa * Nat.pow 10 exponent.toNat) (Nat.pow 10 (-exponent).toNat)

end ComicScript.Decimal
