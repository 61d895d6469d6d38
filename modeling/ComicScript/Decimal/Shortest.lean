import ComicScript.Decimal.Binary

/-!
# Shortest decimals

The decimal text of a double with the fewest digits that read back as the same double; of several such texts the one
nearest to the double.
-/

namespace ComicScript.Decimal
set_option autoImplicit false

/-- The number `digits * 10 ^ exponent`. -/
structure Scientific where
  digits : Nat
  exponent : Int
  deriving DecidableEq, Repr

/-- A double and the fractions halfway to its two neighbours, over the common denominator `den`. -/
structure Interval where
  low : Nat
  value : Nat
  high : Nat
  den : Nat
  closed : Bool

namespace Interval

/-- The numbers that round to a positive double; the ends belong to them if the mantissa is even. -/
def ofDyadic (d : Dyadic) : Interval :=
  let narrow := d.mantissa == fractionSize && d.exponent != minExponent
  let unit := Nat.pow 2 d.exponent.toNat
  ⟨(4 * d.mantissa - (if narrow then 1 else 2)) * unit, 4 * d.mantissa * unit, (4 * d.mantissa + 2) * unit,
    4 * d.den, d.mantissa % 2 == 0⟩

/-- Whether a decimal lies in the interval. -/
def holds (i : Interval) (s : Scientific) : Bool :=
  let x := s.digits * Nat.pow 10 s.exponent.toNat * i.den
  let scale := Nat.pow 10 (-s.exponent).toNat
  if i.closed then i.low * scale ≤ x && x ≤ i.high * scale
  else i.low * scale < x && x < i.high * scale

/-- The number of digits before the point of the double, or minus the number of zeros after it. -/
def point (i : Interval) : Int :=
  let estimate : Int := (((i.value.log2 : Int) - (i.den.log2 : Int)) * 30103).fdiv 100000
  let reaches (k : Int) : Bool := i.den * Nat.pow 10 k.toNat ≤ i.value * Nat.pow 10 (-k).toNat
  if reaches (estimate + 1) then estimate + 2
  else if reaches estimate then estimate + 1
  else estimate

/-- The best decimal with its last digit at `exponent`, if one lies in the interval: of the two neighbours of the
double the nearer, and of two equally near ones the even. -/
def decimalAt? (i : Interval) (exponent : Int) : Option Scientific :=
  let num := i.value * Nat.pow 10 (-exponent).toNat
  let den := i.den * Nat.pow 10 exponent.toNat
  let nearest := roundHalfEven num den
  let other := if nearest = num / den then nearest + 1 else nearest - 1
  [⟨nearest, exponent⟩, ⟨other, exponent⟩].find? i.holds

end Interval

/-- The shortest decimal of a positive double. -/
def shortest (d : Dyadic) : Scientific :=
  let i := Interval.ofDyadic d
  let point := i.point
  ((List.range 17).findSome? fun (n : Nat) => i.decimalAt? (point - (n + 1 : Nat))).getD ⟨d.num, 0⟩

/-- How a decimal is written: positional while its point lies in a range, otherwise with an exponent. -/
structure Style where
  minPoint : Int
  maxPoint : Int
  exponentDigits : Nat

/-- Doubles are positional from `0.0001` up to sixteen digits before the point, and an exponent has at least two
digits. -/
def Style.double : Style := ⟨-3, 16, 2⟩

/-- A row of zeros. -/
def zeros (n : Nat) : List Char :=
  List.replicate n '0'

/-- Puts zeros in front of a numeral up to a width. -/
def padLeft (width : Nat) (s : String) : String :=
  String.ofList (zeros (width - s.length)) ++ s

/-- Drops the zeros at the end of a row of digits. -/
def dropFinalZeros (ds : List Char) : List Char :=
  (ds.reverse.dropWhile (· == '0')).reverse

/-- The digits of a decimal around a point that stands after `point` of them. -/
def positional (ds : List Char) (point : Int) : List Char :=
  if point ≤ 0 then '0' :: '.' :: zeros (-point).toNat ++ ds
  else if (ds.length : Int) ≤ point then ds ++ zeros (point.toNat - ds.length) ++ ['.', '0']
  else ds.take point.toNat ++ '.' :: ds.drop point.toNat

/-- The text of a decimal. -/
def Style.write (style : Style) (s : Scientific) : String :=
  let all := Nat.toDigits 10 s.digits
  let point := s.exponent + all.length
  let ds := dropFinalZeros all
  if style.minPoint ≤ point ∧ point ≤ style.maxPoint then String.ofList (positional ds point)
  else
    let mantissa := if ds.length ≤ 1 then ds else ds.take 1 ++ '.' :: ds.drop 1
    let exponent := point - 1
    String.ofList mantissa ++ (if exponent < 0 then "e-" else "e+") ++
      padLeft style.exponentDigits (toString exponent.natAbs)

/-- The shortest text of a double; a zero keeps its sign. -/
def doubleText (x : Float) : String :=
  match exact x with
  | .notANumber => "nan"
  | .infinite negative => if negative then "-inf" else "inf"
  | .finite d =>
    let sign := if d.negative then "-" else ""
    if d.mantissa = 0 then sign ++ "0.0" else sign ++ Style.double.write (shortest d)

end ComicScript.Decimal
