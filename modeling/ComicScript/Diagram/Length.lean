import ComicScript.Decimal.Binary
import ComicScript.Value.Text

/-!
# Lengths

The sides of a diagram are whole numbers or doubles. Sums of whole numbers are exact, and a quotient is the double
nearest to it; a quotient of whole numbers past the largest double is not computed.
-/

namespace ComicScript
set_option autoImplicit false

/-- A length in pixels. -/
inductive Length
  | whole (n : Int)
  | real (x : Float)

namespace Length

/-- A length as a value. -/
def value : Length → Value
  | whole n => .int n
  | real x => .float x

/-- A length as messages show it. -/
def text (l : Length) : Except Crash String :=
  l.value.text

/-- A length less a number of pixels. -/
def less (l : Length) (n : Nat) : Length :=
  match l with
  | whole m => whole (m - n)
  | real x => real (x - Decimal.ofRatio n 1)

/-- A part of a length, divided into equal parts. -/
def part (l : Length) (parts : Nat) : Except Crash Float :=
  match l with
  | whole m => Decimal.quotient m parts
  | real x => .ok (x / Decimal.ofRatio parts 1)

/-- Whether a length is at most a number of pixels; a length that is no number is not. -/
def atMost (l : Length) (n : Nat) : Bool :=
  match l with
  | whole m => m ≤ n
  | real x => x ≤ Decimal.ofRatio n 1

end Length

end ComicScript
