/-!
# Blank characters

The blank characters of Unicode, trimming, and the collapsed form of a text: runs of blanks become one space
and none is left at either end.
-/

namespace ComicScript.Text
set_option autoImplicit false

/-- The code points of the blank characters, as inclusive ranges in increasing order. -/
def blankRanges : List (Nat × Nat) :=
  [(0x09, 0x0D), (0x1C, 0x20), (0x85, 0x85), (0xA0, 0xA0), (0x1680, 0x1680), (0x2000, 0x200A), (0x2028, 0x2029),
    (0x202F, 0x202F), (0x205F, 0x205F), (0x3000, 0x3000)]

/-- A blank character: a space, a line end or another character that only separates words. -/
def isBlank (c : Char) : Bool :=
  blankRanges.any fun range => range.1 ≤ c.toNat && c.toNat ≤ range.2

theorem isBlank_of_isWhitespace (c : Char) (h : c.isWhitespace = true) : isBlank c = true := by
  simp only [Char.isWhitespace, Bool.or_eq_true, decide_eq_true_eq] at h
  rcases h with ((h | h) | h) | h <;> subst h <;> decide

namespace Chars

/-- Whether a text has no character other than blanks. -/
def allBlank (s : List Char) : Bool :=
  s.all isBlank

/-- Drops the blanks at the end. -/
def trimRight (s : List Char) : List Char :=
  (s.reverse.dropWhile isBlank).reverse

/-- Drops the blanks at both ends. -/
def trim (s : List Char) : List Char :=
  trimRight (s.dropWhile isBlank)

/-- Writes each run of blanks as one space; `afterBlank` says that a run has been written. -/
def squeezeFrom (afterBlank : Bool) : List Char → List Char
  | [] => []
  | c :: rest =>
    if isBlank c then
      if afterBlank then squeezeFrom true rest else ' ' :: squeezeFrom true rest
    else c :: squeezeFrom false rest

/-- Writes each run of blanks as one space. -/
def squeeze (s : List Char) : List Char :=
  squeezeFrom false s

/-- Writes each run of blanks as one space and drops the spaces at both ends. -/
def collapse (s : List Char) : List Char :=
  trim (squeeze s)

end Chars

/-- Whether a text has no character other than blanks. -/
def allBlank (s : String) : Bool :=
  Chars.allBlank s.toList

theorem allBlank_append (a b : String) : allBlank (a ++ b) = (allBlank a && allBlank b) := by
  simp [allBlank, Chars.allBlank]

theorem allBlank_append_left {a : String} (h : allBlank a = false) (b : String) : allBlank (a ++ b) = false := by
  rw [allBlank_append, h, Bool.false_and]

/-- Drops the blanks at the end. -/
def trimRight (s : String) : String :=
  String.ofList (Chars.trimRight s.toList)

/-- Drops the blanks at both ends. -/
def trim (s : String) : String :=
  String.ofList (Chars.trim s.toList)

/-- Writes each run of blanks as one space and drops the spaces at both ends. -/
def collapse (s : String) : String :=
  String.ofList (Chars.collapse s.toList)

end ComicScript.Text
