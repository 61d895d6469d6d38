import ComicScript.Decimal.Hundredths
import ComicScript.Proofs.Text.CanonicalSpacing
import Mathlib.Data.List.Basic

/-!
# The characters of written numbers

Whole numbers and rounded doubles are written with digits, a sign and a point; a double that is no finite number is a word
of a few letters. None of these characters is blank.
-/

namespace ComicScript.Decimal
set_option autoImplicit false

/-- A character that a written number can have. -/
def isNumeral (c : Char) : Bool :=
  c.isDigit || c ∈ ['-', '.', 'a', 'f', 'i', 'n']

theorem isNumeral_of_isDigit {c : Char} (h : c.isDigit = true) : isNumeral c = true := by
  rw [isNumeral, h, Bool.true_or]

/-- The characters of written numbers are not blank. -/
theorem isBlank_of_isNumeral {c : Char} (h : isNumeral c = true) : Text.isBlank c = false := by
  rcases Bool.or_eq_true_iff.1 h with digit | sign
  · simp only [Char.isDigit, Bool.and_eq_true, decide_eq_true_eq] at digit
    have low : 48 ≤ c.toNat := UInt32.le_iff_toNat_le.1 digit.1
    have high : c.toNat ≤ 57 := UInt32.le_iff_toNat_le.1 digit.2
    rw [Bool.eq_false_iff, ne_eq, Text.isBlank_iff]
    simp only [List.mem_cons, List.not_mem_nil, or_false]
    omega
  · have signs : ∀ d ∈ ['-', '.', 'a', 'f', 'i', 'n'], Text.isBlank d = false := List.forall_iff_forall_mem.1 (by decide)
    exact signs c (of_decide_eq_true sign)

theorem isNumeral_of_mem_toDigits {c : Char} {n : Nat} (h : c ∈ Nat.toDigits 10 n) : isNumeral c = true :=
  isNumeral_of_isDigit (Nat.isDigit_of_mem_toDigits (b := 10) (by decide) (by decide) h)

theorem isNumeral_of_mem_toString_nat {c : Char} {n : Nat} (h : c ∈ (toString n).toList) : isNumeral c = true := by
  rw [Nat.toString_eq_repr, Nat.toList_repr] at h
  exact isNumeral_of_mem_toDigits h

/-- A negative number is written with a minus sign in front of its digits. -/
theorem toList_toString_negSucc (n : Nat) : (toString (Int.negSucc n)).toList = '-' :: Nat.toDigits 10 (n + 1) := by
  have sign : toString (Int.negSucc n) = "-" ++ (n + 1).repr := rfl
  rw [sign, String.toList_append, Nat.toList_repr]
  rfl

theorem isNumeral_of_mem_toString_int {c : Char} {n : Int} (h : c ∈ (toString n).toList) : isNumeral c = true := by
  cases n with
  | ofNat n => exact isNumeral_of_mem_toString_nat h
  | negSucc n =>
    rw [toList_toString_negSucc] at h
    rcases List.mem_cons.1 h with rfl | digits
    · decide
    · exact isNumeral_of_mem_toDigits digits

theorem isNumeral_digitChar {d : Nat} (small : d < 10) : isNumeral d.digitChar = true :=
  isNumeral_of_isDigit (by rwa [Nat.isDigit_digitChar, decide_eq_true_eq])

theorem isNumeral_of_mem_twoPlaces {c : Char} {negative : Bool} {n : Nat} (h : c ∈ twoPlaces negative n) :
    isNumeral c = true := by
  rw [twoPlaces, List.mem_append, List.mem_append] at h
  rcases h with (sign | whole) | part
  · split at sign
    · obtain rfl := List.mem_singleton.1 sign
      decide
    · cases sign
  · exact isNumeral_of_mem_toDigits whole
  · simp only [List.mem_cons, List.not_mem_nil, or_false] at part
    rcases part with rfl | rfl | rfl
    · decide
    · exact isNumeral_digitChar (by omega)
    · exact isNumeral_digitChar (by omega)

theorem isNumeral_of_mem_fixedText {c : Char} {x : Float} (h : c ∈ fixedText x) : isNumeral c = true := by
  unfold fixedText at h
  split at h
  · have word : "nan".toList.all isNumeral = true := by decide
    exact List.all_eq_true.1 word c h
  · rename_i negative _
    have words : ∀ negative : Bool, (if negative then "-inf".toList else "inf".toList).all isNumeral = true := by decide
    exact List.all_eq_true.1 (words negative) c h
  · exact isNumeral_of_mem_twoPlaces h

/-! ## Characters dropped at the end -/

theorem stripRight_concat (c d : Char) (s : List Char) :
    stripRight c (s ++ [d]) = if d = c then stripRight c s else s ++ [d] := by
  rw [stripRight, List.reverse_concat, List.dropWhile_cons]
  by_cases same : d = c
  · rw [if_pos (beq_iff_eq.2 same), if_pos same]
    rfl
  · rw [if_neg (mt beq_iff_eq.1 same), if_neg same, List.reverse_cons, List.reverse_reverse]

theorem mem_of_mem_stripRight {c d : Char} {s : List Char} (h : d ∈ stripRight c s) : d ∈ s :=
  List.mem_reverse.1 ((List.dropWhile_suffix _).mem (List.mem_reverse.1 h))

/-- A rounded double is written as a number. -/
theorem isNumeral_of_mem_roundedText {c : Char} {x : Float} (h : c ∈ (roundedText x).toList) : isNumeral c = true := by
  rw [roundedText] at h
  split at h
  · obtain rfl := List.mem_singleton.1 h
    decide
  · rw [String.toList_ofList] at h
    exact isNumeral_of_mem_fixedText (mem_of_mem_stripRight (mem_of_mem_stripRight h))

end ComicScript.Decimal
