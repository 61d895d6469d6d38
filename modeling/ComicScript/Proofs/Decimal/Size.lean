import ComicScript.Decimal.Integer
import ComicScript.Proofs.Decimal.Rounding
import Mathlib.Algebra.Order.Field.Power

/-!
# Numbers that can be written and divided

An integer has a numeral exactly if it has no more digits than a numeral may have. A quotient of whole numbers is computed
wherever the dividend itself is a double: its exponent is no larger and its mantissa does not run over.
-/

namespace ComicScript.Decimal
set_option autoImplicit false

/-! ## Numerals -/

/-- An integer of no more digits than a numeral may have. -/
def Short (n : Int) : Prop :=
  n.natAbs < 10 ^ maxDigits

theorem intText_eq (n : Int) : intText n = if n.natAbs < 10 ^ maxDigits then .ok (toString n) else .error .tooManyDigits := by
  have digits : (Nat.toDigits 10 n.natAbs).length ≤ maxDigits ↔ n.natAbs < 10 ^ maxDigits :=
    Nat.length_toDigits_le_iff (by decide) (by decide)
  rw [intText]
  by_cases short : n.natAbs < 10 ^ maxDigits
  · rw [if_pos short, if_neg (Nat.not_lt.2 (digits.2 short))]
  · rw [if_neg short, if_pos (Nat.lt_of_not_le fun few => short (digits.1 few))]

theorem Short.intText {n : Int} (h : Short n) : intText n = .ok (toString n) := by
  rw [intText_eq]
  exact if_pos h

theorem intText_of_not_short {n : Int} (h : ¬ Short n) : intText n = .error .tooManyDigits := by
  rw [intText_eq]
  exact if_neg h

/-- The least integer that is too long. -/
theorem not_short_ten_pow : ¬ Short (10 ^ maxDigits) := by
  simp [Short, Int.natAbs_pow]

theorem short_of_intText {n : Int} {s : String} (h : intText n = .ok s) : Short n ∧ s = toString n := by
  rw [intText_eq] at h
  split at h
  · rename_i short
    exact ⟨short, (Except.ok.inj h).symm⟩
  · cases h

/-! ## Quotients -/

/-- The number in the middle between two neighbours, the upper of them a power of two that is 53 places higher. -/
def middle (k : Nat) : Nat := (2 ^ 54 - 1) * 2 ^ k

theorem middle_lt {j k : Nat} (h : j + 54 ≤ k) : middle j < 2 ^ k :=
  calc middle j < 2 ^ 54 * 2 ^ j := Nat.mul_lt_mul_of_pos_right (by decide) (Nat.two_pow_pos j)
    _ = 2 ^ (j + 54) := by rw [← pow_add, Nat.add_comm]
    _ ≤ 2 ^ k := Nat.pow_le_pow_right (by decide) h

/-- Whole numbers from here on are rounded past the largest double. -/
def sizeBound : Nat := middle 970

/-- The result is no more than a bound that the quotient, rounded, is no more than. -/
theorem roundHalfEven_le {num den k : Nat} (h : 2 * num < (2 * k + 1) * den) : roundHalfEven num den ≤ k := by
  have parts := Nat.div_add_mod num den
  rcases Nat.eq_zero_or_pos den with rfl | pos
  · simp at h
  · have short := Nat.mod_lt num pos
    have below : num / den ≤ k := by
      by_contra above
      have more : (k + 1) * den ≤ num / den * den := Nat.mul_le_mul_right den (by omega)
      have whole := Nat.div_mul_le_self num den
      have split : (2 * k + 1) * den + den = 2 * ((k + 1) * den) := by ring
      omega
    unfold roundHalfEven
    dsimp only
    rcases Nat.lt_or_eq_of_le below with less | same
    · split <;> [omega; split <;> [omega; split <;> omega]]
    · have rest : 2 * (num % den) < den := by
        have product : den * (num / den) = k * den := by rw [same, Nat.mul_comm]
        have split : (2 * k + 1) * den = 2 * (k * den) + den := by ring
        omega
      rw [if_pos rest]
      omega

/-- What is below the middle is not rounded up. -/
theorem roundHalfEven_of_lt_middle {num k : Nat} (h : num < middle k) :
    roundHalfEven num (Nat.pow 2 (k + 1)) ≤ 2 ^ 53 - 1 := by
  apply roundHalfEven_le
  have half : (2 * (2 ^ 53 - 1) + 1) * Nat.pow 2 (k + 1) = 2 * middle k := by
    rw [Nat.pow_eq, pow_succ, middle]
    omega
  rw [half]
  exact Nat.mul_lt_mul_of_pos_left h (by decide)

section Ratio

variable {num den : Nat}

/-- A number below a power of two times another, said with whole powers. -/
theorem natCast_lt_iff (num den k : Nat) (e : ℤ) :
    (num : ℚ) < k * den * 2 ^ e ↔ num * Nat.pow 2 (-e).toNat < k * (den * Nat.pow 2 e.toNat) := by
  have positive : (0 : ℚ) < 2 ^ (-e).toNat := by positivity
  have exponents : e = (e.toNat : ℤ) - ((-e).toNat : ℤ) := by omega
  have powers : (2 : ℚ) ^ e = 2 ^ e.toNat / 2 ^ (-e).toNat := by
    conv_lhs => rw [exponents]
    rw [zpow_sub₀ two_ne_zero, zpow_natCast, zpow_natCast]
  rw [powers, ← mul_div_assoc, lt_div_iff₀ positive, Nat.pow_eq, Nat.pow_eq, ← mul_assoc]
  exact_mod_cast Iff.rfl

/-- With the exponent of a ratio the mantissa has no more than 53 binary digits. -/
theorem lt_mul_ratioExponent (pos : 0 < den) :
    (num : ℚ) < (2 ^ 53 : Nat) * den * 2 ^ ratioExponent num den := by
  have positive : (0 : ℚ) < den := Nat.cast_pos.2 pos
  have above : (num : ℚ) < 2 ^ (num.log2 + 1) := by exact_mod_cast Nat.lt_log2_self
  have below : (2 ^ den.log2 : ℚ) ≤ den := by exact_mod_cast Nat.log2_self_le pos.ne'
  let e : ℤ := (num.log2 : ℤ) - (den.log2 : ℤ) - 52
  have larger {d : ℤ} (le : d ≤ ratioExponent num den) (h : (num : ℚ) < (2 ^ 53 : Nat) * den * 2 ^ d) :
      (num : ℚ) < (2 ^ 53 : Nat) * den * 2 ^ ratioExponent num den :=
    h.trans_le (mul_le_mul_of_nonneg_left (zpow_le_zpow_right₀ (by norm_num) le) (by positivity))
  have whole : (num : ℚ) < (2 ^ 53 : Nat) * den * 2 ^ e := by
    have split : (2 : ℚ) ^ (num.log2 + 1) = 2 ^ 53 * 2 ^ den.log2 * 2 ^ e := by
      rw [← zpow_natCast, ← zpow_natCast, ← zpow_natCast, ← zpow_add₀ two_ne_zero, ← zpow_add₀ two_ne_zero]
      congr 1
      simp only [e]
      push_cast
      ring
    calc (num : ℚ) < 2 ^ 53 * 2 ^ den.log2 * 2 ^ e := split ▸ above
      _ ≤ 2 ^ 53 * den * 2 ^ e := by gcongr
      _ = (2 ^ 53 : Nat) * den * 2 ^ e := by rw [Nat.cast_pow, Nat.cast_ofNat]
  by_cases narrow : num * Nat.pow 2 (-e).toNat < fractionSize * (den * Nat.pow 2 e.toNat)
  · have exponent : ratioExponent num den = max minExponent (e - 1) := by
      rw [ratioExponent]
      exact congrArg (max minExponent) (if_pos narrow)
    refine larger (exponent ▸ le_max_right ..) ?_
    have half := (natCast_lt_iff num den fractionSize e).2 narrow
    have split : ((2 ^ 53 : Nat) : ℚ) * den * 2 ^ (e - 1) = fractionSize * den * 2 ^ e := by
      rw [zpow_sub_one₀ two_ne_zero, fractionSize, Nat.pow_eq]
      push_cast
      ring
    rwa [split]
  · have exponent : ratioExponent num den = max minExponent e := by
      rw [ratioExponent]
      exact congrArg (max minExponent) (if_neg narrow)
    exact larger (exponent ▸ le_max_right ..) whole

theorem ratioExponent_le : ratioExponent num den ≤ max minExponent ((num.log2 : ℤ) - den.log2 - 52) := by
  rw [ratioExponent]
  split
  · exact max_le_max_left _ (by omega)
  · exact le_refl _

/-- The mantissa of a ratio, rounded; past its last value the exponent is one more. -/
theorem mantissa_le (pos : 0 < den) : roundHalfEven (num * Nat.pow 2 (-ratioExponent num den).toNat)
    (den * Nat.pow 2 (ratioExponent num den).toNat) ≤ 2 ^ 53 := by
  have bound := (natCast_lt_iff num den (2 ^ 53) _).1 (lt_mul_ratioExponent pos)
  apply roundHalfEven_le
  rw [Nat.add_mul, Nat.mul_assoc]
  omega

/-- What is below the bound has at most 1024 binary digits. -/
theorem log2_lt_of_lt_sizeBound (some : num ≠ 0) (small : num < sizeBound) {k : Nat} (le : 1024 ≤ k) : num.log2 < k :=
  (Nat.log2_lt some).2 (small.trans (middle_lt le))

/-- With the exponent of the largest doubles nothing is divided, and the bound leaves less than half of the last place. -/
theorem mantissa_le_of_largest (some : num ≠ 0) (pos : 0 < den) (small : num < sizeBound)
    (large : ratioExponent num den = 971) : roundHalfEven (num * Nat.pow 2 (-ratioExponent num den).toNat)
      (den * Nat.pow 2 (ratioExponent num den).toNat) ≤ 2 ^ 53 - 1 := by
  have least : minExponent = -1074 := rfl
  have exponent : ratioExponent num den ≤ max minExponent ((num.log2 : ℤ) - den.log2 - 52) := ratioExponent_le
  have short : num.log2 < 1024 := log2_lt_of_lt_sizeBound some small (Nat.le_refl 1024)
  have one : den.log2 = 0 := by omega
  have single : den = 1 := by
    have := (Nat.log2_lt pos.ne').1 (one ▸ Nat.zero_lt_one)
    omega
  have scaled : (-971 : ℤ).toNat = 0 := rfl
  have power : (971 : ℤ).toNat = 970 + 1 := rfl
  have plain : num * Nat.pow 2 0 = num := Nat.mul_one num
  rw [large, single, Nat.one_mul, scaled, power, plain]
  exact @roundHalfEven_of_lt_middle num 970 small

/-- A dividend that is a double can be divided by any whole number. -/
theorem ratioBits_lt_infinityBits (pos : 0 < den) (small : num < sizeBound) : ratioBits num den < infinityBits := by
  have infinity : infinityBits = 2047 * 2 ^ 52 := rfl
  have fraction : fractionSize = 2 ^ 52 := rfl
  have least : minExponent = -1074 := rfl
  unfold ratioBits
  split
  · rw [infinity]
    norm_num
  rename_i some
  dsimp only
  by_cases large : ratioExponent num den = 971
  · have mantissa := mantissa_le_of_largest some pos small large
    have place : (971 - -1074 : ℤ).toNat = 2045 := rfl
    generalize roundHalfEven _ _ = m at mantissa ⊢
    rw [large, least, infinity, fraction, place]
    split <;> omega
  · have mantissa : roundHalfEven (num * _) (den * _) ≤ 2 ^ 53 := mantissa_le pos
    have exponent : ratioExponent num den ≤ max minExponent ((num.log2 : ℤ) - den.log2 - 52) := ratioExponent_le
    have short : num.log2 < 1024 := log2_lt_of_lt_sizeBound some small (Nat.le_refl 1024)
    have place : (ratioExponent num den - minExponent).toNat ≤ 2044 := by omega
    have scaled : (ratioExponent num den - minExponent).toNat * fractionSize ≤ 2044 * fractionSize :=
      Nat.mul_le_mul_right _ place
    generalize roundHalfEven _ _ = m at mantissa ⊢
    rw [infinity]
    rw [fraction] at scaled ⊢
    split <;> omega

end Ratio

/-- An integer that is a double, rounded. -/
def IsSize (n : Int) : Prop :=
  n.natAbs < sizeBound

theorem IsSize.quotient {n : Int} (h : IsSize n) {den : Nat} (pos : 0 < den) : quotient n den = .ok (ofIntRatio n den) :=
  if_neg (Nat.not_le.2 (ratioBits_lt_infinityBits pos h))

theorem IsSize.short {n : Int} (h : IsSize n) : Short n :=
  calc n.natAbs < sizeBound := h
    _ < 2 ^ maxDigits := middle_lt (by decide)
    _ ≤ 10 ^ maxDigits := Nat.pow_le_pow_left (by decide) _

end ComicScript.Decimal
