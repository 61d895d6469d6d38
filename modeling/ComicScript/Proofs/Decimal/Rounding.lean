import ComicScript.Decimal.Binary
import Mathlib.Algebra.Order.Field.Basic
import Mathlib.Algebra.Order.Field.Rat
import Mathlib.Algebra.Ring.Int.Parity
import Mathlib.Data.Rat.Cast.Order
import Mathlib.Tactic.Linarith
import Mathlib.Tactic.Ring

/-!
# Rounding to hundredths

Every fraction has exactly one number of hundredths that it is rounded to: the nearest, and of two equally near ones the
even one. Rounding a quotient of whole numbers half to even finds it.
-/

namespace ComicScript.Decimal
set_option autoImplicit false

/-- What is left over when a quotient is rounded half to even: no more than half of the divisor, and half of it only where
the result is even. -/
theorem roundHalfEven_spec (num : Nat) {den : Nat} (pos : 0 < den) :
    ∃ left : ℤ, (num : ℤ) = roundHalfEven num den * den + left ∧ 2 * |left| ≤ den ∧
      (2 * |left| = den → Even (roundHalfEven num den)) := by
  have down : (num : ℤ) = (num / den : Nat) * den + (num % den : Nat) := by
    exact_mod_cast (Nat.div_add_mod' num den).symm
  have up : (num : ℤ) = (num / den + 1 : Nat) * den + ((num % den : Nat) - den) := by
    rw [down, Nat.cast_succ]
    ring
  have short : num % den < den := Nat.mod_lt num pos
  have below : |((num % den : Nat) : ℤ)| = (num % den : Nat) := abs_of_nonneg (Int.natCast_nonneg _)
  have above : |((num % den : Nat) : ℤ) - den| = den - (num % den : Nat) := by
    rw [abs_of_nonpos (by omega), neg_sub]
  unfold roundHalfEven
  dsimp only
  split
  · exact ⟨_, down, by omega, by omega⟩
  · split
    · exact ⟨_, up, by omega, by omega⟩
    · split
      · rename_i even
        exact ⟨_, down, by omega, fun _ => Nat.even_iff.2 even⟩
      · rename_i odd
        exact ⟨_, up, by omega, fun _ => Nat.even_iff.2 (by omega)⟩

/-- A number of hundredths is the nearest to a fraction, and of two equally near ones it is the even one. -/
structure Rounds (q : ℚ) (k : ℤ) : Prop where
  nearest : ∀ j : ℤ, |q - k / 100| ≤ |q - j / 100|
  even : ∀ j : ℤ, j ≠ k → |q - j / 100| = |q - k / 100| → Even k

namespace Rounds

variable {q : ℚ} {j k : ℤ}

/-- A distance, in hundredths. -/
theorem abs_sub_div (q : ℚ) (j : ℤ) : |q - j / 100| = |100 * q - j| / 100 := by
  rw [show q - j / 100 = (100 * q - j) / 100 by ring, abs_div, abs_of_pos (by norm_num : (0 : ℚ) < 100)]

/-- Two different numbers of hundredths lie at least one apart. -/
theorem one_le_add (q : ℚ) (differ : j ≠ k) : 1 ≤ |100 * q - j| + |100 * q - k| := by
  have apart : (1 : ℚ) ≤ |(k : ℚ) - j| := by exact_mod_cast Int.one_le_abs (sub_ne_zero.2 differ.symm)
  have triangle := abs_sub (100 * q - j) (100 * q - k)
  rw [show 100 * q - j - (100 * q - k) = k - j by ring] at triangle
  exact apart.trans triangle

/-- On the far side of the fraction lies a number of hundredths just one away. -/
theorem exists_neighbour (q : ℚ) (k : ℤ) : ∃ j ≠ k, |100 * q - j| = abs (1 - |100 * q - k|) := by
  rcases abs_cases (100 * q - k) with ⟨same, -⟩ | ⟨same, -⟩
  · refine ⟨k + 1, by omega, ?_⟩
    rw [same, ← abs_neg]
    push_cast
    ring_nf
  · refine ⟨k - 1, by omega, ?_⟩
    rw [same]
    push_cast
    ring_nf

/-- A fraction is rounded to what is no more than half a hundredth away from it, and to an odd number of hundredths only if
it is nearer than that. -/
theorem iff_half : Rounds q k ↔ 2 * |100 * q - k| ≤ 1 ∧ (2 * |100 * q - k| = 1 → Even k) := by
  have scale : (0 : ℚ) < 100 := by norm_num
  constructor
  · rintro ⟨nearest, even⟩
    obtain ⟨j, differ, far⟩ := exists_neighbour q k
    have near := nearest j
    have tie := even j differ
    rw [abs_sub_div, abs_sub_div, far] at near tie
    rw [div_le_div_iff_of_pos_right scale] at near
    refine ⟨?_, fun half => tie ?_⟩
    · rcases abs_cases (1 - |100 * q - k|) with ⟨same, -⟩ | ⟨same, -⟩ <;> linarith
    · rw [abs_of_nonneg (by linarith)]
      linarith
  · rintro ⟨half, even⟩
    refine ⟨fun j => ?_, fun j differ tie => even ?_⟩
    · rw [abs_sub_div, abs_sub_div, div_le_div_iff_of_pos_right scale]
      rcases eq_or_ne j k with rfl | differ
      · exact le_refl _
      · have apart := one_le_add q differ
        linarith
    · rw [abs_sub_div, abs_sub_div] at tie
      have apart := one_le_add q differ
      linarith

/-- A fraction is rounded to one number of hundredths only: of two, both would be even and no more than one apart. -/
theorem unique (hj : Rounds q j) (hk : Rounds q k) : j = k := by
  by_contra differ
  have alike := le_antisymm (hj.nearest k) (hk.nearest j)
  have evenJ := hj.even k (Ne.symm differ) alike.symm
  have evenK := hk.even j differ alike
  have close : |(j : ℚ) - k| ≤ 1 := by
    have triangle := abs_sub (100 * q - k) (100 * q - j)
    have halfJ := (iff_half.1 hj).1
    have halfK := (iff_half.1 hk).1
    rw [show 100 * q - k - (100 * q - j) = j - k by ring] at triangle
    linarith
  have integers : |j - k| ≤ 1 := by exact_mod_cast close
  rw [Int.even_iff] at evenJ evenK
  rw [abs_le] at integers
  omega

theorem neg (h : Rounds q k) : Rounds (-q) (-k) := by
  obtain ⟨half, even⟩ := iff_half.1 h
  have same : |100 * -q - ((-k : ℤ) : ℚ)| = |100 * q - k| := by
    rw [← abs_neg]
    push_cast
    ring_nf
  rw [iff_half, same]
  exact ⟨half, fun tie => (even tie).neg⟩

theorem intCast (n : ℤ) : Rounds n (100 * n) := by
  rw [iff_half]
  push_cast
  simp

/-- The quotient of a hundredfold, rounded half to even, is a rounding. -/
theorem ratio (num : Nat) {den : Nat} (pos : 0 < den) :
    Rounds (num / den : ℚ) (roundHalfEven (100 * num) den : Nat) := by
  obtain ⟨left, split, half, even⟩ := roundHalfEven_spec (100 * num) pos
  have positive : (0 : ℚ) < den := Nat.cast_pos.2 pos
  have rest : 100 * (num / den : ℚ) - ((roundHalfEven (100 * num) den : Nat) : ℤ) = left / den := by
    have sum : (100 * num : ℚ) = roundHalfEven (100 * num) den * den + left := by exact_mod_cast split
    rw [← mul_div_assoc, sum, add_div, mul_div_cancel_right₀ _ positive.ne', Int.cast_natCast, add_sub_cancel_left]
  rw [iff_half, rest, abs_div, abs_of_pos positive, ← mul_div_assoc, div_le_one positive, div_eq_one_iff_eq positive.ne']
  exact_mod_cast And.intro half even

end Rounds

end ComicScript.Decimal
