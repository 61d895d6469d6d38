import ComicScript.Decimal.Integer
import ComicScript.Diagram.Svg
import ComicScript.Proofs.Decimal.Double
import ComicScript.Proofs.Decimal.Numeral
import ComicScript.Proofs.Decimal.Rounding
import ComicScript.Proofs.Decimal.Size
import Mathlib.Data.List.Basic

/-!
# Canonical decimals

A number in a drawing is written as a canonical decimal: an optional minus sign, digits without superfluous zeros in front,
and at most two places, the last of them not zero. What is written is the number itself, or a double rounded to hundredths.
-/

namespace ComicScript
set_option autoImplicit false

/-- The number that a value is, if it is a finite number. -/
def Value.number? : Value → Option ℚ
  | .int n => some n
  | .float x => Decimal.denoted? x.toModel.unpack
  | _ => none

namespace Decimal

/-- A canonical decimal, taken apart at its sign and its point: digits without a superfluous zero in front, at most two
places, the last of them not zero, and no minus sign with a zero alone. -/
@[ext]
structure Numeral where
  negative : Bool
  whole : List Char
  places : List Char
  nonempty : whole ≠ []
  digits : ∀ c ∈ whole ++ places, c.isDigit = true
  leading : whole.head? = some '0' → whole = ['0']
  short : places.length ≤ 2
  final : places.getLast? ≠ some '0'
  signed : negative = true → whole ≠ ['0'] ∨ places ≠ []

/-- The places behind a point; without any there is no point. -/
def pointed (places : List Char) : List Char :=
  if places = [] then [] else '.' :: places

namespace Numeral

/-- A decimal as it is written. -/
def text (w : Numeral) : List Char :=
  (if w.negative then ['-'] else []) ++ (w.whole ++ pointed w.places)

/-- The number that a decimal says. -/
def value (w : Numeral) : ℚ :=
  let size : ℚ := Nat.ofDigitChars 10 (w.whole ++ w.places) 0 / 10 ^ w.places.length
  if w.negative then -size else size

/-! ## Decimals are read back -/

/-- The sign, the digits in front of the point and those behind it. -/
def read (s : List Char) : Bool × List Char × List Char :=
  let (negative, body) := splitSign s
  (negative, body.takeWhile (· != '.'), (body.dropWhile (· != '.')).tail)

theorem splitSign_text (w : Numeral) : splitSign w.text = (w.negative, w.whole ++ pointed w.places) := by
  rw [text]
  cases w.negative with
  | true => rfl
  | false =>
    obtain ⟨c, rest, begins⟩ := List.exists_cons_of_ne_nil w.nonempty
    have digit : c.isDigit = true := w.digits c (by simp [begins])
    have minus : c ≠ '-' := fun same => absurd digit (same ▸ by decide)
    have plus : c ≠ '+' := fun same => absurd digit (same ▸ by decide)
    rw [begins]
    simp [splitSign, minus, plus]

theorem read_text (w : Numeral) : read w.text = (w.negative, w.whole, w.places) := by
  have digits : ∀ c ∈ w.whole, (c != '.') = true := fun c member => by
    have digit : c.isDigit = true := w.digits c (List.mem_append_left _ member)
    exact bne_iff_ne.2 fun same => absurd digit (same ▸ by decide)
  have behind : (pointed w.places).takeWhile (· != '.') = [] ∧
      ((pointed w.places).dropWhile (· != '.')).tail = w.places := by
    rw [pointed]
    split
    · rename_i none
      exact ⟨rfl, none.symm⟩
    · exact ⟨rfl, rfl⟩
  rw [read, splitSign_text]
  dsimp only
  rw [List.takeWhile_append_of_pos digits, List.dropWhile_append_of_pos digits, behind.1, behind.2, List.append_nil]

theorem text_inj {v w : Numeral} (same : v.text = w.text) : v = w := by
  have parts := congrArg read same
  rw [read_text, read_text, Prod.mk.injEq, Prod.mk.injEq] at parts
  exact Numeral.ext parts.1 parts.2.1 parts.2.2

/-- A decimal ends with a digit. -/
theorem exists_getLast?_text (w : Numeral) : ∃ c ∈ w.text.getLast?, c.isDigit = true := by
  have ending : ∃ ds, ∃ some : ds ≠ [], w.text.getLast? = ds.getLast? ∧ ∀ c ∈ ds, c ∈ w.whole ++ w.places := by
    rw [text, List.getLast?_append_of_ne_nil _ (List.append_ne_nil_of_left_ne_nil w.nonempty _)]
    by_cases none : w.places = []
    · refine ⟨w.whole, w.nonempty, ?_, fun c member => List.mem_append_left _ member⟩
      rw [pointed, if_pos none, List.append_nil]
    · refine ⟨w.places, none, ?_, fun c member => List.mem_append_right _ member⟩
      rw [pointed, if_neg none, List.append_cons, List.getLast?_append_of_ne_nil _ none]
  obtain ⟨ds, some, same, inside⟩ := ending
  rw [same, List.getLast?_eq_some_getLast some]
  exact ⟨ds.getLast some, rfl, w.digits _ (inside _ (List.getLast_mem some))⟩

end Numeral

/-! ## A number of hundredths -/

/-- A positive number has no zero in front. -/
theorem head?_toDigits {n : Nat} (pos : 0 < n) : (Nat.toDigits 10 n).head? ≠ some '0' := by
  induction n using Nat.strong_induction_on with
  | _ n ih =>
    rw [Nat.toDigits_eq_if (by decide)]
    split
    · simp only [List.head?_cons, ne_eq, Option.some.injEq, Nat.digitChar_eq_zero]
      omega
    · -- the last digit apart, the same digit stands in front
      rw [List.head?_append_of_ne_nil _ Nat.toDigits_ne_nil]
      exact ih (n / 10) (by omega) (by omega)

/-- The places after the point, down to the last one that is not zero. -/
def places (r : Nat) : List Char :=
  if r = 0 then []
  else if r % 10 = 0 then ['.', (r / 10).digitChar]
  else ['.', (r / 10).digitChar, (r % 10).digitChar]

/-- The text of a number of hundredths: no sign on zero, and no zeros at the end. -/
def hundredthsText (negative : Bool) (n : Nat) : List Char :=
  if n = 0 then ['0']
  else (if negative then ['-'] else []) ++ Nat.toDigits 10 (n / 100) ++ places (n % 100)

theorem pointed_tail_places (r : Nat) : pointed (places r).tail = places r := by
  unfold places
  split
  · rfl
  · split <;> rfl

/-- Hundredths have no places, one that is not zero, or two of which the second is not zero. -/
theorem tail_places_cases {r : Nat} (bound : r < 100) :
    (r = 0 ∧ (places r).tail = []) ∨
    (∃ t < 10, 0 < t ∧ r = 10 * t ∧ (places r).tail = [t.digitChar]) ∨
    ∃ t < 10, ∃ u < 10, 0 < u ∧ r = 10 * t + u ∧ (places r).tail = [t.digitChar, u.digitChar] := by
  unfold places
  split
  · rename_i none
    exact .inl ⟨none, rfl⟩
  · split
    · exact .inr (.inl ⟨r / 10, by omega, by omega, by omega, rfl⟩)
    · exact .inr (.inr ⟨r / 10, by omega, r % 10, by omega, by omega, by omega, rfl⟩)

theorem isDigit_of_mem_tail_places {r : Nat} (bound : r < 100) : ∀ c ∈ (places r).tail, c.isDigit = true := by
  rcases tail_places_cases bound with ⟨-, same⟩ | ⟨t, tens, -, -, same⟩ | ⟨t, tens, u, units, -, -, same⟩ <;> rw [same]
  · simp
  · simpa using tens
  · simpa using And.intro tens units

theorem getLast?_tail_places {r : Nat} (bound : r < 100) : (places r).tail.getLast? ≠ some '0' := by
  rcases tail_places_cases bound with ⟨-, same⟩ | ⟨t, -, pos, -, same⟩ | ⟨t, -, u, -, pos, -, same⟩ <;> rw [same]
  · simp
  · simpa using pos.ne'
  · simpa using pos.ne'

theorem length_tail_places {r : Nat} (bound : r < 100) : (places r).tail.length ≤ 2 := by
  rcases tail_places_cases bound with ⟨-, same⟩ | ⟨t, -, -, -, same⟩ | ⟨t, -, u, -, -, -, same⟩ <;> rw [same] <;> simp

theorem eq_zero_of_tail_places {r : Nat} (bound : r < 100) (none : (places r).tail = []) : r = 0 := by
  rcases tail_places_cases bound with ⟨zero, -⟩ | ⟨t, -, -, -, same⟩ | ⟨t, -, u, -, -, -, same⟩
  · exact zero
  · simp [same] at none
  · simp [same] at none

/-- The digits of a number of hundredths, in front of the point and behind it, are read as that number. -/
theorem ofDigitChars_hundredths (n : Nat) :
    100 * Nat.ofDigitChars 10 (Nat.toDigits 10 (n / 100) ++ (places (n % 100)).tail) 0 =
      n * 10 ^ (places (n % 100)).tail.length := by
  have parts := Nat.div_add_mod n 100
  rw [Nat.ofDigitChars_append, Nat.ofDigitChars_ten_toDigits]
  rcases tail_places_cases (Nat.mod_lt n (by decide : 100 > 0)) with
    ⟨none, same⟩ | ⟨t, tens, -, sum, same⟩ | ⟨t, tens, u, units, -, sum, same⟩ <;> rw [same]
  · simp only [Nat.ofDigitChars_nil, List.length_nil]
    omega
  · simp only [Nat.ofDigitChars_cons_digitChar_of_lt_ten tens, Nat.ofDigitChars_nil, List.length_singleton]
    omega
  · simp only [Nat.ofDigitChars_cons_digitChar_of_lt_ten tens, Nat.ofDigitChars_cons_digitChar_of_lt_ten units,
      Nat.ofDigitChars_nil, List.length_cons, List.length_nil]
    omega

/-- The canonical decimal of a number of hundredths. -/
def Numeral.ofHundredths (k : ℤ) : Numeral where
  negative := decide (k < 0)
  whole := Nat.toDigits 10 (k.natAbs / 100)
  places := (Decimal.places (k.natAbs % 100)).tail
  nonempty := Nat.toDigits_ne_nil
  digits := by
    intro c member
    rcases List.mem_append.1 member with whole | part
    · exact Nat.isDigit_of_mem_toDigits (b := 10) (by decide) (by decide) whole
    · exact isDigit_of_mem_tail_places (Nat.mod_lt _ (by decide)) c part
  leading := by
    intro zero
    rcases Nat.eq_zero_or_pos (k.natAbs / 100) with none | pos
    · rw [none, Nat.toDigits_zero]
    · exact absurd zero (head?_toDigits pos)
  short := length_tail_places (Nat.mod_lt _ (by decide))
  final := getLast?_tail_places (Nat.mod_lt _ (by decide))
  signed := by
    intro below
    by_contra bare
    obtain ⟨zero, none⟩ := not_or.1 bare
    have noPlaces := eq_zero_of_tail_places (Nat.mod_lt _ (by decide)) (not_not.1 none)
    have noWhole : k.natAbs / 100 = 0 := by
      by_contra some
      exact head?_toDigits (Nat.pos_of_ne_zero some) (by rw [not_not.1 zero]; rfl)
    simp only [decide_eq_true_eq] at below
    omega

namespace Numeral

/-- What is written of hundredths with a sign is their canonical decimal. -/
theorem text_ofHundredths (negative : Bool) (n : Nat) {k : ℤ} (signed : k = if negative then -(n : ℤ) else n) :
    (ofHundredths k).text = hundredthsText negative n := by
  have size : k.natAbs = n := by
    rw [signed]
    split <;> simp
  change (if decide (k < 0) = true then ['-'] else []) ++
    (Nat.toDigits 10 (k.natAbs / 100) ++ pointed (Decimal.places (k.natAbs % 100)).tail) = _
  rw [pointed_tail_places, size, hundredthsText]
  rcases Nat.eq_zero_or_pos n with none | some
  · obtain rfl : k = 0 := by omega
    rw [none]
    rfl
  · have sign : decide (k < 0) = negative := by
      cases negative <;> simp at signed ⊢ <;> omega
    rw [sign, if_neg some.ne', List.append_assoc]

theorem value_ofHundredths (k : ℤ) : (ofHundredths k).value = k / 100 := by
  have size : (Nat.ofDigitChars 10 ((ofHundredths k).whole ++ (ofHundredths k).places) 0 : ℚ) /
      10 ^ (ofHundredths k).places.length = k.natAbs / 100 := by
    rw [div_eq_div_iff (by positivity) (by norm_num), mul_comm]
    exact_mod_cast ofDigitChars_hundredths k.natAbs
  rw [value, size, Nat.cast_natAbs]
  change (if decide (k < 0) = true then _ else _) = _
  split
  · rename_i below
    rw [abs_of_neg (of_decide_eq_true below), Int.cast_neg, neg_div, neg_neg]
  · rename_i above
    rw [abs_of_nonneg (by simpa using above)]

theorem ofHundredths_inj {k l : ℤ} (same : ofHundredths k = ofHundredths l) : k = l := by
  have values := congrArg value same
  rw [value_ofHundredths, value_ofHundredths, div_left_inj' (by norm_num)] at values
  exact_mod_cast values

/-- There is no minus sign in front of a zero alone. -/
theorem text_ne (w : Numeral) : w.text ≠ ['-', '0'] := by
  intro same
  have parts : (w.negative, w.whole, w.places) = (true, ['0'], []) := (read_text w).symm.trans (same ▸ rfl)
  simp only [Prod.mk.injEq] at parts
  obtain ⟨negative, whole, places⟩ := parts
  exact (w.signed negative).elim (· whole) (· places)

end Numeral

/-! ## Written numbers -/

/-- Digits in front of a point do not end with one. -/
theorem stripRight_point (sign : List Char) (n : Nat) :
    stripRight '.' (sign ++ Nat.toDigits 10 n) = sign ++ Nat.toDigits 10 n := by
  obtain none | ⟨front, d, digits⟩ := (Nat.toDigits 10 n).eq_nil_or_concat'
  · exact absurd none Nat.toDigits_ne_nil
  · have last : d ∈ Nat.toDigits 10 n := by simp [digits]
    have digit : d.isDigit = true := Nat.isDigit_of_mem_toDigits (b := 10) (by decide) (by decide) last
    have point : d ≠ '.' := fun same => absurd digit (same ▸ by decide)
    rw [digits, ← List.append_assoc, stripRight_concat, if_neg point]

/-- Of two places behind digits the zeros at the end are dropped, and the point if nothing is left behind it. -/
theorem stripRight_places {whole : List Char} (kept : stripRight '.' whole = whole) (t u : Nat) :
    stripRight '.' (stripRight '0' (whole ++ ['.', t.digitChar, u.digitChar])) =
      whole ++ if u ≠ 0 then ['.', t.digitChar, u.digitChar] else if t ≠ 0 then ['.', t.digitChar] else [] := by
  have point {d : Nat} : d.digitChar ≠ '.' := Nat.digitChar_ne '.' (by decide)
  have split : whole ++ ['.', t.digitChar, u.digitChar] = whole ++ ['.'] ++ [t.digitChar] ++ [u.digitChar] := by simp
  have zero : ('.' : Char) ≠ '0' := by decide
  rw [split, stripRight_concat]
  by_cases last : u = 0
  · rw [if_pos (Nat.digitChar_eq_zero.2 last), stripRight_concat, if_neg (not_not.2 last)]
    by_cases first : t = 0
    · rw [if_pos (Nat.digitChar_eq_zero.2 first), stripRight_concat, if_neg zero, stripRight_concat, if_pos rfl, kept,
        if_neg (not_not.2 first), List.append_nil]
    · rw [if_neg (mt Nat.digitChar_eq_zero.1 first), stripRight_concat, if_neg point, if_pos first]
      simp
  · rw [if_neg (mt Nat.digitChar_eq_zero.1 last), stripRight_concat, if_neg point, if_pos last]
    simp

/-- What is left of two places are those down to the last one that is not zero. -/
theorem stripRight_twoPlaces (negative : Bool) (n : Nat) : stripRight '.' (stripRight '0' (twoPlaces negative n)) =
    (if negative then ['-'] else []) ++ Nat.toDigits 10 (n / 100) ++ places (n % 100) := by
  rw [twoPlaces, stripRight_places (stripRight_point _ _), places]
  congr 1
  by_cases last : n % 100 % 10 = 0
  · rw [if_neg (not_not.2 last), if_pos last]
    by_cases first : n % 100 / 10 = 0
    · rw [if_neg (not_not.2 first), if_pos (by omega)]
    · rw [if_pos first, if_neg (by omega)]
  · rw [if_pos last, if_neg last, if_neg (by omega)]

/-- A finite double is written as its hundredths. -/
theorem roundedText_of_finite {x : Float} {d : Dyadic} (h : exact x = .finite d) :
    roundedText x = String.ofList (hundredthsText d.negative d.hundredths) := by
  have fixed : fixedText x = twoPlaces d.negative d.hundredths := by rw [fixedText, h]
  rw [roundedText, fixed, stripRight_twoPlaces]
  generalize d.negative = negative, d.hundredths = n
  rcases Nat.eq_zero_or_pos n with rfl | pos
  · cases negative <;> rfl
  · have text : hundredthsText negative n =
        (if negative then ['-'] else []) ++ Nat.toDigits 10 (n / 100) ++ places (n % 100) := if_neg pos.ne'
    have canonical := Numeral.text_ofHundredths negative n rfl
    have visible : hundredthsText negative n ≠ [] := by
      rw [text]
      exact List.append_ne_nil_of_left_ne_nil (List.append_ne_nil_of_right_ne_nil _ Nat.toDigits_ne_nil) _
    have signed : hundredthsText negative n ≠ ['-', '0'] := canonical ▸ Numeral.text_ne _
    rw [← text, if_neg (not_or.2 ⟨visible, signed⟩)]

theorem rounds_value (d : Dyadic) : Rounds d.value (if d.negative then -(d.hundredths : ℤ) else d.hundredths) := by
  have size := Rounds.ratio d.num d.den_pos
  rw [Dyadic.value]
  split
  · exact size.neg
  · exact size

/-- A whole number of hundreds has no places. -/
theorem hundredthsText_whole (negative : Bool) {n : Nat} (pos : 0 < n) :
    hundredthsText negative (100 * n) = (if negative then ['-'] else []) ++ Nat.toDigits 10 n := by
  rw [hundredthsText, if_neg (by omega), Nat.mul_div_cancel_left n (by decide), Nat.mul_mod_right, places, if_pos rfl,
    List.append_nil]

/-- An integer is written like as many hundreds of hundredths. -/
theorem toList_toString (n : ℤ) : (toString n).toList = (Numeral.ofHundredths (100 * n)).text := by
  cases n with
  | ofNat n =>
    have digits : (toString (Int.ofNat n)).toList = Nat.toDigits 10 n := Nat.toList_repr
    rw [digits]
    rcases Nat.eq_zero_or_pos n with rfl | pos
    · rfl
    · rw [Numeral.text_ofHundredths false (100 * n) (by simp), hundredthsText_whole false pos]
      rfl
  | negSucc n =>
    rw [toList_toString_negSucc, Numeral.text_ofHundredths true (100 * (n + 1)) (by simp; omega),
      hundredthsText_whole true n.succ_pos]
    rfl

theorem plain_int {n : ℤ} (short : Short n) :
    Svg.plain (.int n) = .ok (String.ofList (Numeral.ofHundredths (100 * n)).text) := by
  have text : toString n = String.ofList (Numeral.ofHundredths (100 * n)).text :=
    String.toList_inj.1 ((toList_toString n).trans String.toList_ofList.symm)
  exact text ▸ short.intText

/-- A double has far fewer digits than a numeral may have. -/
theorem num_lt_of_exact {x : Float} {d : Dyadic} (h : exact x = .finite d) : d.num < 10 ^ maxDigits := by
  have parts : d.mantissa < 2 ^ 53 ∧ d.exponent ≤ 971 := by
    have fraction : x.toBits.toNat % fractionSize < 2 ^ 52 := Nat.mod_lt _ (by decide)
    have biased : x.toBits.toNat / fractionSize % 2048 < 2048 := Nat.mod_lt _ (by decide)
    have size : fractionSize = 2 ^ 52 := rfl
    unfold exact at h
    dsimp only at h
    split at h
    · split at h <;> cases h
    · split at h
      · cases h
        exact ⟨fraction.trans (by decide), (by decide : minExponent ≤ 971)⟩
      · cases h
        have least : minExponent = -1074 := rfl
        have mantissa : x.toBits.toNat % fractionSize + fractionSize < 2 ^ 53 := by omega
        have exponent : ((x.toBits.toNat / fractionSize % 2048 : Nat) : ℤ) + minExponent - 1 ≤ 971 := by omega
        exact ⟨mantissa, exponent⟩
  calc d.num ≤ d.mantissa * 2 ^ d.exponent.toNat := le_of_eq (by rw [Dyadic.num, Nat.pow_eq])
    _ < 2 ^ 53 * 2 ^ d.exponent.toNat := Nat.mul_lt_mul_of_pos_right parts.1 (Nat.two_pow_pos _)
    _ = 2 ^ (53 + d.exponent.toNat) := (pow_add ..).symm
    _ ≤ 2 ^ maxDigits := Nat.pow_le_pow_right (by decide) (by rw [maxDigits]; omega)
    _ ≤ 10 ^ maxDigits := Nat.pow_le_pow_left (by decide) _

/-- An integer that is a double is short. -/
theorem short_of_value {x : Float} {d : Dyadic} (h : exact x = .finite d) {n : ℤ} (same : d.value = n) : Short n := by
  have size : (n.natAbs : ℚ) = d.num / d.den := by
    rw [Nat.cast_natAbs, Int.cast_abs, ← same, Dyadic.value]
    split <;> simp [abs_div]
  have below : (n.natAbs : ℚ) ≤ d.num := by
    rw [size]
    exact div_le_self (Nat.cast_nonneg _) (by exact_mod_cast d.den_pos)
  exact lt_of_le_of_lt (by exact_mod_cast below) (num_lt_of_exact h)

/-- A finite number is written as the canonical decimal of a number of hundredths that it is rounded to, unless it is an
integer too long for a numeral. -/
theorem exists_hundredths {v : Value} {q : ℚ} (finite : v.number? = some q) :
    ∃ k, Rounds q k ∧ ((∀ n, v = .int n → Short n) →
      Svg.plain v = .ok (String.ofList (Numeral.ofHundredths k).text) ∧ ∀ n : ℤ, q = n → Short n) := by
  cases v with
  | int n =>
    obtain rfl : (n : ℚ) = q := Option.some.inj finite
    refine ⟨100 * n, .intCast n, fun short => ⟨plain_int (short n rfl), fun m same => ?_⟩⟩
    rw [← Int.cast_injective same]
    exact short n rfl
  | float x =>
    rw [Value.number?, ← value?_exact] at finite
    cases read : exact x with
    | finite d =>
      rw [read] at finite
      obtain rfl : d.value = q := Option.some.inj finite
      refine ⟨_, rounds_value d, fun _ => ⟨?_, fun n => short_of_value read⟩⟩
      rw [Svg.plain, roundedText_of_finite read, Numeral.text_ofHundredths _ _ rfl]
    | infinite negative => simp [read, Exact.value?] at finite
    | notANumber => simp [read, Exact.value?] at finite
  | _ => cases finite

/-- An integer is written exactly if it is short, a double always. -/
theorem short_of_plain {v : Value} {s : String} (h : Svg.plain v = .ok s) : ∀ n, v = .int n → Short n := by
  rintro n rfl
  exact (short_of_intText h).1

theorem plain_error_iff {v : Value} {q : ℚ} (finite : v.number? = some q) :
    Svg.plain v = .error .tooManyDigits ↔ ∃ n, v = .int n ∧ ¬ Short n := by
  constructor
  · intro failed
    by_contra short
    obtain ⟨k, -, written⟩ := exists_hundredths finite
    have text := (written fun n same => not_not.1 fun long => short ⟨n, same, long⟩).1
    rw [failed] at text
    cases text
  · rintro ⟨n, rfl, long⟩
    exact intText_of_not_short long

/-- A written number is rounded to one number of hundredths only, and written as that. -/
theorem exists_unique_hundredths {v : Value} {q : ℚ} (finite : v.number? = some q) {s : String}
    (h : Svg.plain v = .ok s) : ∃ k, (∀ j, Rounds q j ↔ j = k) ∧ s = String.ofList (Numeral.ofHundredths k).text := by
  obtain ⟨k, rounds, written⟩ := exists_hundredths finite
  have text := (written (short_of_plain h)).1
  rw [h] at text
  exact ⟨k, fun j => ⟨fun h => h.unique rounds, fun same => same ▸ rounds⟩, Except.ok.inj text⟩

theorem plain_eq_iff {u v : Value} {q r : ℚ} (hu : u.number? = some q) (hv : v.number? = some r) {s t : String}
    (shown : Svg.plain u = .ok s) (other : Svg.plain v = .ok t) : s = t ↔ ∀ j, Rounds q j ↔ Rounds r j := by
  obtain ⟨k, onlyK, rfl⟩ := exists_unique_hundredths hu shown
  obtain ⟨l, onlyL, rfl⟩ := exists_unique_hundredths hv other
  simp only [onlyK, onlyL]
  constructor
  · intro same
    have equal : k = l := Numeral.ofHundredths_inj (Numeral.text_inj (String.ofList_injective same))
    simp [equal]
  · intro same
    rw [(same k).1 rfl]

/-- **Numbers are written as canonical decimals.** A finite number is written unless it is an integer of more digits than a
numeral may have. What is written is a decimal without superfluous zeros, of at most two places, never a minus sign with a
zero, and with a digit at its end. The decimal is the one number of hundredths that the number is rounded to, a tie to the
even one, so an integer stays what it is. Two numbers are written alike exactly if they are rounded alike, and a double that
is a whole number is written like that integer. -/
theorem numbers_canonical {v : Value} {q : ℚ} (finite : v.number? = some q) :
    (Svg.plain v = .error .tooManyDigits ↔ ∃ n, v = .int n ∧ 10 ^ maxDigits ≤ n.natAbs) ∧
    ((∀ n, v = .int n → n.natAbs < 10 ^ maxDigits) → ∃ s, Svg.plain v = .ok s ∧
      (∃ (w : Numeral) (k : ℤ), s = String.ofList w.text ∧ w.value = k / 100 ∧ (∀ j, Rounds q j ↔ j = k) ∧
        ∀ n, v = .int n → w.value = n) ∧
      s ≠ "-0" ∧ (∃ c ∈ s.toList.getLast?, c.isDigit = true) ∧
      (∀ {u : Value} {r : ℚ} {t : String}, u.number? = some r → Svg.plain u = .ok t →
        (s = t ↔ ∀ j, Rounds q j ↔ Rounds r j)) ∧
      ∀ n : ℤ, q = n → Svg.plain (.int n) = .ok s) := by
  refine ⟨?_, fun short => ?_⟩
  · rw [plain_error_iff finite]
    simp only [Short, not_lt]
  · obtain ⟨k, -, known⟩ := exists_hundredths finite
    obtain ⟨text, whole⟩ := known short
    obtain ⟨l, only, written⟩ := exists_unique_hundredths finite text
    have chars : (String.ofList (Numeral.ofHundredths k).text).toList = (Numeral.ofHundredths k).text :=
      String.toList_ofList
    obtain rfl : k = l := Numeral.ofHundredths_inj (Numeral.text_inj (String.ofList_injective written))
    refine ⟨_, text, ⟨.ofHundredths k, k, rfl, Numeral.value_ofHundredths k, only, ?_⟩, ?_, ?_, fun known other =>
      plain_eq_iff finite known text other, ?_⟩
    · rintro n rfl
      obtain rfl : (n : ℚ) = q := Option.some.inj finite
      rw [Numeral.value_ofHundredths, ← (only (100 * n)).1 (.intCast n)]
      push_cast
      ring
    · intro minusZero
      rw [minusZero] at chars
      exact (Numeral.ofHundredths k).text_ne chars.symm
    · rw [chars]
      exact Numeral.exists_getLast?_text _
    · rintro n rfl
      rw [plain_int (whole n rfl), (only (100 * n)).1 (.intCast n)]

/-- A tie that goes to the even neighbour, a double near it that is rounded alike, and a double with zeros in front of its
point. -/
theorem numbers_canonical_tie :
    let tie : Value := .float (-0.375)
    let near : Value := .float (-0.3828125)
    let hundred : Value := .float 100.0
    (tie.number? = some (-3 / 8) ∧ near.number? = some (-49 / 128) ∧ hundred.number? = some 100) ∧
      (∃ w : Numeral, Svg.plain tie = .ok (String.ofList w.text) ∧ w.value = -38 / 100) ∧
      Svg.plain tie = Svg.plain near ∧ Svg.plain hundred = Svg.plain (.int 100) := by
  intro tie near hundred
  have tieParts : (-0.375 : Float).toModel.unpack = .finite .negative 6755399441055744 (-54) (by decide) := rfl
  have nearParts : (-0.3828125 : Float).toModel.unpack = .finite .negative 6896136929411072 (-54) (by decide) := rfl
  have hundredParts : (100.0 : Float).toModel.unpack = .finite .positive 7036874417766400 (-46) (by decide) := rfl
  have tieNumber : tie.number? = some (-3 / 8) := by
    rw [Value.number?, tieParts, denoted?]
    norm_num [Float.Model.UnpackedFloat.Sign.apply]
  have nearNumber : near.number? = some (-49 / 128) := by
    rw [Value.number?, nearParts, denoted?]
    norm_num [Float.Model.UnpackedFloat.Sign.apply]
  have hundredNumber : hundred.number? = some 100 := by
    rw [Value.number?, hundredParts, denoted?]
    norm_num [Float.Model.UnpackedFloat.Sign.apply]
  have tieRounds : Rounds (-3 / 8) (-38) := by
    rw [Rounds.iff_half]
    exact ⟨by norm_num, fun _ => by decide⟩
  have nearRounds : Rounds (-49 / 128) (-38) := by
    rw [Rounds.iff_half]
    exact ⟨by norm_num [abs], fun _ => by decide⟩
  obtain ⟨-, written⟩ := numbers_canonical tieNumber
  obtain ⟨-, writtenNear⟩ := numbers_canonical nearNumber
  obtain ⟨-, writtenHundred⟩ := numbers_canonical hundredNumber
  obtain ⟨text, shown, ⟨w, k, rfl, value, only, -⟩, -, -, alike, -⟩ := written fun n => Value.noConfusion
  obtain ⟨textNear, shownNear, -⟩ := writtenNear fun n => Value.noConfusion
  obtain ⟨textHundred, shownHundred, -, -, -, -, whole⟩ := writtenHundred fun n => Value.noConfusion
  refine ⟨⟨tieNumber, nearNumber, hundredNumber⟩, ⟨w, shown, ?_⟩, ?_, ?_⟩
  · rw [value, ← (only (-38)).1 tieRounds]
    norm_num
  · have same := (alike nearNumber shownNear).2 fun j =>
      ⟨fun h => h.unique tieRounds ▸ nearRounds, fun h => h.unique nearRounds ▸ tieRounds⟩
    rw [shown, shownNear, same]
  · rw [shownHundred, whole 100 (by norm_num)]

/-- The least integer that is too long is not written, and a boolean, which passes for an integer, is written as a word. -/
theorem plain_of_long_integer :
    let n : ℤ := 10 ^ maxDigits
    ((Value.int n).number? = some n ∧ Svg.plain (.int n) = .error .tooManyDigits) ∧ Svg.plain (.bool true) = .ok "True" := by
  intro n
  have long : ¬ Short n := not_short_ten_pow
  exact ⟨⟨rfl, intText_of_not_short long⟩, rfl⟩

end Decimal

end ComicScript
