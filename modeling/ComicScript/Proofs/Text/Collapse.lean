import ComicScript.Text.Blank

/-!
# Collapsed and trimmed text

Collapsing and trimming touch blanks alone: every other character stays, in its order, and the only blank that a collapsed
text can have is the space.
-/

namespace ComicScript.Text
set_option autoImplicit false

namespace Chars

section Kept

variable {p : Char → Bool} (keeps : ∀ c, isBlank c = true → p c = false)
include keeps

theorem filter_dropWhile_isBlank (s : List Char) : (s.dropWhile isBlank).filter p = s.filter p := by
  induction s with
  | nil => rfl
  | cons c rest ih =>
    rw [List.dropWhile_cons]
    split
    · rename_i blank
      rw [ih, List.filter_cons_of_neg (by simp [keeps c blank])]
    · rfl

/-- Trimming keeps all characters that are not blank. -/
theorem filter_trim (s : List Char) : (trim s).filter p = s.filter p := by
  rw [trim, trimRight, List.filter_reverse, filter_dropWhile_isBlank keeps, List.filter_reverse, List.reverse_reverse,
    filter_dropWhile_isBlank keeps]

theorem filter_squeezeFrom (afterBlank : Bool) (s : List Char) : (squeezeFrom afterBlank s).filter p = s.filter p := by
  have space : p ' ' = false := keeps ' ' (by decide)
  induction s generalizing afterBlank with
  | nil => rfl
  | cons c rest ih =>
    rw [squeezeFrom]
    by_cases blank : isBlank c = true
    · rw [if_pos blank, List.filter_cons_of_neg (by simp [keeps c blank])]
      split
      · exact ih _
      · rw [List.filter_cons_of_neg (by simp [space])]
        exact ih _
    · rw [if_neg blank, List.filter_cons, List.filter_cons, ih]

/-- Collapsing keeps all characters that are not blank. -/
theorem filter_collapse (s : List Char) : (collapse s).filter p = s.filter p := by
  rw [collapse, filter_trim keeps, squeeze, filter_squeezeFrom keeps]

end Kept

theorem beq_of_isBlank {c : Char} (visible : isBlank c = false) (d : Char) (blank : isBlank d = true) : (d == c) = false := by
  rw [beq_eq_false_iff_ne]
  rintro rfl
  rw [visible] at blank
  cases blank

theorem count_trim {c : Char} (visible : isBlank c = false) (s : List Char) : (trim s).count c = s.count c := by
  rw [List.count_eq_length_filter, filter_trim (beq_of_isBlank visible), List.count_eq_length_filter]

theorem count_collapse {c : Char} (visible : isBlank c = false) (s : List Char) : (collapse s).count c = s.count c := by
  rw [List.count_eq_length_filter, filter_collapse (beq_of_isBlank visible), List.count_eq_length_filter]

theorem sublist_trimRight (s : List Char) : (trimRight s).Sublist s := by
  have inside := (List.dropWhile_sublist isBlank (l := s.reverse)).reverse
  rwa [List.reverse_reverse] at inside

/-- Only what follows the last visible character is trimmed at the end. -/
theorem trimRight_append {s : List Char} (visible : ∀ c ∈ s.getLast?, isBlank c = false) (t : List Char) :
    trimRight (s ++ t) = s ++ trimRight t := by
  have whole : s.reverse.dropWhile isBlank = s.reverse := by
    cases last : s.reverse with
    | nil => rfl
    | cons c rest =>
      have kept := visible c (by rw [← List.head?_reverse, last]; rfl)
      rw [List.dropWhile_cons, kept, if_neg Bool.false_ne_true]
  rw [trimRight, trimRight, List.reverse_append, List.dropWhile_append]
  split
  · rename_i none
    rw [whole, List.isEmpty_iff.1 none, List.reverse_reverse, List.reverse_nil, List.append_nil]
  · rw [List.reverse_append, List.reverse_reverse]

theorem mem_of_mem_trim {c : Char} {s : List Char} (h : c ∈ trim s) : c ∈ s := by
  rw [trim, trimRight, List.mem_reverse] at h
  have inner := (List.dropWhile_suffix isBlank).subset h
  exact (List.dropWhile_suffix isBlank).subset (List.mem_reverse.1 inner)

theorem eq_space_or_of_mem_squeezeFrom {c : Char} {afterBlank : Bool} {s : List Char}
    (h : c ∈ squeezeFrom afterBlank s) : c = ' ' ∨ isBlank c = false := by
  induction s generalizing afterBlank with
  | nil => cases h
  | cons d rest ih =>
    rw [squeezeFrom] at h
    split at h
    · split at h
      · exact ih h
      · rcases List.mem_cons.1 h with rfl | later
        · exact .inl rfl
        · exact ih later
    · rename_i visible
      rcases List.mem_cons.1 h with rfl | later
      · exact .inr (by simpa using visible)
      · exact ih later

/-- A collapsed text has no blanks but spaces. -/
theorem eq_space_or_of_mem_collapse {c : Char} {s : List Char} (h : c ∈ collapse s) : c = ' ' ∨ isBlank c = false :=
  eq_space_or_of_mem_squeezeFrom (mem_of_mem_trim h)

end Chars

/-- A collapsed text has no line feed. -/
theorem lineFeed_not_mem_collapse (s : String) : '\n' ∉ (collapse s).toList := by
  intro member
  rw [collapse, String.toList_ofList] at member
  rcases Chars.eq_space_or_of_mem_collapse member with space | visible
  · exact absurd space (by decide)
  · exact absurd visible (by decide)

end ComicScript.Text
