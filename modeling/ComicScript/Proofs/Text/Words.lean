import ComicScript.Proofs.Text.Collapse

/-!
# The words of a text

The words of a text are its longest runs of characters that are not blank. A collapsed text is its words with one space
between any two of them; it has the words of the text that it was made of, so collapsing it again changes nothing.
-/

namespace ComicScript.Text
set_option autoImplicit false

namespace Chars

/-- The longest runs of characters that are not blank. -/
def words (s : List Char) : List (List Char) :=
  (s.splitOnP isBlank).filter (!·.isEmpty)

/-- A blank stands between words. -/
theorem words_append_cons {c : Char} (blank : isBlank c = true) (a b : List Char) :
    words (a ++ c :: b) = words a ++ words b := by
  rw [words, List.splitOnP_append_cons a b blank, List.filter_append]
  rfl

/-- A text without blanks is one word. -/
theorem words_eq_singleton {w : List Char} (some : w ≠ []) (visible : ∀ c ∈ w, isBlank c = false) : words w = [w] := by
  rw [words, List.splitOnP_eq_singleton visible]
  simp [some]

/-- Words are not empty and have no blanks. -/
theorem word_of_mem_words {s w : List Char} (h : w ∈ words s) : w ≠ [] ∧ ∀ c ∈ w, isBlank c = false := by
  obtain ⟨piece, some⟩ := List.mem_filter.1 h
  refine ⟨by simpa using some, fun c member => ?_⟩
  clear h some
  induction s generalizing w with
  | nil =>
    obtain rfl : w = [] := by simpa [List.splitOnP_nil] using piece
    cases member
  | cons d rest ih =>
    obtain ⟨first, others, cut⟩ := List.exists_cons_of_ne_nil (List.splitOnP_ne_nil isBlank rest)
    rw [List.splitOnP_cons_eq_if_modifyHead, cut] at piece
    rw [cut] at ih
    split at piece
    · rcases List.mem_cons.1 piece with rfl | later
      · cases member
      · exact ih later member
    · rename_i visible
      rcases List.mem_cons.1 piece with rfl | later
      · rcases List.mem_cons.1 member with rfl | inner
        · simpa using visible
        · exact ih List.mem_cons_self inner
      · exact ih (List.mem_cons_of_mem _ later) member

/-- Words that are joined by spaces are the words of the joined text. -/
theorem words_intercalate {ws : List (List Char)} (h : ∀ w ∈ ws, w ≠ [] ∧ ∀ c ∈ w, isBlank c = false) :
    words ([' '].intercalate ws) = ws := by
  induction ws with
  | nil => rfl
  | cons w rest ih =>
    obtain ⟨some, visible⟩ := h w List.mem_cons_self
    have others := ih fun other member => h other (List.mem_cons_of_mem _ member)
    cases rest with
    | nil => rw [List.intercalate_singleton, words_eq_singleton some visible]
    | cons next rest =>
      rw [List.intercalate_cons_cons, List.append_assoc, List.singleton_append, words_append_cons (by decide), others,
        words_eq_singleton some visible]
      rfl

/-! ## Collapsed text -/

theorem trimRight_cons_of_visible {c : Char} (visible : isBlank c = false) (s : List Char) :
    trimRight (c :: s) = c :: trimRight s :=
  trimRight_append (s := [c]) (by simpa using visible) s

/-- A blank stays at the front of what is left behind it, if anything is. -/
theorem trimRight_cons_of_isBlank {c : Char} (blank : isBlank c = true) (s : List Char) :
    trimRight (c :: s) = if trimRight s = [] then [] else c :: trimRight s := by
  have none : trimRight s = [] ↔ s.reverse.dropWhile isBlank = [] := List.reverse_eq_nil_iff
  rw [trimRight, List.reverse_cons, List.dropWhile_append]
  by_cases nothing : s.reverse.dropWhile isBlank = []
  · rw [if_pos (List.isEmpty_iff.2 nothing), if_pos (none.2 nothing), List.dropWhile_cons_of_pos blank]
    rfl
  · have some : ¬ (s.reverse.dropWhile isBlank).isEmpty = true := fun empty => nothing (List.isEmpty_iff.1 empty)
    rw [if_neg some, if_neg fun empty => nothing (none.1 empty), List.reverse_append]
    rfl

/-- Every word but the first follows a space. -/
theorem intercalate_space_cons (w : List Char) (ws : List (List Char)) :
    [' '].intercalate (w :: ws) = w ++ ws.flatMap (' ' :: ·) := by
  induction ws generalizing w with
  | nil => simp
  | cons next rest ih =>
    rw [List.intercalate_cons_cons, ih next]
    simp

/-- After a blank, or in the middle of a word, the words that follow are written with a space before each but the first. -/
theorem trimRight_squeezeFrom {s first : List Char} {others : List (List Char)}
    (cut : s.splitOnP isBlank = first :: others) :
    trimRight (squeezeFrom true s) = [' '].intercalate (words s) ∧
      trimRight (squeezeFrom false s) = first ++ (others.filter (!·.isEmpty)).flatMap (' ' :: ·) := by
  induction s generalizing first others with
  | nil =>
    obtain ⟨rfl, rfl⟩ : first = [] ∧ others = [] := by simpa [List.splitOnP_nil, eq_comm] using cut
    exact ⟨rfl, rfl⟩
  | cons c rest ih =>
    obtain ⟨next, more, behind⟩ := List.exists_cons_of_ne_nil (List.splitOnP_ne_nil isBlank rest)
    obtain ⟨blanked, joined⟩ := ih behind
    rw [List.splitOnP_cons_eq_if_modifyHead, behind] at cut
    by_cases blank : isBlank c = true
    · rw [if_pos blank, List.cons.injEq] at cut
      obtain ⟨rfl, rfl⟩ := cut
      have same : words (c :: rest) = words rest := words_append_cons blank [] rest
      have listed : words rest = (next :: more).filter (!·.isEmpty) := by rw [words, behind]
      rw [squeezeFrom, squeezeFrom, if_pos blank, if_pos blank, if_pos rfl, if_neg Bool.false_ne_true, same, ← listed]
      refine ⟨blanked, ?_⟩
      rw [trimRight_cons_of_isBlank (by decide), blanked, List.nil_append]
      cases found : words rest with
      | nil => rfl
      | cons w ws =>
        have some : w ≠ [] := (word_of_mem_words (found ▸ List.mem_cons_self)).1
        rw [intercalate_space_cons, if_neg fun empty => some (List.append_eq_nil_iff.1 empty).1]
        rfl
    · rw [if_neg blank, List.modifyHead_cons, List.cons.injEq] at cut
      obtain ⟨rfl, rfl⟩ := cut
      have visible : isBlank c = false := by simpa using blank
      have listed : words (c :: rest) = (c :: next) :: more.filter (!·.isEmpty) := by
        rw [words, List.splitOnP_cons_eq_if_modifyHead, behind, if_neg blank]
        rfl
      have squeezed (after : Bool) : squeezeFrom after (c :: rest) = c :: squeezeFrom false rest := by
        rw [squeezeFrom, if_neg blank]
      rw [squeezed, squeezed, trimRight_cons_of_visible visible, joined, listed, intercalate_space_cons]
      exact ⟨rfl, rfl⟩

/-- Leading blanks are squeezed away as if a blank had been written before them. -/
theorem dropWhile_squeeze (s : List Char) : (squeeze s).dropWhile isBlank = squeezeFrom true s := by
  have settled (t : List Char) : (squeezeFrom true t).dropWhile isBlank = squeezeFrom true t := by
    induction t with
    | nil => rfl
    | cons c rest ih =>
      by_cases blank : isBlank c = true
      · rwa [squeezeFrom, if_pos blank, if_pos rfl]
      · rw [squeezeFrom, if_neg blank, List.dropWhile_cons_of_neg blank]
  cases s with
  | nil => rfl
  | cons c rest =>
    by_cases blank : isBlank c = true
    · have space : isBlank ' ' = true := by decide
      rw [squeeze, squeezeFrom, squeezeFrom, if_pos blank, if_pos blank, if_neg Bool.false_ne_true, if_pos rfl,
        List.dropWhile_cons_of_pos space, settled]
    · rw [squeeze, squeezeFrom, squeezeFrom, if_neg blank, if_neg blank, List.dropWhile_cons_of_neg blank]

/-- A collapsed text is its words with one space between any two of them. -/
theorem collapse_eq_intercalate_words (s : List Char) : collapse s = [' '].intercalate (words s) := by
  obtain ⟨first, others, cut⟩ := List.exists_cons_of_ne_nil (List.splitOnP_ne_nil isBlank s)
  rw [collapse, trim, dropWhile_squeeze, (trimRight_squeezeFrom cut).1]

/-- Collapsing keeps the words. -/
theorem words_collapse (s : List Char) : words (collapse s) = words s := by
  rw [collapse_eq_intercalate_words, words_intercalate fun _ => word_of_mem_words]

end Chars

/-- Collapsing a collapsed text changes nothing. -/
theorem collapse_collapse (s : String) : collapse (collapse s) = collapse s := by
  rw [collapse, collapse, String.toList_ofList, Chars.collapse_eq_intercalate_words, Chars.words_collapse,
    ← Chars.collapse_eq_intercalate_words]

/-- A character that is not blank collapses to itself. -/
theorem collapse_singleton {c : Char} (visible : isBlank c = false) :
    collapse (String.singleton c) = String.singleton c := by
  have word : Chars.words [c] = [[c]] :=
    Chars.words_eq_singleton (List.cons_ne_nil _ _) fun d member => by rwa [List.mem_singleton.1 member]
  rw [collapse, String.toList_singleton, Chars.collapse_eq_intercalate_words, word, List.intercalate_singleton]
  rfl

end ComicScript.Text
