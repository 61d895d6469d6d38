import ComicScript.Preview.Inline
import ComicScript.Proofs.Text.Escape

/-!
# The pieces of a converted line

A line is escaped first, and then its emphasis is written into the escaped text, in two passes over it. Here the marks are
found in the line itself and each piece is escaped by itself. The two ways agree, because escaping neither makes asterisks
and line feeds nor takes any away, and because no tag has one in it.
-/

namespace ComicScript.Preview
set_option autoImplicit false
open Text.Chars (htmlChar)

/-- A tag around emphasised text. -/
inductive Mark
  | openStrong
  | closeStrong
  | openEm
  | closeEm
  deriving DecidableEq, Repr

/-- A mark as it is written. -/
def Mark.text : Mark → String
  | openStrong => "<strong>"
  | closeStrong => "</strong>"
  | openEm => "<em>"
  | closeEm => "</em>"

/-- A part of a converted line: a character of its text, or a tag. -/
inductive Piece
  | char (c : Char)
  | mark (m : Mark)
  deriving DecidableEq, Repr

/-- A piece as it is written. -/
def Piece.render : Piece → List Char
  | char c => htmlChar c
  | mark m => m.text.toList

/-- Marks the text between pairs of asterisks as strong. -/
def markStrong : List Char → List Piece
  | [] => []
  | c :: rest =>
    if c = '*' ∧ rest.head? = some '*' then
      match _h : untilPair? rest.tail with
      | some (inside, after) =>
        .mark .openStrong :: inside.map .char ++ .mark .closeStrong :: markStrong after
      | none => .char c :: markStrong rest
    else .char c :: markStrong rest
termination_by s => s.length
decreasing_by
  all_goals simp only [List.length_cons]
  · have := length_untilPair? _h
    simp only [List.length_tail] at this
    omega
  all_goals omega

/-- The pieces up to the next asterisk on this line, and the pieces after it. -/
def untilStar? : List Piece → Option (List Piece × List Piece)
  | [] => none
  | p :: rest =>
    if p = .char '*' then some ([], rest)
    else if p = .char '\n' then none
    else (untilStar? rest).map fun (inside, after) => (p :: inside, after)

theorem length_untilStar? {s inside after : List Piece} (h : untilStar? s = some (inside, after)) :
    inside.length + after.length + 1 = s.length := by
  induction s generalizing inside with
  | nil => simp [untilStar?] at h
  | cons p rest ih =>
    unfold untilStar? at h
    split at h
    · simp_all
    · split at h
      · simp at h
      · simp only [Option.map_eq_some_iff, Prod.mk.injEq] at h
        obtain ⟨⟨i, a⟩, found, rfl, rfl⟩ := h
        have := ih found
        simp only [List.length_cons] at this ⊢
        omega

/-- Marks the text between single asterisks as emphasised. -/
def markEm : List Piece → List Piece
  | [] => []
  | p :: rest =>
    if p = .char '*' then
      match _h : untilStar? rest with
      | some (inside, after) => .mark .openEm :: inside ++ .mark .closeEm :: markEm after
      | none => p :: markEm rest
    else p :: markEm rest
termination_by s => s.length
decreasing_by
  all_goals simp only [List.length_cons]
  · have := length_untilStar? _h
    omega
  all_goals omega

/-- The pieces of a line. -/
def pieces (s : List Char) : List Piece :=
  markEm (markStrong s)

/-- The characters that escaped text has besides its own. -/
def entityChars : List Char := "&ampltg;".toList

/-- An angle bracket is never written as it is. -/
theorem mem_htmlChar {c d : Char} (h : d ∈ htmlChar c) : d ∈ entityChars ∨ d = c ∧ c ≠ '<' := by
  have amp : "&amp;".toList ⊆ entityChars := by decide
  have lt : "&lt;".toList ⊆ entityChars := by decide
  have gt : "&gt;".toList ⊆ entityChars := by decide
  unfold htmlChar at h
  split at h
  · exact .inl (amp h)
  · split at h
    · exact .inl (lt h)
    · rename_i bracket
      split at h
      · exact .inl (gt h)
      · exact .inr ⟨List.mem_singleton.1 h, bracket⟩

theorem lt_not_mem_htmlChar (c : Char) : '<' ∉ htmlChar c := by
  intro member
  rcases mem_htmlChar member with entity | ⟨same, other⟩
  · exact absurd entity (by decide)
  · exact other same.symm

/-- A line feed and an asterisk are written only for themselves. -/
theorem eq_of_mem_render {p : Piece} {c : Char} (known : c = '\n' ∨ c = '*') (h : c ∈ p.render) : p = .char c := by
  cases p with
  | char d =>
    rcases mem_htmlChar h with entity | ⟨same, -⟩
    · have none : '\n' ∉ entityChars ∧ '*' ∉ entityChars := by decide
      rcases known with rfl | rfl
      · exact absurd entity none.1
      · exact absurd entity none.2
    · rw [same]
  | mark m =>
    have none : '\n' ∉ m.text.toList ∧ '*' ∉ m.text.toList := by cases m <;> decide
    rcases known with rfl | rfl
    · exact absurd h none.1
    · exact absurd h none.2

/-! ## Strong text in an escaped line -/

theorem untilPair?_append {s : List Char} (star : '*' ∉ s) (feed : '\n' ∉ s) (rest : List Char) :
    untilPair? (s ++ rest) = (untilPair? rest).map fun (inside, after) => (s ++ inside, after) := by
  induction s with
  | nil => cases found : untilPair? rest <;> simp [found]
  | cons c s ih =>
    rw [List.mem_cons, not_or] at star feed
    rw [List.cons_append, untilPair?, if_neg (Ne.symm feed.1), ih star.2 feed.2, Option.map_map]
    · rfl
    · intro more same
      exact absurd same.symm star.1

theorem tagPairs_of_closed {rest inside after : List Char} (h : untilPair? rest = some (inside, after)) :
    tagPairs ('*' :: '*' :: rest) = "<strong>".toList ++ inside ++ "</strong>".toList ++ tagPairs after := by
  rw [tagPairs, if_pos ⟨rfl, rfl⟩]
  split
  · rename_i i a found
    obtain ⟨rfl, rfl⟩ := Prod.mk.inj (Option.some.inj (found.symm.trans h))
    rfl
  · rename_i open_
    cases open_.symm.trans h

theorem tagPairs_of_open {rest : List Char} (h : untilPair? rest = none) :
    tagPairs ('*' :: '*' :: rest) = '*' :: tagPairs ('*' :: rest) := by
  rw [tagPairs, if_pos ⟨rfl, rfl⟩]
  split
  · rename_i i a found
    cases found.symm.trans h
  · rfl

theorem tagPairs_of_not_pair {c : Char} {rest : List Char} (h : ¬(c = '*' ∧ rest.head? = some '*')) :
    tagPairs (c :: rest) = c :: tagPairs rest := by
  rw [tagPairs, if_neg h]

theorem tagPairs_append {s : List Char} (star : '*' ∉ s) (rest : List Char) : tagPairs (s ++ rest) = s ++ tagPairs rest := by
  induction s with
  | nil => rfl
  | cons c s ih =>
    rw [List.mem_cons, not_or] at star
    rw [List.cons_append, tagPairs_of_not_pair fun pair => star.1 pair.1.symm, ih star.2, List.cons_append]

/-- A character other than an asterisk and a line feed is escaped without either. -/
theorem not_mem_htmlChar {c d : Char} (known : d = '\n' ∨ d = '*') (other : c ≠ d) : d ∉ htmlChar c := by
  intro member
  exact other (Piece.char.inj (eq_of_mem_render (p := .char c) known member))

theorem htmlChar_star : htmlChar '*' = ['*'] := by decide

theorem htmlChar_lineFeed : htmlChar '\n' = ['\n'] := by decide

/-- Escaped text begins with an asterisk just if the text does. -/
theorem head?_flatMap_htmlChar (s : List Char) : (s.flatMap htmlChar).head? = some '*' ↔ s.head? = some '*' := by
  cases s with
  | nil => rfl
  | cons c rest =>
    by_cases star : c = '*'
    · subst star
      rw [List.flatMap_cons, htmlChar_star]
      exact Iff.rfl
    · have clean := not_mem_htmlChar (.inr rfl) star
      rw [List.flatMap_cons, List.head?_cons, Option.some.injEq]
      refine iff_of_false (fun first => ?_) star
      cases written : htmlChar c with
      | nil => exact absurd written (by unfold htmlChar; split_ifs <;> simp)
      | cons d more =>
        rw [written] at first clean
        exact clean (Option.some.inj first ▸ List.mem_cons_self)

/-- The next pair of asterisks is found at the same place in escaped text. -/
theorem untilPair?_flatMap_htmlChar (s : List Char) :
    untilPair? (s.flatMap htmlChar) =
      (untilPair? s).map fun (inside, after) => (inside.flatMap htmlChar, after.flatMap htmlChar) := by
  fun_induction untilPair? s with
  | case1 rest =>
    rw [List.flatMap_cons, List.flatMap_cons, htmlChar_star]
    rfl
  | case2 rest =>
    rw [List.flatMap_cons, htmlChar_lineFeed]
    rfl
  | case3 c rest pair feed ih =>
    have whole : untilPair? (htmlChar c ++ rest.flatMap htmlChar) =
        (untilPair? (rest.flatMap htmlChar)).map fun (inside, after) => (htmlChar c ++ inside, after) := by
      by_cases star : c = '*'
      · subst star
        rw [htmlChar_star, List.singleton_append, untilPair?, if_neg feed]
        · rfl
        · rintro more - second
          have first := (head?_flatMap_htmlChar rest).1 (by rw [second]; rfl)
          obtain ⟨tail, same⟩ := List.head?_eq_some_iff.1 first
          exact pair tail rfl same
      · exact untilPair?_append (not_mem_htmlChar (.inr rfl) star) (not_mem_htmlChar (.inl rfl) feed) _
    rw [List.flatMap_cons, whole, ih, Option.map_map, Option.map_map]
    rfl
  | case4 => rfl

theorem flatMap_render_map_char (s : List Char) : (s.map Piece.char).flatMap Piece.render = s.flatMap htmlChar :=
  List.flatMap_map ..

/-- Strong text is marked in escaped text as in the text itself. -/
theorem tagPairs_flatMap_htmlChar (s : List Char) :
    tagPairs (s.flatMap htmlChar) = (markStrong s).flatMap Piece.render := by
  fun_induction markStrong s with
  | case1 => rw [List.flatMap_nil, tagPairs, List.flatMap_nil]
  | case2 c rest pair inside after found ih =>
    obtain ⟨rfl, second⟩ := pair
    obtain ⟨tail, rfl⟩ := List.head?_eq_some_iff.1 second
    have closed : untilPair? (tail.flatMap htmlChar) = some (inside.flatMap htmlChar, after.flatMap htmlChar) := by
      rw [untilPair?_flatMap_htmlChar, show untilPair? tail = some (inside, after) from found]
      rfl
    rw [List.flatMap_cons, List.flatMap_cons, htmlChar_star, List.singleton_append, List.singleton_append,
      tagPairs_of_closed closed, ih, List.cons_append, List.flatMap_cons, List.flatMap_append, flatMap_render_map_char,
      List.flatMap_cons]
    simp only [Piece.render, Mark.text, List.append_assoc]
  | case3 c rest pair open_ ih =>
    obtain ⟨rfl, second⟩ := pair
    obtain ⟨tail, rfl⟩ := List.head?_eq_some_iff.1 second
    have unclosed : untilPair? (tail.flatMap htmlChar) = none := by
      rw [untilPair?_flatMap_htmlChar, show untilPair? tail = none from open_]
      rfl
    rw [List.flatMap_cons, htmlChar_star, List.singleton_append] at ih
    rw [List.flatMap_cons, List.flatMap_cons, htmlChar_star, List.singleton_append, List.singleton_append,
      tagPairs_of_open unclosed, ih, List.flatMap_cons]
    rfl
  | case4 c rest other ih =>
    rw [List.flatMap_cons, List.flatMap_cons, ← ih]
    by_cases star : c = '*'
    · subst star
      have single : ¬('*' = '*' ∧ (rest.flatMap htmlChar).head? = some '*') := by
        rw [head?_flatMap_htmlChar]
        exact other
      rw [htmlChar_star, List.singleton_append, tagPairs_of_not_pair single]
      rfl
    · exact tagPairs_append (not_mem_htmlChar (.inr rfl) star) _

/-! ## Emphasised text among written pieces -/

theorem untilSingle?_append {s : List Char} (star : '*' ∉ s) (feed : '\n' ∉ s) (rest : List Char) :
    untilSingle? (s ++ rest) = (untilSingle? rest).map fun (inside, after) => (s ++ inside, after) := by
  induction s with
  | nil => cases found : untilSingle? rest <;> simp [found]
  | cons c s ih =>
    rw [List.mem_cons, not_or] at star feed
    rw [List.cons_append, untilSingle?, if_neg (Ne.symm star.1), if_neg (Ne.symm feed.1), ih star.2 feed.2, Option.map_map]
    rfl

theorem tagSingles_of_closed {rest inside after : List Char} (h : untilSingle? rest = some (inside, after)) :
    tagSingles ('*' :: rest) = "<em>".toList ++ inside ++ "</em>".toList ++ tagSingles after := by
  rw [tagSingles, if_pos rfl]
  split
  · rename_i i a found
    obtain ⟨rfl, rfl⟩ := Prod.mk.inj (Option.some.inj (found.symm.trans h))
    rfl
  · rename_i open_
    cases open_.symm.trans h

theorem tagSingles_of_open {rest : List Char} (h : untilSingle? rest = none) :
    tagSingles ('*' :: rest) = '*' :: tagSingles rest := by
  rw [tagSingles, if_pos rfl]
  split
  · rename_i i a found
    cases found.symm.trans h
  · rfl

theorem tagSingles_append {s : List Char} (star : '*' ∉ s) (rest : List Char) :
    tagSingles (s ++ rest) = s ++ tagSingles rest := by
  induction s with
  | nil => rfl
  | cons c s ih =>
    rw [List.mem_cons, not_or] at star
    rw [List.cons_append, tagSingles, if_neg (Ne.symm star.1), ih star.2, List.cons_append]

theorem render_star : (Piece.char '*').render = ['*'] := htmlChar_star

/-- The next asterisk is found at the same place among written pieces. -/
theorem untilSingle?_flatMap_render (ps : List Piece) :
    untilSingle? (ps.flatMap Piece.render) =
      (untilStar? ps).map fun (inside, after) => (inside.flatMap Piece.render, after.flatMap Piece.render) := by
  fun_induction untilStar? ps with
  | case1 => rfl
  | case2 rest =>
    rw [List.flatMap_cons, render_star]
    rfl
  | case3 rest star =>
    rw [List.flatMap_cons, show (Piece.char '\n').render = ['\n'] from htmlChar_lineFeed]
    rfl
  | case4 p rest star feed ih =>
    have clean (c : Char) (known : c = '\n' ∨ c = '*') (other : p ≠ .char c) : c ∉ p.render :=
      fun member => other (eq_of_mem_render known member)
    rw [List.flatMap_cons, untilSingle?_append (clean '*' (.inr rfl) star) (clean '\n' (.inl rfl) feed), ih, Option.map_map,
      Option.map_map]
    rfl

/-- Emphasised text is marked among written pieces as among the pieces themselves. -/
theorem tagSingles_flatMap_render (ps : List Piece) :
    tagSingles (ps.flatMap Piece.render) = (markEm ps).flatMap Piece.render := by
  fun_induction markEm ps with
  | case1 => rw [List.flatMap_nil, tagSingles]
  | case2 rest inside after found ih =>
    have closed : untilSingle? (rest.flatMap Piece.render) =
        some (inside.flatMap Piece.render, after.flatMap Piece.render) := by
      rw [untilSingle?_flatMap_render, found]
      rfl
    rw [List.flatMap_cons, render_star, List.singleton_append, tagSingles_of_closed closed, ih, List.cons_append,
      List.flatMap_cons, List.flatMap_append, List.flatMap_cons]
    simp only [Piece.render, Mark.text, List.append_assoc]
  | case3 rest open_ ih =>
    have unclosed : untilSingle? (rest.flatMap Piece.render) = none := by
      rw [untilSingle?_flatMap_render, open_]
      rfl
    rw [List.flatMap_cons, render_star, List.singleton_append, tagSingles_of_open unclosed, ih, List.flatMap_cons, render_star]
    rfl
  | case4 p rest other ih =>
    rw [List.flatMap_cons, List.flatMap_cons, tagSingles_append (fun member => other (eq_of_mem_render (.inr rfl) member)), ih]

/-- A converted line is its pieces as they are written. -/
theorem inline_eq (s : String) : inline s = String.ofList ((pieces s.toList).flatMap Piece.render) := by
  rw [inline, Text.Chars.escapeHtml_eq_flatMap, tagPairs_flatMap_htmlChar, tagSingles_flatMap_render, pieces]

end ComicScript.Preview
