import ComicScript.Text.Escape

/-!
# Emphasis in a line

Text between pairs of asterisks is strong and text between single ones is emphasised; pairs are matched first. Both are
matched from the left, with the nearest closing mark on the same line. The text is escaped before, so the tags are not.
-/

namespace ComicScript.Preview
set_option autoImplicit false

/-- The text up to the next pair of asterisks on this line, and the text after the pair. -/
def untilPair? : List Char → Option (List Char × List Char)
  | '*' :: '*' :: rest => some ([], rest)
  | c :: rest =>
    if c = '\n' then none else (untilPair? rest).map fun (inside, after) => (c :: inside, after)
  | [] => none

theorem length_untilPair? {s inside after : List Char} (h : untilPair? s = some (inside, after)) :
    inside.length + after.length + 2 = s.length := by
  induction s generalizing inside with
  | nil => simp [untilPair?] at h
  | cons c rest ih =>
    unfold untilPair? at h
    split at h
    · simp_all
    · rename_i heq
      obtain ⟨rfl, rfl⟩ := heq
      split at h
      · simp at h
      · simp only [Option.map_eq_some_iff, Prod.mk.injEq] at h
        obtain ⟨⟨i, a⟩, found, rfl, rfl⟩ := h
        have := ih found
        simp only [List.length_cons] at this ⊢
        omega
    · simp at h

/-- Puts the text between pairs of asterisks in strong tags. -/
def tagPairs : List Char → List Char
  | [] => []
  | c :: rest =>
    if c = '*' ∧ rest.head? = some '*' then
      match _h : untilPair? rest.tail with
      | some (inside, after) => "<strong>".toList ++ inside ++ "</strong>".toList ++ tagPairs after
      | none => c :: tagPairs rest
    else c :: tagPairs rest
termination_by s => s.length
decreasing_by
  all_goals simp only [List.length_cons]
  · have := length_untilPair? _h
    simp only [List.length_tail] at this
    omega
  all_goals omega

/-- The text up to the next asterisk on this line, and the text after it. -/
def untilSingle? : List Char → Option (List Char × List Char)
  | [] => none
  | c :: rest =>
    if c = '*' then some ([], rest)
    else if c = '\n' then none
    else (untilSingle? rest).map fun (inside, after) => (c :: inside, after)

theorem length_untilSingle? {s inside after : List Char} (h : untilSingle? s = some (inside, after)) :
    inside.length + after.length + 1 = s.length := by
  induction s generalizing inside with
  | nil => simp [untilSingle?] at h
  | cons c rest ih =>
    unfold untilSingle? at h
    split at h
    · simp_all
    · split at h
      · simp at h
      · simp only [Option.map_eq_some_iff, Prod.mk.injEq] at h
        obtain ⟨⟨i, a⟩, found, rfl, rfl⟩ := h
        have := ih found
        simp only [List.length_cons] at this ⊢
        omega

/-- Puts the text between single asterisks in emphasis tags. -/
def tagSingles : List Char → List Char
  | [] => []
  | c :: rest =>
    if c = '*' then
      match _h : untilSingle? rest with
      | some (inside, after) => "<em>".toList ++ inside ++ "</em>".toList ++ tagSingles after
      | none => c :: tagSingles rest
    else c :: tagSingles rest
termination_by s => s.length
decreasing_by
  all_goals simp only [List.length_cons]
  · have := length_untilSingle? _h
    omega
  all_goals omega

/-- A line as HTML: its text is escaped, and then its emphasis is written as tags. -/
def inline (s : String) : String :=
  String.ofList (tagSingles (tagPairs (Text.Chars.escapeHtml s.toList)))

end ComicScript.Preview
