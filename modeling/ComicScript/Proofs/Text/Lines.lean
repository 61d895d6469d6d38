import ComicScript.Text.Blank
import ComicScript.Text.Lines
import Mathlib.Data.List.Basic

/-!
# Cutting into lines

A line feed between two texts is a cut between their lines, there is one more line than line feeds, and joining the lines
of a text gives the text back. The pieces of a split are those of the library's `List.splitOn`, so its lemmas carry over.
-/

namespace ComicScript.Text
set_option autoImplicit false

namespace Chars

/-- The pieces are those of the library's own split. -/
theorem splitOn_eq (separator : Char) (s : List Char) : splitOn separator s = s.splitOn separator := by
  induction s with
  | nil => rfl
  | cons c rest ih =>
    rw [splitOn, ih, List.splitOn_cons_eq_if_modifyHead]
    by_cases h : c = separator
    · simp [h]
    · obtain ⟨piece, pieces, hp⟩ := List.exists_cons_of_ne_nil (List.splitOn_ne_nil separator rest)
      simp [h, hp]

theorem length_splitOn (separator : Char) (s : List Char) :
    (splitOn separator s).length = s.count separator + 1 := by
  rw [splitOn_eq]
  induction s with
  | nil => simp
  | cons c rest ih =>
    rw [List.splitOn_cons_eq_if_modifyHead]
    by_cases h : c = separator
    · simp [h, ih]
    · simp [h, ih, List.count_cons_of_ne h]

/-- Text without the separator goes into the first piece. -/
theorem splitOn_append {separator : Char} {a : List Char} (h : separator ∉ a) (b : List Char) :
    splitOn separator (a ++ b) = (splitOn separator b).modifyHead (a ++ ·) := by
  simp only [splitOn_eq]
  induction a with
  | nil =>
    rw [List.nil_append]
    cases b.splitOn separator <;> rfl
  | cons c rest ih =>
    simp only [List.mem_cons, not_or] at h
    rw [List.cons_append, List.splitOn_cons_eq_if_modifyHead, ih h.2]
    have hc : (c == separator) = false := beq_eq_false_iff_ne.2 (Ne.symm h.1)
    rw [hc]
    cases b.splitOn separator <;> rfl

/-- No piece holds the separator. -/
theorem not_mem_of_mem_splitOn {separator : Char} {s piece : List Char} (h : piece ∈ splitOn separator s) :
    separator ∉ piece := by
  rw [splitOn_eq] at h
  induction s generalizing piece with
  | nil =>
    obtain rfl : piece = [] := by simpa using h
    exact List.not_mem_nil
  | cons c rest ih =>
    obtain ⟨first, others, cut⟩ := List.exists_cons_of_ne_nil (List.splitOn_ne_nil separator rest)
    rw [List.splitOn_cons_eq_if_modifyHead, cut] at h
    rw [cut] at ih
    by_cases same : c = separator
    · rw [if_pos (by simpa using same)] at h
      rcases List.mem_cons.1 h with rfl | later
      · exact List.not_mem_nil
      · exact ih later
    · rw [if_neg (by simpa using same)] at h
      rcases List.mem_cons.1 h with rfl | later
      · have clean : separator ∉ first := ih List.mem_cons_self
        exact fun member => (List.mem_cons.1 member).elim (fun here => same here.symm) clean
      · exact ih (List.mem_cons_of_mem _ later)

/-- A character of a text is a separator or in one of the pieces. -/
theorem eq_or_mem_of_mem {separator c : Char} {s : List Char} (h : c ∈ s) :
    c = separator ∨ ∃ piece ∈ splitOn separator s, c ∈ piece := by
  induction s with
  | nil => cases h
  | cons d rest ih =>
    rw [splitOn]
    split
    · rename_i same
      rcases List.mem_cons.1 h with rfl | behind
      · exact .inl same
      · exact (ih behind).imp_right fun ⟨piece, listed, member⟩ => ⟨piece, List.mem_cons_of_mem _ listed, member⟩
    · obtain ⟨first, others, cut⟩ := List.exists_cons_of_ne_nil (splitOn_eq separator rest ▸ List.splitOn_ne_nil separator rest)
      rw [cut] at ih ⊢
      rcases List.mem_cons.1 h with rfl | behind
      · exact .inr ⟨c :: first, List.mem_cons_self, List.mem_cons_self⟩
      · rcases ih behind with same | ⟨piece, listed, member⟩
        · exact .inl same
        · rcases List.mem_cons.1 listed with rfl | later
          · exact .inr ⟨d :: piece, List.mem_cons_self, List.mem_cons_of_mem _ member⟩
          · exact .inr ⟨piece, List.mem_cons_of_mem _ later, member⟩

/-- A piece is part of the text. -/
theorem sublist_of_mem_splitOn {separator : Char} {s piece : List Char} (h : piece ∈ splitOn separator s) :
    piece.Sublist s := by
  rw [splitOn_eq] at h
  induction s generalizing piece with
  | nil =>
    obtain rfl : piece = [] := by simpa using h
    exact List.nil_sublist _
  | cons c rest ih =>
    obtain ⟨first, others, cut⟩ := List.exists_cons_of_ne_nil (List.splitOn_ne_nil separator rest)
    rw [List.splitOn_cons_eq_if_modifyHead, cut] at h
    rw [cut] at ih
    split at h
    · rcases List.mem_cons.1 h with rfl | later
      · exact List.nil_sublist _
      · exact (ih later).cons c
    · rcases List.mem_cons.1 h with rfl | later
      · exact (ih List.mem_cons_self).cons_cons c
      · exact (ih (List.mem_cons_of_mem _ later)).cons c

end Chars

theorem lines_ne_nil (s : String) : lines s ≠ [] := by
  simp [lines, splitOn, Chars.splitOn_eq]

@[simp] theorem lines_empty : lines "" = [""] := rfl

/-- A line feed between two texts is a cut. -/
theorem lines_append_lineFeed (a b : String) : lines (a ++ "\n" ++ b) = lines a ++ lines b := by
  have cut : (a ++ "\n" ++ b).toList = a.toList ++ '\n' :: b.toList := by simp
  rw [lines, splitOn, cut, Chars.splitOn_eq, List.splitOn_append_cons_self, List.map_append,
    ← Chars.splitOn_eq, ← Chars.splitOn_eq]
  rfl

/-- A line feed at the end is followed by an empty line. -/
theorem lines_lineFeed (s : String) : lines (s ++ "\n") = lines s ++ [""] := by
  simpa using lines_append_lineFeed s ""

/-- Text without line feeds goes into the first line. -/
theorem lines_append {a : String} (h : '\n' ∉ a.toList) (b : String) :
    lines (a ++ b) = (lines b).modifyHead (a ++ ·) := by
  rw [lines, lines, splitOn, splitOn, String.toList_append, Chars.splitOn_append h]
  cases Chars.splitOn '\n' b.toList with
  | nil => rfl
  | cons piece pieces => simp

theorem length_lines (s : String) : (lines s).length = countLineFeeds s + 1 := by
  rw [lines, splitOn, List.length_map, Chars.length_splitOn, countLineFeeds]

/-- Joining the lines of a text gives the text back. -/
theorem unlines_lines (s : String) : unlines (lines s) = s := by
  apply String.toList_inj.1
  have back : (lines s).map String.toList = s.toList.splitOn '\n' := by
    simp [lines, splitOn, Chars.splitOn_eq, Function.comp_def]
  rw [unlines, String.toList_intercalate, back]
  exact List.intercalate_splitOn '\n'

theorem lineFeed_not_mem_of_mem_lines {s line : String} (h : line ∈ lines s) : '\n' ∉ line.toList := by
  obtain ⟨piece, member, rfl⟩ := List.mem_map.1 h
  rw [String.toList_ofList]
  exact Chars.not_mem_of_mem_splitOn member

/-- A line has no more of a character than the text. -/
theorem count_le_of_mem_lines {s line : String} (h : line ∈ lines s) (c : Char) :
    line.toList.count c ≤ s.toList.count c := by
  obtain ⟨piece, member, rfl⟩ := List.mem_map.1 h
  rw [String.toList_ofList]
  exact (Chars.sublist_of_mem_splitOn member).count_le c

/-- Lines that are joined are the lines of the joined text. -/
theorem lines_unlines {pieces : List String} (nonempty : pieces ≠ []) (clean : ∀ line ∈ pieces, '\n' ∉ line.toList) :
    lines (unlines pieces) = pieces := by
  have joined : (unlines pieces).toList = ['\n'].intercalate (pieces.map String.toList) := by
    rw [unlines, String.toList_intercalate]
    rfl
  have split : ((unlines pieces).toList).splitOn '\n' = pieces.map String.toList := by
    rw [joined]
    refine List.splitOn_intercalate '\n' ?_ (by simpa using nonempty)
    intro line member
    obtain ⟨piece, listed, rfl⟩ := List.mem_map.1 member
    exact clean piece listed
  rw [lines, splitOn, Chars.splitOn_eq, split, List.map_map]
  simp [Function.comp_def]

theorem unlines_append {a b : List String} (ha : a ≠ []) (hb : b ≠ []) : unlines (a ++ b) = unlines a ++ "\n" ++ unlines b :=
  String.intercalate_append_of_ne_nil ha hb

/-- Joined lines end as the last one does. -/
theorem getLast?_unlines {pieces : List String} {last : String} (ends : pieces.getLast? = some last)
    (some : last.toList ≠ []) : (unlines pieces).toList.getLast? = last.toList.getLast? := by
  obtain ⟨init, rfl⟩ := List.getLast?_eq_some_iff.1 ends
  have alone : unlines [last] = last := by simp [unlines]
  cases init with
  | nil => rw [List.nil_append, alone]
  | cons first init =>
    rw [unlines_append (List.cons_ne_nil first init) (List.cons_ne_nil last []), alone, String.toList_append,
      List.getLast?_append_of_ne_nil _ some]

/-- Joined lines begin with the first one. -/
theorem exists_unlines_cons (line : String) (rest : List String) : ∃ y, unlines (line :: rest) = line ++ y := by
  cases rest with
  | nil => exact ⟨"", by simp [unlines]⟩
  | cons next rest => exact ⟨_, by rw [unlines, String.intercalate_cons_cons, String.append_assoc]⟩

/-- The first line begins the text. -/
theorem exists_of_head?_lines {s line : String} (h : (lines s)[0]? = some line) : ∃ y, s = line ++ y := by
  obtain ⟨first, rest, cut⟩ := List.exists_cons_of_ne_nil (lines_ne_nil s)
  obtain rfl : first = line := by simpa [cut] using h
  rw [← unlines_lines s, cut]
  exact exists_unlines_cons first rest

/-- Every line but the first follows a line feed. -/
theorem exists_of_getElem?_lines {s line : String} {k : Nat} (h : (lines s)[k + 1]? = some line) :
    ∃ x y, s = x ++ "\n" ++ (line ++ y) ∧ countLineFeeds x = k := by
  obtain ⟨bound, found⟩ := List.getElem?_eq_some_iff.1 h
  have before : (lines s).take (k + 1) ≠ [] := by
    rw [← List.length_pos_iff, List.length_take]
    omega
  have cut := unlines_append before (List.cons_ne_nil line ((lines s).drop (k + 2)))
  rw [← found, List.getElem_cons_drop, List.take_append_drop, unlines_lines, ← List.getElem_cons_drop bound, found] at cut
  have clean : ∀ line ∈ (lines s).take (k + 1), '\n' ∉ line.toList := fun line member =>
    lineFeed_not_mem_of_mem_lines (List.mem_of_mem_take member)
  have counted := length_lines (unlines ((lines s).take (k + 1)))
  rw [lines_unlines before clean, List.length_take] at counted
  obtain ⟨y, first⟩ := exists_unlines_cons line ((lines s).drop (k + 2))
  rw [first] at cut
  exact ⟨_, y, cut, by omega⟩

/-- A line feed of two joined texts is one of the first or of the second. -/
theorem append_eq_append_lineFeed {a b x y : String} (h : a ++ b = x ++ "\n" ++ y) :
    (∃ r, a = x ++ "\n" ++ r ∧ y = r ++ b) ∨ ∃ r, x = a ++ r ∧ b = r ++ "\n" ++ y := by
  have same : a.toList ++ b.toList = x.toList ++ '\n' :: y.toList := by
    rw [← String.toList_append, h]
    simp
  rcases List.append_eq_append_iff.1 same with ⟨r, before, after⟩ | ⟨r, before, after⟩
  · refine .inr ⟨String.ofList r, ?_, ?_⟩
    · simpa [← String.toList_inj] using before
    · simpa [← String.toList_inj] using after
  · rcases List.cons_eq_append_iff.1 after with ⟨rfl, after⟩ | ⟨r, rfl, after⟩
    · refine .inr ⟨"", ?_, ?_⟩
      · simpa [← String.toList_inj] using before.symm
      · simpa [← String.toList_inj] using after.symm
    · refine .inl ⟨String.ofList r, ?_, ?_⟩
      · simpa [← String.toList_inj] using before
      · simpa [← String.toList_inj] using after

/-- A text of joined lines is blank if all of them are. -/
theorem allBlank_unlines (pieces : List String) : allBlank (unlines pieces) = pieces.all allBlank := by
  induction pieces with
  | nil => rfl
  | cons line rest ih =>
    cases rest with
    | nil => simp [unlines]
    | cons next rest =>
      have cut : unlines (line :: next :: rest) = line ++ "\n" ++ unlines (next :: rest) := by simp [unlines]
      have feed : allBlank "\n" = true := by decide
      rw [cut, allBlank_append, allBlank_append, feed, Bool.and_true, ih]
      rfl

/-- The first line begins as the text does. -/
theorem startsWith_head_lines {lead : String} (h : '\n' ∉ lead.toList) (s : String) :
    ((lines (lead ++ s)).head?).any (startsWith lead) = true := by
  rw [lines_append h]
  obtain ⟨line, rest, hl⟩ := List.exists_cons_of_ne_nil (lines_ne_nil s)
  simp [hl, startsWith]

/-- A text is what it begins with and what is left after that. -/
theorem append_drop_of_startsWith {lead s : String} (h : startsWith lead s = true) : lead ++ drop lead.length s = s := by
  obtain ⟨rest, same⟩ := List.isPrefixOf_iff_prefix.1 h
  apply String.toList_inj.1
  rw [drop, String.toList_append, String.toList_ofList, ← same, ← String.length_toList, List.drop_left]

theorem startsWith_append {lead s : String} (h : startsWith lead s = true) (rest : String) :
    startsWith lead (s ++ rest) = true := by
  rw [startsWith, List.isPrefixOf_iff_prefix] at h ⊢
  rw [String.toList_append]
  exact h.trans (List.prefix_append _ _)

/-- What follows a text without going on in a lead is no part of it. -/
theorem startsWith_of_startsWith_append {lead s rest : String} (apart : ∀ c ∈ rest.toList.head?, c ∉ lead.toList)
    (h : startsWith lead (s ++ rest) = true) : startsWith lead s = true := by
  rw [startsWith, List.isPrefixOf_iff_prefix] at h ⊢
  rw [String.toList_append] at h
  rcases List.prefix_or_prefix_of_prefix h (List.prefix_append s.toList rest.toList) with inside | ⟨more, whole⟩
  · exact inside
  · rw [← whole, List.prefix_append_right_inj] at h
    cases more with
    | nil => exact ⟨[], by rw [← whole, List.append_nil, List.append_nil]⟩
    | cons c more =>
      obtain ⟨others, same⟩ := h
      refine absurd ?_ (apart c (by rw [← same]; rfl))
      rw [← whole]
      exact List.mem_append_right _ List.mem_cons_self

end ComicScript.Text
