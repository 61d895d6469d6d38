import ComicScript.Proofs.Text.Lines

/-!
# Lines at any kind of line end

No line that is cut out of a text holds a line end. Where line feeds are the only line ends, joining the lines gives the text
back, but for a line feed at its end, and every line is one of the pieces between the line feeds.
-/

namespace ComicScript.Text
set_option autoImplicit false

namespace Chars

/-- The first character ends a line or goes into the first one, but for a carriage return before a line feed. -/
theorem physicalLines_cons {c : Char} {rest : List Char} (single : ∀ more, c = '\r' → rest = '\n' :: more → False) :
    physicalLines (c :: rest) =
      if isLineEnd c then [] :: physicalLines rest
      else
        match physicalLines rest with
        | [] => [[c]]
        | line :: lines => (c :: line) :: lines :=
  physicalLines.eq_3 _ _ single

/-- No line holds a line end. -/
theorem isLineEnd_of_mem_physicalLines {s line : List Char} (h : line ∈ physicalLines s) {c : Char} (member : c ∈ line) :
    isLineEnd c = false := by
  induction s using physicalLines.induct generalizing line with
  | case1 => cases h
  | case2 rest ih =>
    rw [physicalLines] at h
    rcases List.mem_cons.1 h with rfl | later
    · cases member
    · exact ih later member
  | case3 d rest single ends ih =>
    rw [physicalLines_cons single, if_pos ends] at h
    rcases List.mem_cons.1 h with rfl | later
    · cases member
    · exact ih later member
  | case4 d rest single inside none ih =>
    rw [physicalLines_cons single, if_neg inside, none] at h
    obtain rfl := List.mem_singleton.1 h
    obtain rfl := List.mem_singleton.1 member
    simpa using inside
  | case5 d rest single inside first others cut ih =>
    rw [physicalLines_cons single, if_neg inside, cut] at h
    rw [cut] at ih
    rcases List.mem_cons.1 h with rfl | later
    · rcases List.mem_cons.1 member with rfl | behind
      · simpa using inside
      · exact ih List.mem_cons_self behind
    · exact ih (List.mem_cons_of_mem _ later) member

/-- A text without line ends is one line. -/
theorem physicalLines_eq_singleton {s : List Char} (some : s ≠ []) (clean : ∀ c ∈ s, isLineEnd c = false) :
    physicalLines s = [s] := by
  induction s with
  | nil => exact absurd rfl some
  | cons c rest ih =>
    have inside := clean c List.mem_cons_self
    have single : ∀ more, c = '\r' → rest = '\n' :: more → False := by
      rintro more rfl -
      exact absurd inside (by decide)
    rw [physicalLines_cons single, inside, if_neg Bool.false_ne_true]
    cases rest with
    | nil => rfl
    | cons d more => rw [ih (List.cons_ne_nil d more) fun e member => clean e (List.mem_cons_of_mem c member)]

/-- A line feed at the end of a text, if it has one. -/
def finalLineFeed (s : List Char) : List Char :=
  if s.getLast? = some '\n' then ['\n'] else []

theorem finalLineFeed_cons (c : Char) {rest : List Char} (h : rest ≠ []) : finalLineFeed (c :: rest) = finalLineFeed rest := by
  obtain ⟨d, rest, rfl⟩ := List.exists_cons_of_ne_nil h
  rw [finalLineFeed, finalLineFeed, List.getLast?_cons_cons]

theorem physicalLines_eq_nil_iff (s : List Char) : physicalLines s = [] ↔ s = [] := by
  induction s using physicalLines.induct with
  | case1 => simp [physicalLines]
  | case2 rest ih => simp [physicalLines]
  | case3 d rest single ends ih => simp [physicalLines_cons single, ends]
  | case4 d rest single inside none ih => simp [physicalLines_cons single, inside, none]
  | case5 d rest single inside first others cut ih => simp [physicalLines_cons single, inside, cut]

section OnlyLineFeeds

variable {s : List Char} (only : ∀ c ∈ s, isLineEnd c = true → c = '\n')
include only

/-- Joining the lines gives the text back, but for a line feed at its end. -/
theorem intercalate_physicalLines : ['\n'].intercalate (physicalLines s) ++ finalLineFeed s = s := by
  induction s using physicalLines.induct with
  | case1 => rfl
  | case2 rest ih => exact absurd (only '\r' (by simp) (by decide)) (by decide)
  | case3 d rest single ends ih =>
    obtain rfl := only d List.mem_cons_self ends
    have behind := ih fun c member => only c (List.mem_cons_of_mem _ member)
    rw [physicalLines_cons single, if_pos ends]
    cases lines : physicalLines rest with
    | nil =>
      obtain rfl := (physicalLines_eq_nil_iff rest).1 lines
      rfl
    | cons line others =>
      have filled : rest ≠ [] := fun none => by simp [none, physicalLines] at lines
      rw [List.intercalate_cons_cons, finalLineFeed_cons _ filled, ← lines, List.append_assoc, List.append_assoc, behind]
      rfl
  | case4 d rest single inside none ih =>
    obtain rfl := (physicalLines_eq_nil_iff rest).1 none
    have other : d ≠ '\n' := fun feed => inside (by rw [feed]; decide)
    rw [physicalLines_cons single, if_neg inside, none]
    simp [finalLineFeed, other]
  | case5 d rest single inside first others cut ih =>
    have behind := ih fun c member => only c (List.mem_cons_of_mem _ member)
    have filled : rest ≠ [] := fun none => by simp [none, physicalLines] at cut
    rw [physicalLines_cons single, if_neg inside, cut, finalLineFeed_cons _ filled]
    rw [cut] at behind
    cases others with
    | nil => simpa using behind
    | cons next others => simpa [List.intercalate_cons_cons] using behind

/-- The lines are the pieces between the line feeds, but for an empty last one. -/
theorem physicalLines_prefix_splitOn : physicalLines s <+: splitOn '\n' s := by
  induction s using physicalLines.induct with
  | case1 => exact List.nil_prefix
  | case2 rest ih => exact absurd (only '\r' (by simp) (by decide)) (by decide)
  | case3 d rest single ends ih =>
    obtain rfl := only d List.mem_cons_self ends
    have behind := ih fun c member => only c (List.mem_cons_of_mem _ member)
    rw [physicalLines_cons single, if_pos ends, splitOn, if_pos rfl]
    exact (List.prefix_cons_inj _).2 behind
  | case4 d rest single inside none ih =>
    obtain rfl := (physicalLines_eq_nil_iff rest).1 none
    have other : d ≠ '\n' := fun feed => inside (by rw [feed]; decide)
    rw [physicalLines_cons single, if_neg inside, none]
    simp [splitOn, other]
  | case5 d rest single inside first others cut ih =>
    obtain ⟨more, pieces⟩ := ih fun c member => only c (List.mem_cons_of_mem _ member)
    have other : d ≠ '\n' := fun feed => inside (by rw [feed]; decide)
    rw [physicalLines_cons single, if_neg inside, cut, splitOn, if_neg other, ← pieces, cut]
    exact ⟨more, rfl⟩

end OnlyLineFeeds

end Chars

/-- A text that is one line has no line feed. -/
theorem lineFeed_not_mem_of_one_line {s : String} (h : physicalLines s = [s]) : '\n' ∉ s.toList := by
  intro member
  have whole : s ∈ physicalLines s := h ▸ List.mem_singleton_self s
  obtain ⟨line, listed, rfl⟩ := List.mem_map.1 whole
  rw [String.toList_ofList] at listed member
  exact absurd (Chars.isLineEnd_of_mem_physicalLines listed member) (by decide)

end ComicScript.Text
