import ComicScript.Markdown.Render
import ComicScript.Proofs.Text.Lines

/-!
# The lines of joined sections

Sections are joined as texts while their places are summed up as numbers of lines. Here the lines of the joined text are
those of the sections, each with one empty line after it but the last, so the two ways of counting agree.
-/

namespace ComicScript.Markdown
set_option autoImplicit false
open Text (lines startsWith)

/-- The lines of a section and the empty line after it. -/
def sectionLines (s : String) : List String :=
  lines s ++ [""]

@[simp] theorem length_sectionLines (s : String) : (sectionLines s).length = height s := by
  simp [sectionLines, Text.length_lines, height]

@[simp] theorem heights_append (a b : List String) : heights (a ++ b) = heights a + heights b := by
  induction a with
  | nil => simp [heights]
  | cons s rest ih => simp only [List.cons_append, heights, ih, Nat.add_assoc]

theorem length_flatMap_sectionLines (sections : List String) :
    (sections.flatMap sectionLines).length = heights sections := by
  induction sections with
  | nil => rfl
  | cons s rest ih => simp [heights, ih]

@[simp] theorem joinSections_singleton (s : String) : joinSections [s] = s := rfl

theorem joinSections_cons_cons (s t : String) (rest : List String) :
    joinSections (s :: t :: rest) = s ++ "\n\n" ++ joinSections (t :: rest) := by
  simp [joinSections]

/-- What the first section begins with, the joined text begins with. -/
theorem joinSections_append_cons (lead s : String) (rest : List String) :
    joinSections ((lead ++ s) :: rest) = lead ++ joinSections (s :: rest) := by
  simp [joinSections]

/-- The first section keeps its lines and is followed by one empty line. -/
theorem lines_joinSections_cons_cons (s t : String) (rest : List String) :
    lines (joinSections (s :: t :: rest)) = sectionLines s ++ lines (joinSections (t :: rest)) := by
  have twice : s ++ "\n\n" ++ joinSections (t :: rest) = (s ++ "\n") ++ "\n" ++ joinSections (t :: rest) := by
    simp [← String.toList_inj]
  rw [joinSections_cons_cons, twice, Text.lines_append_lineFeed, Text.lines_lineFeed, sectionLines]

/-- The sections before a given one take as many lines as their heights say. -/
theorem lines_joinSections_append (before : List String) (s : String) (after : List String) :
    lines (joinSections (before ++ s :: after)) =
      before.flatMap sectionLines ++ lines (joinSections (s :: after)) := by
  induction before with
  | nil => rfl
  | cons t before ih =>
    rw [List.cons_append, List.flatMap_cons, List.append_assoc, ← ih]
    cases before <;> exact lines_joinSections_cons_cons _ _ _

/-- Ended by a line feed, joined sections have the lines of each section and an empty line after each. -/
theorem lines_joinSections_lineFeed {sections : List String} (h : sections ≠ []) :
    lines (joinSections sections ++ "\n") = sections.flatMap sectionLines := by
  obtain rfl | ⟨before, s, rfl⟩ := List.eq_nil_or_concat sections
  · exact absurd rfl h
  · rw [Text.lines_lineFeed, List.concat_eq_append, lines_joinSections_append, joinSections_singleton]
    simp [sectionLines]

@[simp] theorem length_startsFrom (line : Nat) (sections : List String) :
    (startsFrom line sections).length = sections.length := by
  induction sections generalizing line with
  | nil => rfl
  | cons s rest ih => simp [startsFrom, ih]

/-- A section starts after the heights of those before it. -/
theorem getElem?_startsFrom (line : Nat) (before : List String) (s : String) (after : List String) :
    (startsFrom line (before ++ s :: after))[before.length]? = some (line + heights before) := by
  induction before generalizing line with
  | nil => simp [startsFrom, heights]
  | cons t before ih =>
    simp only [List.cons_append, startsFrom, List.length_cons, List.getElem?_cons_succ, ih, heights]
    congr 1
    omega

theorem le_of_mem_startsFrom {line start : Nat} {sections : List String} (h : start ∈ startsFrom line sections) :
    line ≤ start := by
  induction sections generalizing line with
  | nil => cases h
  | cons s rest ih =>
    rcases List.mem_cons.1 h with rfl | later
    · exact Nat.le_refl _
    · exact Nat.le_trans (Nat.le_add_right _ _) (ih later)

/-- No two sections start at the same line, and later ones start later. -/
theorem pairwise_startsFrom (line : Nat) (sections : List String) :
    (startsFrom line sections).Pairwise (· < ·) := by
  induction sections generalizing line with
  | nil => exact .nil
  | cons s rest ih =>
    refine .cons ?_ (ih _)
    intro start later
    have := le_of_mem_startsFrom later
    simp only [height] at this
    omega

@[simp] theorem length_pagesFrom (number : Nat) (pages : List (Slot Page)) :
    (pagesFrom number pages).length = pages.length := by
  induction pages generalizing number with
  | nil => rfl
  | cons slot rest ih => simp [pagesFrom, ih]

theorem getElem?_pagesFrom (number n : Nat) (pages : List (Slot Page)) :
    (pagesFrom number pages)[n]? = (pages[n]?).map (page (number + n : Nat)) := by
  induction pages generalizing number n with
  | nil => rfl
  | cons slot rest ih =>
    cases n with
    | zero => rfl
    | succ n => simp only [pagesFrom, List.getElem?_cons_succ, ih, Nat.add_right_comm number 1 n, Nat.add_assoc]

/-- Whatever stands in the place of a page, its text begins as a page heading. -/
theorem exists_page_eq (number : Int) (slot : Slot Page) : ∃ rest, page number slot = "## " ++ rest := by
  unfold page
  split
  · exact ⟨"Error: Invalid page data", rfl⟩
  · split
    · exact ⟨"Error: Invalid page data", rfl⟩
    · exact ⟨_, joinSections_append_cons _ _ _⟩

/-- No section of the header is blank: each begins with a mark of its own. -/
theorem allBlank_of_mem_headerSections {c : Chapter} {s : String} (h : s ∈ headerSections c) :
    Text.allBlank s = false := by
  rw [headerSections, List.append_assoc, List.mem_append, List.mem_append] at h
  rcases h with title | synopsis | credit
  · obtain ⟨text, -, rfl⟩ : ∃ text, c.heading? = some text ∧ "# " ++ text = s := by simpa using title
    exact Text.allBlank_append_left (by decide) _
  · split at synopsis
    · cases synopsis
    · split at synopsis
      · cases synopsis
      · obtain rfl := List.mem_singleton.1 synopsis
        exact Text.allBlank_append_left (by decide) _
  · unfold credits at credit
    split at credit
    · cases credit
    · cases credit
    · obtain rfl := List.mem_singleton.1 credit
      exact Text.allBlank_append_left (by decide) _

end ComicScript.Markdown
