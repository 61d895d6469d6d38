import ComicScript.Preview.Sections
import ComicScript.Proofs.Markdown.Sections

/-!
# The index of page headings

The places that a rendered chapter gives for its page headings are the lines where the pages stand in its text, so the
preview trusts them and cuts there, whatever the titles and lines of dialogue hold.
-/

namespace ComicScript.Preview
set_option autoImplicit false
open Markdown (height heights sectionLines joinSections startsFrom headerSections pagesFrom)

/-- The lines of a page: from its heading up to the empty line before the next one, or to the end. -/
def pageLines (lines : List String) (start : Nat) (next : Option Nat) : List String :=
  match next with
  | none => lines.drop start
  | some next => (lines.take (next - 1)).drop start

/-- A block among the sections: what is joined before it takes as many lines as its start says, and the next block starts
right after its height. -/
theorem exists_place (header : List String) {blocks : List String} {n : Nat} {s : String} (h : blocks[n]? = some s) :
    ∃ before after, header ++ blocks = before ++ s :: after ∧
      (startsFrom (heights header) blocks)[n]? = some (heights before) ∧
      (startsFrom (heights header) blocks)[n + 1]? =
        after.head?.map fun _ => heights before + height s := by
  obtain ⟨bound, rfl⟩ := List.getElem?_eq_some_iff.1 h
  have split : blocks = blocks.take n ++ blocks[n] :: blocks.drop (n + 1) := by
    rw [List.getElem_cons_drop, List.take_append_drop]
  have position : (blocks.take n).length = n := List.length_take_of_le (Nat.le_of_lt bound)
  generalize blocks.take n = earlier, blocks[n] = s, blocks.drop (n + 1) = after at split position
  subst split position
  refine ⟨header ++ earlier, after, by simp, ?_, ?_⟩
  · rw [Markdown.getElem?_startsFrom, Markdown.heights_append]
  · cases after with
    | nil => simp
    | cons t after =>
      have next := Markdown.getElem?_startsFrom (heights header) (earlier ++ [s]) t after
      simp only [List.append_assoc, List.cons_append, List.nil_append, List.length_append, List.length_singleton]
        at next
      rw [next]
      simp [Markdown.heights, Nat.add_assoc]

/-- The text of joined sections from the start of one of them on. -/
theorem drop_lines_joinSections (before : List String) (s : String) (after : List String) :
    (Text.lines (joinSections (before ++ s :: after))).drop (heights before) =
      Text.lines (joinSections (s :: after)) := by
  rw [Markdown.lines_joinSections_append, ← Markdown.length_flatMap_sectionLines, List.drop_left]

/-- Between its start and the start of the next section stand the lines of a section and one empty line. -/
theorem pageLines_joinSections (before : List String) (s : String) (after : List String) :
    let lines := Text.lines (joinSections (before ++ s :: after))
    let start := heights before
    pageLines lines start (after.head?.map fun _ => start + height s) = Text.lines s ∧
      ∀ next, (after.head?.map fun _ => start + height s) = some next → lines[next - 1]? = some "" := by
  intro lines start
  have rest : lines.drop start = Text.lines (joinSections (s :: after)) := drop_lines_joinSections before s after
  cases after with
  | nil =>
    refine ⟨?_, fun next h => by cases h⟩
    simpa [pageLines] using rest
  | cons t after =>
    have whole : (Text.lines s).length + 1 = height s := by rw [Text.length_lines, height]
    have last : start + height s - 1 = start + (Text.lines s).length := by omega
    rw [Markdown.lines_joinSections_cons_cons, sectionLines, List.append_assoc] at rest
    refine ⟨?_, ?_⟩
    · simp only [List.head?_cons, Option.map_some, pageLines]
      rw [last, List.drop_take, rest, Nat.add_sub_cancel_left, List.take_left]
    · intro next h
      obtain rfl : start + height s = next := by simpa using h
      rw [last, ← List.getElem?_drop, rest]
      simp

/-- At the start of a section that begins as a page heading stands a page heading. -/
theorem heading_at_start (before : List String) (text : String) (after : List String) :
    ((Text.lines (joinSections (before ++ (pageLead ++ text) :: after)))[heights before]?).any
      (Text.startsWith pageLead) = true := by
  have first := congrArg List.head? (drop_lines_joinSections before (pageLead ++ text) after)
  rw [List.head?_drop] at first
  rw [first, Markdown.joinSections_append_cons]
  exact Text.startsWith_head_lines (by decide) _

/-- Lines are trusted if they increase and are page headings. -/
theorem trusted?_startValues {lines : List String} {before : Int} {starts : List Nat}
    (increasing : starts.Pairwise (· < ·)) (later : ∀ start ∈ starts, before < (start : Int))
    (headings : ∀ start ∈ starts, (lines[start]?).any (Text.startsWith pageLead) = true) :
    trusted? lines before (startValues starts) = some starts := by
  induction starts generalizing before with
  | nil => rfl
  | cons start rest ih =>
    obtain ⟨above, increasing⟩ := List.pairwise_cons.1 increasing
    have here : ¬ (start : Int) ≤ before := Int.not_le.2 (later start List.mem_cons_self)
    have heading := headings start List.mem_cons_self
    have tail : trusted? lines start (startValues rest) = some rest := by
      apply ih increasing
      · intro next member
        exact Int.ofNat_lt.2 (above next member)
      · intro next member
        exact headings next (List.mem_cons_of_mem _ member)
    simp only [startValues, List.map_cons, trusted?, Value.integer?, Int.toNat_natCast]
    rw [if_neg here, if_pos heading]
    simpa [startValues] using tail

/-- The pages of a rendered chapter in its text. -/
theorem exists_page_place (header : List String) {pages : List (Slot Page)} {n : Nat} {slot : Slot Page}
    (h : pages[n]? = some slot) :
    ∃ before after, header ++ pagesFrom 1 pages = before ++ Markdown.page (n + 1 : Nat) slot :: after ∧
      (startsFrom (heights header) (pagesFrom 1 pages))[n]? = some (heights before) ∧
      (startsFrom (heights header) (pagesFrom 1 pages))[n + 1]? =
        after.head?.map fun _ => heights before + height (Markdown.page (n + 1 : Nat) slot) := by
  apply exists_place
  rw [Markdown.getElem?_pagesFrom, h, Nat.add_comm]
  rfl

/-- Every start of a page is the line of a page heading. -/
theorem headings_at_starts (header : List String) (pages : List (Slot Page)) :
    ∀ start ∈ startsFrom (heights header) (pagesFrom 1 pages),
      ((Text.lines (joinSections (header ++ pagesFrom 1 pages)))[start]?).any (Text.startsWith pageLead) = true := by
  intro start member
  obtain ⟨n, bound, found⟩ := List.mem_iff_getElem.1 member
  rw [Markdown.length_startsFrom, Markdown.length_pagesFrom] at bound
  obtain ⟨before, after, whole, place, -⟩ := exists_page_place header (List.getElem?_eq_getElem bound)
  obtain ⟨text, heading⟩ := Markdown.exists_page_eq (n + 1 : Nat) pages[n]
  have same : start = heights before := by
    rw [List.getElem?_eq_some_iff] at place
    exact found.symm.trans place.2
  rw [whole, same, heading]
  exact heading_at_start before text after

/-- The preview trusts the starts of pages. -/
theorem trusted?_pages (header : List String) (pages : List (Slot Page)) :
    let starts := startsFrom (heights header) (pagesFrom 1 pages)
    trusted? (Text.lines (joinSections (header ++ pagesFrom 1 pages))) (-1) (startValues starts) = some starts := by
  apply trusted?_startValues (Markdown.pairwise_startsFrom _ _)
  · intro start _
    omega
  · exact headings_at_starts header pages

/-- The preview cuts at the starts of pages. -/
theorem cuts_pages (header : List String) (pages : List (Slot Page)) :
    let starts := startsFrom (heights header) (pagesFrom 1 pages)
    cuts (Text.lines (joinSections (header ++ pagesFrom 1 pages))) (some (startValues starts)) = starts := by
  intro starts
  have trusted := trusted?_pages header pages
  rw [cuts, Option.bind_some, trusted, Option.getD_some]

/-- **The page index.** A rendered chapter has one start for each page, in increasing order; from a start up to the empty
line before the next, or to the end, stand the lines of that page, the first of which is a page heading; and the preview
trusts these starts and cuts there. -/
theorem pageStarts_document (c : Chapter) (pages : List (Slot Page)) :
    let doc := Markdown.document (.filled { c with pages := .filled pages })
    let lines := Text.lines doc.text
    doc.pageStarts.length = pages.length ∧
    doc.pageStarts.Pairwise (· < ·) ∧
    (∀ n slot start, pages[n]? = some slot → doc.pageStarts[n]? = some start →
      pageLines lines start doc.pageStarts[n + 1]? = Text.lines (Markdown.page (n + 1 : Nat) slot) ∧
      ((Text.lines (Markdown.page (n + 1 : Nat) slot)).head?).any (Text.startsWith pageLead) = true ∧
      ∀ next, doc.pageStarts[n + 1]? = some next → lines[next - 1]? = some "") ∧
    trusted? lines (-1) (startValues doc.pageStarts) = some doc.pageStarts ∧
    cuts lines (some (startValues doc.pageStarts)) = doc.pageStarts := by
  intro doc lines
  refine ⟨?_, Markdown.pairwise_startsFrom _ _, ?_, trusted?_pages _ pages, cuts_pages _ pages⟩
  · exact (Markdown.length_startsFrom _ _).trans (Markdown.length_pagesFrom _ _)
  · intro n slot start hn hs
    obtain ⟨before, after, whole, place, next⟩ := exists_page_place (headerSections c) hn
    obtain rfl : heights before = start := Option.some.inj (place.symm.trans hs)
    obtain ⟨text, heading⟩ := Markdown.exists_page_eq (n + 1 : Nat) slot
    have joined : lines = Text.lines (joinSections (before ++ Markdown.page (n + 1 : Nat) slot :: after)) :=
      congrArg (fun sections => Text.lines (joinSections sections)) whole
    have between := pageLines_joinSections before (Markdown.page (n + 1 : Nat) slot) after
    refine ⟨?_, ?_, ?_⟩
    · rw [joined, show doc.pageStarts[n + 1]? = _ from next]
      exact between.1
    · rw [heading]
      exact Text.startsWith_head_lines (by decide) text
    · intro after' found
      rw [joined]
      exact between.2 after' (next.symm.trans found)

end ComicScript.Preview
