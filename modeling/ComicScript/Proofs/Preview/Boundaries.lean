import ComicScript.Proofs.Preview.Cuts
import ComicScript.Proofs.Preview.Headings
import ComicScript.Proofs.Preview.PageIndex
import Mathlib.Data.List.Sort

/-!
# Looking for page headings

Without its index the page headings of a rendered chapter are looked for in its text. All pages are found so. What else is
found begins right after a line feed that the author wrote, in one of the texts that are printed as they are: every line
that the renderer begins, it begins with words of its own, and those are a page heading only for a page.
-/

namespace ComicScript.Preview
set_option autoImplicit false
open Markdown (Source Field Line IsField documentLines printFrom printLines headerBlocks pageLinesFrom separate
  joinSections headerSections pagesFrom startsFrom heights height)

/-! ## The lines that are found -/

theorem mem_headingsFrom_of_getElem? {i n : Nat} {lines : List String} {line : String} (found : lines[n]? = some line)
    (heading : Text.startsWith pageLead line = true) : i + n ∈ headingsFrom i lines := by
  induction lines generalizing i n with
  | nil => cases found
  | cons first rest ih =>
    cases n with
    | zero =>
      obtain rfl : first = line := Option.some.inj found
      rw [headingsFrom, if_pos heading]
      exact List.mem_cons_self
    | succ n =>
      have later : i + (n + 1) ∈ headingsFrom (i + 1) rest := by
        have next := ih (i := i + 1) found
        rwa [Nat.add_assoc, Nat.add_comm 1 n] at next
      rw [headingsFrom]
      split
      · exact List.mem_cons_of_mem _ later
      · exact later

theorem mem_pageBoundaries_iff {markdown : String} {n : Nat} :
    n ∈ pageBoundaries markdown ↔
      ∃ line, (Text.lines markdown)[n]? = some line ∧ Text.startsWith pageLead line = true := by
  constructor
  · exact fun found => (of_mem_headingsFrom found).2
  · rintro ⟨line, found, heading⟩
    have member := mem_headingsFrom_of_getElem? (i := 0) found heading
    rwa [Nat.zero_add] at member

/-! ## The lines of a chapter in its text -/

/-- Some lines as they are printed, each with the line feed after it. -/
def printEnded (block : List Line) : String :=
  String.join (block.map (·.print ++ "\n"))

@[simp] theorem countLineFeeds_append (a b : String) :
    Text.countLineFeeds (a ++ b) = Text.countLineFeeds a + Text.countLineFeeds b := by
  simp [Text.countLineFeeds]

theorem countLineFeeds_printEnded_cons (l : Line) (rest : List Line) :
    Text.countLineFeeds (printEnded (l :: rest)) = (Text.lines l.print).length + Text.countLineFeeds (printEnded rest) := by
  have feed : Text.countLineFeeds "\n" = 1 := by decide
  rw [printEnded, List.map_cons, String.join_cons, countLineFeeds_append, countLineFeeds_append, feed, Text.length_lines,
    printEnded]

theorem countLineFeeds_printEnded_append (a b : List Line) :
    Text.countLineFeeds (printEnded (a ++ b)) =
      Text.countLineFeeds (printEnded a) + Text.countLineFeeds (printEnded b) := by
  rw [printEnded, List.map_append, String.join_append, countLineFeeds_append, printEnded, printEnded]

/-- Before a line the lines before it are printed. -/
theorem exists_printLines_eq (before : List Line) (l : Line) (after : List Line) :
    ∃ rest, printLines (before ++ l :: after) = printEnded before ++ l.print ++ rest := by
  induction before with
  | nil =>
    obtain ⟨rest, same⟩ := Text.exists_unlines_cons l.print (after.map Line.print)
    exact ⟨rest, by rw [List.nil_append, printLines, List.map_cons, same]; rfl⟩
  | cons first before ih =>
    obtain ⟨rest, same⟩ := ih
    refine ⟨rest, ?_⟩
    rw [List.cons_append, Markdown.printLines_cons first (by simp), same, printEnded, printEnded, List.map_cons,
      String.join_cons]
    simp only [String.append_assoc]

/-- A line of a printed text is one of the lines that one of its lines is printed on. -/
theorem exists_line_of_getElem?_lines {block : List Line} (filled : block ≠ []) {n : Nat} {line : String}
    (found : (Text.lines (printLines block))[n]? = some line) :
    ∃ before l after k, block = before ++ l :: after ∧ (Text.lines l.print)[k]? = some line ∧
      n = Text.countLineFeeds (printEnded before) + k := by
  induction block generalizing n with
  | nil => exact absurd rfl filled
  | cons l rest ih =>
    cases rest with
    | nil => exact ⟨[], l, [], n, rfl, found, (Nat.zero_add n).symm⟩
    | cons next rest =>
      rw [Markdown.printLines_cons l (List.cons_ne_nil _ _), Text.lines_append_lineFeed] at found
      by_cases inside : n < (Text.lines l.print).length
      · rw [List.getElem?_append_left inside] at found
        exact ⟨[], l, next :: rest, n, rfl, found, (Nat.zero_add n).symm⟩
      · rw [List.getElem?_append_right (Nat.le_of_not_lt inside)] at found
        obtain ⟨before, other, after, k, same, here, counted⟩ := ih (List.cons_ne_nil _ _) found
        refine ⟨l :: before, other, after, k, by rw [same, List.cons_append], here, ?_⟩
        rw [countLineFeeds_printEnded_cons]
        omega

/-- A line of separated blocks that is not empty is a line of one of them. -/
theorem exists_block_of_separate {blocks : List (List Line)} {before after : List Line} {l : Line}
    (h : separate blocks = before ++ l :: after) (visible : l ≠ .written "") :
    ∃ earlier block later first rest, blocks = earlier ++ block :: later ∧ block = first ++ l :: rest ∧
      before = earlier.flatMap (· ++ [.written ""]) ++ first := by
  induction blocks generalizing before with
  | nil => simp [separate] at h
  | cons block others ih =>
    cases others with
    | nil => exact ⟨[], block, [], before, after, rfl, h, rfl⟩
    | cons next others =>
      rw [separate] at h
      rcases List.append_eq_append_iff.1 h with ⟨more, rfl, later⟩ | ⟨more, here, later⟩
      · rcases List.cons_eq_append_iff.1 later with ⟨rfl, first⟩ | ⟨more, rfl, following⟩
        · exact absurd (List.cons.inj first).1 visible
        · obtain ⟨earlier, found, others, first, rest, same, cut, rfl⟩ := ih following
          refine ⟨block :: earlier, found, others, first, rest, by rw [same, List.cons_append], cut, ?_⟩
          simp
      · rcases List.cons_eq_append_iff.1 later with ⟨rfl, first⟩ | ⟨more, rfl, -⟩
        · exact absurd (List.cons.inj first).1.symm visible
        · exact ⟨[], block, next :: others, before, more, rfl, here, rfl⟩

/-- Blocks take as many lines as their texts, with an empty line after each. -/
theorem countLineFeeds_printEnded_flatMap {blocks : List (List Line)} (filled : ∀ block ∈ blocks, block ≠ []) :
    Text.countLineFeeds (printEnded (blocks.flatMap (· ++ [.written ""]))) = heights (blocks.map printLines) := by
  have ended {block : List Line} (h : block ≠ []) : printEnded block = printLines block ++ "\n" := by
    induction block with
    | nil => exact absurd rfl h
    | cons l rest ih =>
      cases rest with
      | nil => simp [printEnded, printLines, Text.unlines]
      | cons next rest =>
        rw [Markdown.printLines_cons l (List.cons_ne_nil _ _), String.append_assoc, ← ih (List.cons_ne_nil _ _), printEnded,
          List.map_cons, String.join_cons, ← printEnded]
  have empty : Text.countLineFeeds (printEnded [.written ""]) = 1 := by decide
  have feed : Text.countLineFeeds "\n" = 1 := by decide
  induction blocks with
  | nil => rfl
  | cons block rest ih =>
    obtain ⟨here, filled⟩ := List.forall_mem_cons.1 filled
    rw [List.flatMap_cons, countLineFeeds_printEnded_append, countLineFeeds_printEnded_append, ended here,
      countLineFeeds_append, feed, empty, ih filled, List.map_cons, heights, height]

/-! ## Pages and texts of the author -/

/-- What is in two lists together but not in the first one is in the second. -/
theorem exists_append_of_not_mem {α : Type} {a b earlier later : List α} {x : α}
    (h : a ++ b = earlier ++ x :: later) (other : x ∉ a) :
    ∃ between, earlier = a ++ between ∧ b = between ++ x :: later := by
  rcases List.append_eq_append_iff.1 h with ⟨between, same, rest⟩ | ⟨between, same, rest⟩
  · exact ⟨between, same, rest⟩
  · rcases List.cons_eq_append_iff.1 rest with ⟨rfl, rest⟩ | ⟨between, rfl, -⟩
    · exact ⟨[], by simpa using same.symm, rest.symm⟩
    · exact absurd (same ▸ List.mem_append_right earlier List.mem_cons_self) other

section Chapters

variable {c : Chapter} {pages : List (Slot Page)}

/-- The lines before the pages are no page headings by themselves. -/
theorem ordinary_of_mem_headerBlocks : ∀ block ∈ headerBlocks c, ∀ l ∈ block, Ordinary (IsField c pages) l :=
  ordinary_headerBlocks (fun _ => id) (fun _ => id) fun entry listed => ⟨entry, listed, rfl⟩

/-- Of the lines of a page only the first is a page heading by itself. -/
theorem exists_of_mem_pages : ∀ block ∈ pageLinesFrom 1 pages,
    ∃ title rest, block = .written title :: rest ∧ '\n' ∉ title.toList ∧ ∀ l ∈ rest, Ordinary (IsField c pages) l := by
  refine exists_of_mem_pageLinesFrom fun slot listed d member => ?_
  have inside := List.mem_flatMap_of_mem listed member
  exact ⟨⟨d, inside, rfl⟩, d, inside, rfl⟩

/-- The texts of the author on a line are texts of the chapter, between words without line feeds. -/
theorem tidy_of_mem_documentLines {l : Line} (h : l ∈ documentLines c pages) :
    Tidy l.lead l.fields ∧ ∀ f ∈ l.fields, IsField c pages f.source f.text := by
  have ordinary {l : Line} (line : Ordinary (IsField c pages) l) :
      Tidy l.lead l.fields ∧ ∀ f ∈ l.fields, IsField c pages f.source f.text := ⟨line.tidy, line.fields⟩
  rcases mem_separate h with rfl | ⟨block, listed, inside⟩
  · exact ordinary ordinary_empty
  · rcases List.mem_append.1 listed with header | page
    · exact ordinary (ordinary_of_mem_headerBlocks block header l inside)
    · obtain ⟨title, rest, rfl, clean, others⟩ := exists_of_mem_pages block page
      rcases List.mem_cons.1 inside with rfl | later
      · exact ⟨clean, List.forall_mem_nil _⟩
      · exact ordinary (others l later)

/-- The block of a page stands where the page starts. -/
theorem mem_startsFrom_of_page {earlier later : List (List Line)} {block : List Line}
    (place : pageLinesFrom 1 pages = earlier ++ block :: later) :
    Text.countLineFeeds (printEnded ((headerBlocks c ++ earlier).flatMap (· ++ [.written ""]))) ∈
      startsFrom (heights (headerSections c)) (pagesFrom 1 pages) := by
  have texts := congrArg (List.map printLines) place
  rw [Markdown.map_printLines_pageLinesFrom, List.map_append, List.map_cons] at texts
  have filled : ∀ block ∈ headerBlocks c ++ earlier, block ≠ [] := by
    refine List.forall_mem_append.2 ⟨Markdown.headerBlocks_ne_nil, fun block member => ?_⟩
    exact Markdown.pageLinesFrom_ne_nil block (place ▸ List.mem_append_left _ member)
  rw [countLineFeeds_printEnded_flatMap filled, List.map_append, Markdown.map_printLines_headerBlocks,
    Markdown.heights_append, texts]
  exact List.mem_of_getElem? (Markdown.getElem?_startsFrom _ _ _ _)

/-- A line that is a page heading by itself is where a page starts. -/
theorem mem_startsFrom_of_heading {before after : List Line} {l : Line}
    (whole : documentLines c pages = before ++ l :: after) (heading : Text.startsWith pageLead l.print = true) :
    Text.countLineFeeds (printEnded before) ∈ startsFrom (heights (headerSections c)) (pagesFrom 1 pages) := by
  have special : ¬ Ordinary (IsField c pages) l := by
    intro line
    rw [line.apart] at heading
    cases heading
  have visible : l ≠ .written "" := by
    rintro rfl
    exact special ordinary_empty
  obtain ⟨earlier, block, later, first, rest, blocks, cut, rfl⟩ := exists_block_of_separate whole visible
  -- the block is that of a page, and the line the first one of it
  have other : block ∉ headerBlocks c := fun header =>
    special (ordinary_of_mem_headerBlocks block header l (cut ▸ List.mem_append_right first List.mem_cons_self))
  obtain ⟨earlier, rfl, place⟩ := exists_append_of_not_mem blocks other
  have page : block ∈ pageLinesFrom 1 pages := place ▸ List.mem_append_right earlier List.mem_cons_self
  obtain ⟨title, more, rfl, -, ordinary⟩ := exists_of_mem_pages (c := c) block page
  obtain rfl : first = [] := by
    rcases List.cons_eq_append_iff.1 cut with ⟨none, -⟩ | ⟨first, rfl, same⟩
    · exact none
    · exact absurd (ordinary l (same ▸ List.mem_append_right first List.mem_cons_self)) special
  rw [List.append_nil]
  exact mem_startsFrom_of_page place

end Chapters

/-- A line begins right after a line feed in one of the texts of the author that are printed as they are, and that text goes
on with the lead of a page heading there. The line has the number of the line feeds before it. -/
def BeginsInField (c : Chapter) (pages : List (Slot Page)) (n : Nat) : Prop :=
  ∃ before lead earlier f later after u v,
    documentLines c pages = before ++ ⟨lead, earlier ++ f :: later⟩ :: after ∧
    IsField c pages f.source f.text ∧
    f.text = u ++ "\n" ++ (pageLead ++ v) ∧
    n = Text.countLineFeeds (printEnded before ++ printFrom lead earlier ++ f.source.print u ++ "\n")

/-- A page heading that is found is where a page starts, or it begins in a text of the author. -/
theorem mem_startsFrom_or_of_mem_pageBoundaries {c : Chapter} {pages : List (Slot Page)} {n : Nat}
    (h : n ∈ pageBoundaries (printLines (documentLines c pages))) :
    n ∈ startsFrom (heights (headerSections c)) (pagesFrom 1 pages) ∨ BeginsInField c pages n := by
  obtain ⟨line, found, heading⟩ := mem_pageBoundaries_iff.1 h
  have filled : documentLines c pages ≠ [] := by
    intro none
    rw [none] at h
    exact absurd h List.not_mem_nil
  obtain ⟨before, l, after, k, whole, here, rfl⟩ := exists_line_of_getElem?_lines filled found
  cases k with
  | zero =>
    obtain ⟨y, first⟩ := Text.exists_of_head?_lines here
    exact .inl (mem_startsFrom_of_heading whole (first ▸ Text.startsWith_append heading y))
  | succ k =>
    have member : l ∈ documentLines c pages := whole ▸ List.mem_append_right before List.mem_cons_self
    obtain ⟨tidy, fields⟩ := tidy_of_mem_documentLines member
    obtain ⟨earlier, f, later, u, v, same, text, counted⟩ := exists_heading_of_getElem?_lines tidy here heading
    refine .inr ⟨before, l.lead, earlier, f, later, after, u, v, ?_, fields f ?_, text, ?_⟩
    · rw [whole, ← same]
    · rw [same]
      exact List.mem_append_right earlier List.mem_cons_self
    · have feed : Text.countLineFeeds "\n" = 1 := by decide
      rw [countLineFeeds_append, String.append_assoc, countLineFeeds_append, counted, feed, Nat.add_assoc]

/-- A page heading in a text of the author is found. -/
theorem BeginsInField.mem_pageBoundaries {c : Chapter} {pages : List (Slot Page)} {n : Nat}
    (h : BeginsInField c pages n) : n ∈ pageBoundaries (printLines (documentLines c pages)) := by
  obtain ⟨before, lead, earlier, f, later, after, u, v, whole, -, text, rfl⟩ := h
  obtain ⟨rest, printed⟩ := exists_printLines_eq before ⟨lead, earlier ++ f :: later⟩ after
  have signs : f.source.print "\n" = "\n" ∧ f.source.print pageLead = pageLead := by
    cases f.source <;> decide
  rw [Line.print, Markdown.printFrom_append_cons, text, Source.print_append, Source.print_append, Source.print_append,
    signs.1, signs.2] at printed
  have cut : printLines (documentLines c pages) = printEnded before ++ printFrom lead earlier ++ f.source.print u ++ "\n" ++
      (pageLead ++ (f.source.print v ++ printFrom f.after later ++ rest)) := by
    rw [whole, printed]
    simp only [String.append_assoc]
  have feed : Text.countLineFeeds "\n" = 1 := by decide
  have first : ((Text.lines (pageLead ++ (f.source.print v ++ printFrom f.after later ++ rest))).head?).any
      (Text.startsWith pageLead) = true := Text.startsWith_head_lines (by decide) _
  rw [mem_pageBoundaries_iff, cut, Text.lines_append_lineFeed, countLineFeeds_append, feed, ← Text.length_lines,
    List.getElem?_append_right (Nat.le_refl _), Nat.sub_self, ← List.head?_eq_getElem?]
  exact (Option.any_eq_true _ _).1 first

/-- **Looking for page headings.** The page headings that are found in a rendered chapter are those where its pages start, in
order, and those that begin right after a line feed in the title, the synopsis, an entry of the credits, or the speaker or
type of a line of dialogue that is rendered. If none of those has a line feed with the lead of a page heading right after
it, just the starts of the pages are found, and the preview is the same with and without them. -/
theorem pageBoundaries_document (c : Chapter) (pages : List (Slot Page)) :
    let chapter : Slot Chapter := .filled { c with pages := .filled pages }
    let doc := Markdown.document chapter
    printLines (documentLines c pages) = doc.text ∧
    doc.pageStarts.Sublist (pageBoundaries doc.text) ∧
    (∀ n, n ∈ pageBoundaries doc.text ↔ n ∈ doc.pageStarts ∨ BeginsInField c pages n) ∧
    ((∀ source text, IsField c pages source text → ∀ u v, text ≠ u ++ "\n" ++ (pageLead ++ v)) →
      pageBoundaries doc.text = doc.pageStarts ∧
      ∀ cfg,
        assemble cfg doc.text (some chapter) none =
          assemble cfg doc.text (some chapter) (some (startValues doc.pageStarts)) ∧
        assembleKnown cfg doc.text (some chapter) none =
          assembleKnown cfg doc.text (some chapter) (some (startValues doc.pageStarts))) := by
  intro chapter doc
  have text : printLines (documentLines c pages) = doc.text := Markdown.printLines_documentLines c pages
  have starts : doc.pageStarts ⊆ pageBoundaries doc.text := by
    intro n member
    have heading := headings_at_starts (headerSections c) pages n member
    exact mem_pageBoundaries_iff.2 ((Option.any_eq_true _ _).1 heading)
  have boundary (n : Nat) : n ∈ pageBoundaries doc.text ↔ n ∈ doc.pageStarts ∨ BeginsInField c pages n := by
    constructor
    · exact fun found => mem_startsFrom_or_of_mem_pageBoundaries (text ▸ found)
    · rintro (start | field)
      · exact starts start
      · exact text ▸ field.mem_pageBoundaries
  have increasing : doc.pageStarts.Pairwise (· < ·) := Markdown.pairwise_startsFrom _ _
  have found := pairwise_headingsFrom 0 (Text.lines doc.text)
  refine ⟨text, ?_, boundary, fun clean => ?_⟩
  · exact List.sublist_of_subperm_of_pairwise (List.subperm_of_subset increasing.nodup starts) increasing found
  · have same : pageBoundaries doc.text = doc.pageStarts := by
      refine List.Subset.antisymm_of_pairwise found increasing (fun n member => ?_) starts
      refine ((boundary n).1 member).resolve_right ?_
      rintro ⟨-, -, -, f, -, -, u, v, -, field, text, -⟩
      exact clean f.source f.text field u v text
    have cut : cuts (Text.lines doc.text) none = cuts (Text.lines doc.text) (some (startValues doc.pageStarts)) :=
      same.trans (cuts_pages (headerSections c) pages).symm
    refine ⟨same, fun cfg => ⟨?_, ?_⟩⟩
    · simp only [assemble, cut]
    · simp only [assembleKnown]
      rw [if_pos rfl]

/-- A chapter whose title has a page heading of its own, and the same chapter with another title: there the one page is found
whatever its description and its line of dialogue have. -/
theorem pageBoundaries_document_titled :
    let said : Dialogue := ⟨"Al", "e\n## f", "whisper", false⟩
    let panel : Panel := ⟨none, some "c\n## d", none, none, none, .filled [.filled said]⟩
    let pages : List (Slot Page) := [.filled ⟨none, .null, .filled [.filled panel]⟩]
    let titled (title : String) : Chapter := ⟨.str title, none, none, .filled pages⟩
    let doc (title : String) := Markdown.document (.filled (titled title))
    ((doc "a\n## b").pageStarts = [3] ∧ pageBoundaries (doc "a\n## b").text = [1, 3] ∧
      BeginsInField (titled "a\n## b") pages 1) ∧
    (∀ source text, IsField (titled "A") pages source text → ∀ u v, text ≠ u ++ "\n" ++ (pageLead ++ v)) ∧
    pageBoundaries (doc "A").text = (doc "A").pageStarts ∧
    assemble {} (doc "A").text (some (.filled (titled "A"))) none =
      assemble {} (doc "A").text (some (.filled (titled "A"))) (some (startValues (doc "A").pageStarts)) := by
  intro said panel pages titled doc
  have starts : (doc "a\n## b").pageStarts = [3] := by decide
  have found : pageBoundaries (doc "a\n## b").text = [1, 3] := by decide
  have begins : BeginsInField (titled "a\n## b") pages 1 := by
    have either := ((pageBoundaries_document (titled "a\n## b") pages).2.2.1 1).1 (by rw [show _ = _ from found]; decide)
    exact either.resolve_left (by rw [show _ = _ from starts]; decide)
  have clean : ∀ source text, IsField (titled "A") pages source text → ∀ u v, text ≠ u ++ "\n" ++ (pageLead ++ v) := by
    intro source text field u v cut
    have feed : '\n' ∈ text.toList := by
      rw [cut]
      simp
    have dialogue : pages.flatMap Markdown.pageDialogue = [said] := rfl
    cases source with
    | title =>
      obtain rfl : "A" = text := Option.some.inj field
      exact absurd feed (by decide)
    | synopsis => cases field
    | credit =>
      obtain ⟨entry, listed, -⟩ := field
      cases listed
    | speaker =>
      obtain ⟨d, listed, rfl⟩ := field
      rw [dialogue] at listed
      obtain rfl := List.mem_singleton.1 listed
      exact absurd feed (by decide)
    | type =>
      obtain ⟨d, listed, rfl⟩ := field
      rw [dialogue] at listed
      obtain rfl := List.mem_singleton.1 listed
      exact absurd feed (by decide)
  obtain ⟨same, preview⟩ := (pageBoundaries_document (titled "A") pages).2.2.2 clean
  exact ⟨⟨starts, found, begins⟩, clean, same, (preview {}).1⟩

end ComicScript.Preview
