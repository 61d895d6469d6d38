import ComicScript.Preview.Document
import ComicScript.Proofs.Diagram.Sizes
import ComicScript.Proofs.Preview.PageIndex
import ComicScript.Proofs.Preview.Scan

/-!
# The preview of a rendered chapter

Cut at the starts of its pages, the text of a chapter falls apart into its header and its pages again: each page is
converted on its own and stands beside its own diagram.
-/

namespace ComicScript.Preview
set_option autoImplicit false
open Markdown (height heights sectionLines joinSections startsFrom headerSections pagesFrom)

/-- The lines of a section, joined again, are the section and a line feed. -/
theorem convert_sectionLines (s : String) : convert (Text.unlines (sectionLines s)) = convert s ++ "\n" := by
  rw [sectionLines, ← Text.lines_lineFeed, Text.unlines_lines, convert_lineFeed]

/-- A cut up to the end of the text. -/
theorem linesBetween_append_length (before rest : List String) :
    linesBetween (before ++ rest) before.length (before ++ rest).length = Text.unlines rest := by
  rw [linesBetween, List.take_length, List.drop_left]

/-- A cut up to the start of the next section. -/
theorem linesBetween_append_append (before lines rest : List String) :
    linesBetween (before ++ (lines ++ rest)) before.length (before.length + lines.length) = Text.unlines lines := by
  rw [linesBetween, ← List.length_append, ← List.append_assoc, List.take_left, List.drop_left]

/-- The section of the `n`th of some pages, counted from zero: the page converted on its own, with one more line feed
unless it is the last, beside a diagram. -/
def pageBeside (last : Bool) (n : Nat) (slot : Slot Page) (svg : String) : String :=
  pageSection (n + 1) (convert (Markdown.page (n + 1 : Nat) slot) ++ if last then "" else "\n") svg

/-- The diagrams of some pages. -/
def diagrams (cfg : Config) (pages : List (Slot Page)) : Except Crash (List String) :=
  pages.mapM fun slot => pageDiagram cfg (some slot)

/-- The sections of pages beside some diagrams; the first page is the `n`th. -/
def pagesBeside (n : Nat) (pages : List (Slot Page)) (svgs : List String) : List String :=
  (pages.zip svgs).mapIdx fun i (slot, svg) => pageBeside (i + 1 == pages.length) (n + i) slot svg

theorem pagesBeside_cons (n : Nat) (slot : Slot Page) (rest : List (Slot Page)) (svg : String) (svgs : List String) :
    pagesBeside n (slot :: rest) (svg :: svgs) = pageBeside rest.isEmpty n slot svg :: pagesBeside (n + 1) rest svgs := by
  have last : (0 + 1 == (slot :: rest).length) = rest.isEmpty := by cases rest <;> simp
  rw [pagesBeside, List.zip_cons_cons, List.mapIdx_cons, last]
  simp [pagesBeside, Nat.add_assoc, Nat.add_comm 1]

theorem diagrams_cons (cfg : Config) (slot : Slot Page) (rest : List (Slot Page)) :
    diagrams cfg (slot :: rest) =
      pageDiagram cfg (some slot) >>= fun svg => diagrams cfg rest >>= fun svgs => .ok (svg :: svgs) :=
  List.mapM_cons

theorem sectionsFrom_cons (cfg : Config) (lines : List String) (pages : Slot (List (Slot Page))) (n start : Nat)
    (rest : List Nat) : sectionsFrom cfg lines pages n (start :: rest) =
      pageAt n pages >>= fun slot => pageDiagram cfg slot >>= fun svg =>
        sectionsFrom cfg lines pages (n + 1) rest >>= fun sections =>
          .ok (pageSection (n + 1) (convert (linesBetween lines start (rest.headD lines.length))) svg :: sections) := rfl

/-- A page beside its diagram, before the others beside theirs. -/
theorem pagesBeside_step (cfg : Config) (n : Nat) (slot : Slot Page) (rest : List (Slot Page)) :
    (pageDiagram cfg (some slot) >>= fun svg =>
        (diagrams cfg rest >>= fun svgs => .ok (pagesBeside (n + 1) rest svgs)) >>= fun sections =>
          .ok (pageBeside rest.isEmpty n slot svg :: sections)) =
      diagrams cfg (slot :: rest) >>= fun svgs => .ok (pagesBeside n (slot :: rest) svgs) := by
  rw [diagrams_cons]
  cases pageDiagram cfg (some slot) with
  | error c => rfl
  | ok svg =>
    cases diagrams cfg rest with
    | error c => rfl
    | ok svgs => exact congrArg Except.ok (pagesBeside_cons n slot rest svg svgs).symm

/-- The cuts of the text of pages are the pages. The lines before the first of them may be any lines, and there may be pages
before them. -/
theorem sectionsFrom_pages (cfg : Config) (before : List String) (earlier pages : List (Slot Page)) :
    sectionsFrom cfg (before ++ Text.lines (joinSections (pagesFrom (earlier.length + 1) pages))) (.filled (earlier ++ pages))
        earlier.length (startsFrom before.length (pagesFrom (earlier.length + 1) pages)) =
      diagrams cfg pages >>= fun svgs => .ok (pagesBeside earlier.length pages svgs) := by
  induction pages generalizing before earlier with
  | nil => rfl
  | cons slot rest ih =>
    have own : pageAt earlier.length (.filled (earlier ++ slot :: rest)) = .ok (some slot) := by
      rw [pageAt, List.getElem?_append_right (Nat.le_refl _), Nat.sub_self]
      rfl
    rw [← pagesBeside_step]
    cases rest with
    | nil =>
      simp only [pagesFrom, Markdown.joinSections_singleton, startsFrom, sectionsFrom_cons, List.headD_nil, own,
        linesBetween_append_length, Text.unlines_lines]
      simp [pageBeside, sectionsFrom, diagrams, pagesBeside]
      rfl
    | cons next rest =>
      let block := Markdown.page (earlier.length + 1 : Nat) slot
      let blocks := pagesFrom (earlier.length + 1 + 1) (next :: rest)
      have here := ih (before ++ sectionLines block) (earlier ++ [slot])
      simp only [List.append_assoc, List.length_append, Markdown.length_sectionLines, List.singleton_append,
        List.length_singleton] at here
      have unfolded : pagesFrom (earlier.length + 1) (slot :: next :: rest) = block :: blocks := rfl
      have joined : Text.lines (joinSections (block :: blocks)) =
          sectionLines block ++ Text.lines (joinSections blocks) :=
        Markdown.lines_joinSections_cons_cons _ _ _
      have following : (startsFrom (before.length + height block) blocks).headD
          (before ++ (sectionLines block ++ Text.lines (joinSections blocks))).length =
            before.length + (sectionLines block).length := by
        rw [Markdown.length_sectionLines]
        rfl
      rw [unfolded, joined, startsFrom, sectionsFrom_cons, own, following, linesBetween_append_append,
        convert_sectionLines, here]
      rfl

/-- What is cut off before the first page is the header, with a line feed at its end if there are pages. -/
theorem linesBetween_header (header : List String) (pages : List (Slot Page)) :
    let lines := Text.lines (joinSections (header ++ pagesFrom 1 pages))
    let starts := startsFrom (heights header) (pagesFrom 1 pages)
    linesBetween lines 0 (starts.headD lines.length) =
      if header.isEmpty then "" else joinSections header ++ if pages.isEmpty then "" else "\n" := by
  intro lines starts
  rw [linesBetween, List.drop_zero]
  cases pages with
  | nil =>
    have whole : lines = Text.lines (joinSections header) := by simp [lines, pagesFrom]
    rw [show starts.headD lines.length = lines.length from rfl, List.take_length, whole, Text.unlines_lines]
    cases header with
    | nil => rfl
    | cons s rest => simp
  | cons slot rest =>
    have whole : lines = header.flatMap sectionLines ++ Text.lines (joinSections (pagesFrom 1 (slot :: rest))) :=
      Markdown.lines_joinSections_append header _ _
    have first : starts.headD lines.length = (header.flatMap sectionLines).length := by
      rw [Markdown.length_flatMap_sectionLines]
      rfl
    rw [first, whole, List.take_left]
    cases header with
    | nil => rfl
    | cons s others =>
      rw [← Markdown.lines_joinSections_lineFeed (List.cons_ne_nil s others), Text.unlines_lines]
      rfl

/-- A header is shown if there is one, whether or not pages follow it. -/
theorem headerSection_header {header : List String} (h : ∀ s ∈ header, Text.allBlank s = false) (last : Bool) :
    headerSection (if header.isEmpty then "" else joinSections header ++ if last then "" else "\n") =
      if header.isEmpty then ""
      else
        "<div class=\"chapter-header\">\n" ++ (convert (joinSections header) ++ if last then "" else "\n") ++
          "</div>\n" := by
  cases header with
  | nil => rfl
  | cons s rest =>
    have visible (ending : String) : Text.allBlank (joinSections (s :: rest) ++ ending) = false := by
      have begins := Markdown.joinSections_append_cons s "" rest
      rw [String.append_empty] at begins
      rw [begins, String.append_assoc]
      exact Text.allBlank_append_left (h s List.mem_cons_self) _
    have converted : convert (joinSections (s :: rest) ++ if last then "" else "\n") =
        convert (joinSections (s :: rest)) ++ if last then "" else "\n" := by
      cases last
      · exact convert_lineFeed _
      · simp
    simp only [List.isEmpty_cons, Bool.false_eq_true, if_false, headerSection, visible, converted]

/-- Whatever the header, the sections of a rendered chapter are its pages. -/
theorem sectionsFrom_header (cfg : Config) (header : List String) (pages : List (Slot Page)) :
    sectionsFrom cfg (Text.lines (joinSections (header ++ pagesFrom 1 pages))) (.filled pages) 0
        (startsFrom (heights header) (pagesFrom 1 pages)) =
      diagrams cfg pages >>= fun svgs => .ok (pagesBeside 0 pages svgs) := by
  cases pages with
  | nil => rfl
  | cons slot rest =>
    have cuts := sectionsFrom_pages cfg (header.flatMap sectionLines) [] (slot :: rest)
    rw [List.nil_append, List.length_nil, Nat.zero_add] at cuts
    rw [← cuts, Markdown.length_flatMap_sectionLines]
    congr 1
    exact Markdown.lines_joinSections_append header _ _

/-- Pages whose layouts can be written have diagrams in sizes that fit. -/
theorem exists_diagrams {cfg : Config} (fits : cfg.Fits) {pages : List (Slot Page)}
    (h : ∀ p, .filled p ∈ pages → p.layout.Writable) : ∃ svgs, diagrams cfg pages = .ok svgs := by
  induction pages with
  | nil => exact ⟨[], rfl⟩
  | cons slot rest ih =>
    have own : ∀ p, some slot = some (.filled p) → p.layout.Writable := by
      intro p same
      exact h p (Option.some.inj same ▸ List.mem_cons_self)
    obtain ⟨svg, first⟩ := Diagram.exists_pageDiagram fits own
    obtain ⟨svgs, others⟩ := ih fun p member => h p (List.mem_cons_of_mem _ member)
    exact ⟨svg :: svgs, by rw [diagrams_cons, first, others]; rfl⟩

/-- The body of a chapter's document: the header, if there is one, and a section for each page beside its diagram. -/
theorem bodyOf_eq (cfg : Config) (c : Chapter) (pages : List (Slot Page)) :
    bodyOf cfg (.filled { c with pages := .filled pages }) = diagrams cfg pages >>= fun svgs =>
      .ok ((if (headerSections c).isEmpty then ""
        else "<div class=\"chapter-header\">\n" ++
          (convert (joinSections (headerSections c)) ++ if pages.isEmpty then "" else "\n") ++ "</div>\n") ++
        String.join (pagesBeside 0 pages svgs)) := by
  let chapter := Slot.filled { c with pages := .filled pages }
  have text : (Markdown.document chapter).text = joinSections (headerSections c ++ pagesFrom 1 pages) := rfl
  have starts : (Markdown.document chapter).pageStarts = startsFrom (heights (headerSections c)) (pagesFrom 1 pages) := rfl
  have own : pagesOf chapter = .filled pages := rfl
  have visible : ∀ s ∈ headerSections c, Text.allBlank s = false := fun _ member =>
    Markdown.allBlank_of_mem_headerSections member
  change bodyOf cfg chapter = _
  simp only [bodyOf, assemble, own, text, starts, cuts_pages, linesBetween_header, sectionsFrom_header,
    headerSection_header visible]
  cases diagrams cfg pages <;> rfl

/-- In sizes that fit there is a body for every chapter whose layouts can be written. -/
theorem exists_bodyOf {cfg : Config} (fits : cfg.Fits) (c : Chapter) {pages : List (Slot Page)}
    (h : ∀ p, .filled p ∈ pages → p.layout.Writable) :
    ∃ body, bodyOf cfg (.filled { c with pages := .filled pages }) = .ok body := by
  obtain ⟨svgs, drawn⟩ := exists_diagrams fits h
  rw [bodyOf_eq, drawn]
  exact ⟨_, rfl⟩

/-- **The preview of a rendered chapter.** Its header, converted, in a part of its own if there is one; then, in order, a
section for each page with the page converted on its own, beside the diagram of that page. In sizes that fit it is made
unless a layout cannot be written. -/
theorem assemble_document (cfg : Config) (c : Chapter) (pages : List (Slot Page)) :
    let chapter := Slot.filled { c with pages := .filled pages }
    let doc := Markdown.document chapter
    let header := headerSections c
    let html := assemble cfg doc.text (some chapter) (some (startValues doc.pageStarts))
    (html = do
      let svgs ← pages.mapM fun slot => pageDiagram cfg (some slot)
      return (if header.isEmpty then ""
        else
          "<div class=\"chapter-header\">\n" ++
            (convert (joinSections header) ++ if pages.isEmpty then "" else "\n") ++ "</div>\n") ++
        String.join ((pages.zip svgs).mapIdx fun n (slot, svg) => pageBeside (n + 1 == pages.length) n slot svg)) ∧
    (cfg.Fits → (∀ p, .filled p ∈ pages → p.layout.Writable) → ∃ text, html = .ok text) := by
  intro chapter doc header html
  have whole : html = _ := bodyOf_eq cfg c pages
  refine ⟨?_, fun fits writable => exists_bodyOf fits c writable⟩
  rw [whole]
  simp only [pagesBeside, Nat.zero_add]
  rfl

end ComicScript.Preview
