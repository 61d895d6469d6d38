import ComicScript.Proofs.Diagram.Sizes
import ComicScript.Proofs.Preview.Scan

/-!
# Cutting at page headings

The preview cuts a markdown text where it is told to, if there are page headings, and at all page headings otherwise. A page
heading is never part of a quote, so the pieces are converted apart: put together again they are the text converted as a
whole. Only the page beside a piece can be out of reach, in a chapter that has something else in the place of its pages.
-/

namespace ComicScript.Preview
set_option autoImplicit false

/-! ## Lines that are converted apart -/

/-- Some lines as HTML. -/
def convertLines (lines : List String) : String :=
  (lines.foldl Scan.feed Scan.start).finish

theorem convert_unlines {lines : List String} (nonempty : lines ≠ []) (clean : ∀ line ∈ lines, '\n' ∉ line.toList) :
    convert (Text.unlines lines) = convertLines lines := by
  rw [convert, Text.lines_unlines nonempty clean, convertLines]

/-- Lines whose first one is not quoted are converted apart from the lines before them. -/
theorem convertLines_append (before : List String) {after : List String}
    (plain : ∀ line ∈ after.head?, Text.startsWith quoteLead line = false) :
    convertLines (before ++ after) = convertLines before ++ convertLines after := by
  cases after with
  | nil => simp [convertLines, Scan.finish, Scan.flush, Scan.start]
  | cons line rest =>
    have tidy := Scan.tidy_start.foldl before
    rw [convertLines, List.foldl_append, List.foldl_cons, tidy.feed_plain (plain line rfl), Scan.foldl_feed_behind,
      Scan.finish_behind]
    rfl

/-- Quoted lines are converted to one quote. -/
theorem convertLines_quoted {lines : List String} (some_lines : lines ≠ [])
    (quoted : ∀ line ∈ lines, Text.startsWith quoteLead line = true) :
    convertLines lines = blockquote (lines.map (Text.drop quoteLead.length)) := by
  obtain ⟨line, rest, rfl⟩ := List.exists_cons_of_ne_nil some_lines
  obtain ⟨first, others⟩ := List.forall_mem_cons.1 quoted
  rw [convertLines, List.foldl_cons, Scan.feed, if_pos first, Scan.foldl_feed_quoted others rfl, Scan.finish]
  simp [Scan.flush, Scan.start]

theorem plain_of_allBlank {line : String} (h : Text.allBlank line = true) : Text.startsWith quoteLead line = false := by
  cases quoted : Text.startsWith quoteLead line with
  | false => rfl
  | true =>
    have visible : Text.allBlank line = false := by
      rw [← Text.append_drop_of_startsWith quoted]
      exact Text.allBlank_append_left (by decide) _
    rw [visible] at h
    cases h

/-- Blank lines are converted to line feeds. -/
theorem convertLines_of_allBlank {lines : List String} (h : ∀ line ∈ lines, Text.allBlank line = true) :
    convertLines lines = String.join (List.replicate lines.length "\n") := by
  induction lines with
  | nil => rfl
  | cons line rest ih =>
    have blank := h line List.mem_cons_self
    have others (other : String) (member : other ∈ rest) : Text.allBlank other = true :=
      h other (List.mem_cons_of_mem _ member)
    have first : convertLines [line] = "\n" := by
      simp [convertLines, Scan.feed, plain_of_allBlank blank, Scan.finish, Scan.flush, Scan.start, plainLine, blank]
    have apart : convertLines ([line] ++ rest) = convertLines [line] ++ convertLines rest :=
      convertLines_append [line] fun other head => plain_of_allBlank (others other (List.mem_of_mem_head? head))
    rw [List.singleton_append] at apart
    rw [apart, first, ih others]
    simp [List.replicate_succ]

/-! ## Where the preview cuts -/

/-- Lines to cut at: each comes after the one before and is a page heading. -/
structure Cuttable (lines : List String) (cuts : List Nat) : Prop where
  increasing : cuts.Pairwise (· < ·)
  headings : ∀ cut ∈ cuts, ∃ line, lines[cut]? = some line ∧ Text.startsWith pageLead line = true

/-- A page heading is not quoted. -/
theorem plain_of_heading {line : String} (h : Text.startsWith pageLead line = true) :
    Text.startsWith quoteLead line = false := by
  rw [← Text.append_drop_of_startsWith h]
  simp [Text.startsWith, quoteLead, pageLead, List.isPrefixOf]

/-- Lines that are trusted come after the line before them. -/
theorem of_trusted? {lines : List String} {before : Int} (least : -1 ≤ before) {starts : List Value} {cuts : List Nat}
    (h : trusted? lines before starts = some cuts) :
    (∀ cut ∈ cuts, before < (cut : Int)) ∧ Cuttable lines cuts := by
  induction starts generalizing before cuts with
  | nil =>
    cases h
    exact ⟨fun _ member => (List.not_mem_nil member).elim, .nil, fun _ member => (List.not_mem_nil member).elim⟩
  | cons v rest ih =>
    unfold trusted? at h
    split at h
    · cases h
    · rename_i n number
      split at h
      · cases h
      · split at h
        · rename_i above heading
          obtain ⟨later, found, rfl⟩ := Option.map_eq_some_iff.1 h
          obtain ⟨higher, increasing, headings⟩ := ih (by omega) found
          refine ⟨?_, .cons ?_ increasing, ?_⟩
          · intro cut member
            rcases List.mem_cons.1 member with rfl | tail
            · omega
            · have := higher cut tail
              omega
          · intro cut member
            have := higher cut member
            omega
          · intro cut member
            rcases List.mem_cons.1 member with rfl | tail
            · simpa [Option.any_eq_true] using heading
            · exact headings cut tail
        · cases h

theorem of_mem_headingsFrom {i cut : Nat} {lines : List String} (h : cut ∈ headingsFrom i lines) :
    i ≤ cut ∧ ∃ line, lines[cut - i]? = some line ∧ Text.startsWith pageLead line = true := by
  induction lines generalizing i with
  | nil => cases h
  | cons line rest ih =>
    have later (member : cut ∈ headingsFrom (i + 1) rest) :
        i ≤ cut ∧ ∃ other, (line :: rest)[cut - i]? = some other ∧ Text.startsWith pageLead other = true := by
      obtain ⟨bound, other, found, heading⟩ := ih member
      have step : cut - i = cut - (i + 1) + 1 := by omega
      exact ⟨by omega, other, by rw [step, List.getElem?_cons_succ, found], heading⟩
    unfold headingsFrom at h
    split at h
    · rename_i heading
      rcases List.mem_cons.1 h with rfl | tail
      · exact ⟨Nat.le_refl _, line, by simp, heading⟩
      · exact later tail
    · exact later h

theorem pairwise_headingsFrom (i : Nat) (lines : List String) : (headingsFrom i lines).Pairwise (· < ·) := by
  induction lines generalizing i with
  | nil => exact .nil
  | cons line rest ih =>
    unfold headingsFrom
    split
    · exact .cons (fun cut member => (of_mem_headingsFrom member).1) (ih _)
    · exact ih _

/-- Whatever lines are given, the preview cuts at page headings. -/
theorem cuttable_cuts (lines : List String) (starts : Option (List Value)) : Cuttable lines (cuts lines starts) := by
  unfold cuts
  cases found : starts.bind (trusted? lines (-1)) with
  | none => exact ⟨pairwise_headingsFrom _ _, fun cut member => (of_mem_headingsFrom member).2⟩
  | some cuts =>
    obtain ⟨given, -, trusted⟩ := Option.bind_eq_some_iff.1 found
    exact (of_trusted? (Int.le_refl _) trusted).2

/-! ## The pieces -/

/-- The markdown of the sections that are cut at the given lines: from each cut up to the next one, or to the end. -/
def sectionTexts (lines : List String) : List Nat → List String
  | [] => []
  | start :: rest => linesBetween lines start (rest.headD lines.length) :: sectionTexts lines rest

theorem length_sectionTexts (lines : List String) (cuts : List Nat) : (sectionTexts lines cuts).length = cuts.length := by
  induction cuts with
  | nil => rfl
  | cons start rest ih => rw [sectionTexts, List.length_cons, ih, List.length_cons]

theorem Cuttable.tail {lines : List String} {start : Nat} {rest : List Nat} (h : Cuttable lines (start :: rest)) :
    Cuttable lines rest :=
  ⟨h.increasing.tail, fun cut member => h.headings cut (List.mem_cons_of_mem _ member)⟩

/-- The lines from a cut on begin with a line that is not quoted. -/
theorem Cuttable.plain {lines : List String} {cuts : List Nat} (h : Cuttable lines cuts) {cut : Nat}
    (member : cut ∈ cuts) : ∀ line ∈ (lines.drop cut).head?, Text.startsWith quoteLead line = false := by
  obtain ⟨heading, found, shown⟩ := h.headings cut member
  intro line first
  rw [List.head?_drop, found] at first
  obtain rfl : heading = line := Option.some.inj first
  exact plain_of_heading shown

theorem Cuttable.lt_length {lines : List String} {cuts : List Nat} (h : Cuttable lines cuts) {cut : Nat}
    (member : cut ∈ cuts) : cut < lines.length := by
  obtain ⟨heading, found, -⟩ := h.headings cut member
  exact (List.getElem?_eq_some_iff.1 found).1

/-- A piece that is not empty is converted as its lines are. -/
theorem convert_linesBetween {lines : List String} (clean : ∀ line ∈ lines, '\n' ∉ line.toList) {first last : Nat}
    (nonempty : (lines.take last).drop first ≠ []) :
    convert (linesBetween lines first last) = convertLines ((lines.take last).drop first) :=
  convert_unlines nonempty fun line member => clean line (List.mem_of_mem_take (List.mem_of_mem_drop member))

/-- The pieces from a cut on, converted on their own, are the lines from there on, converted together. -/
theorem join_sectionTexts {lines : List String} (clean : ∀ line ∈ lines, '\n' ∉ line.toList) {start : Nat}
    {rest : List Nat} (h : Cuttable lines (start :: rest)) :
    String.join ((sectionTexts lines (start :: rest)).map convert) = convertLines (lines.drop start) := by
  induction rest generalizing start with
  | nil =>
    have inside := h.lt_length List.mem_cons_self
    have whole : (lines.take lines.length).drop start = lines.drop start := by rw [List.take_length]
    have nonempty : (lines.take lines.length).drop start ≠ [] := by
      rw [whole]
      exact fun none => absurd (List.drop_eq_nil_iff.1 none) (by omega)
    rw [← whole, ← convert_linesBetween clean nonempty]
    simp [sectionTexts]
  | cons next rest ih =>
    have inside := h.lt_length (List.mem_cons_of_mem _ List.mem_cons_self)
    have above : start < next := (List.pairwise_cons.1 h.increasing).1 next List.mem_cons_self
    have nonempty : (lines.take next).drop start ≠ [] := by
      intro none
      have short := List.drop_eq_nil_iff.1 none
      rw [List.length_take] at short
      omega
    have split : lines.drop start = (lines.take next).drop start ++ lines.drop next := by
      have shorter : start ≤ (lines.take next).length := by
        rw [List.length_take]
        omega
      rw [← List.drop_append_of_le_length shorter, List.take_append_drop]
    have apart := convertLines_append ((lines.take next).drop start)
      (h.plain (List.mem_cons_of_mem _ List.mem_cons_self))
    rw [split, apart, ← ih h.tail, ← convert_linesBetween clean nonempty]
    simp [sectionTexts]

/-- What stands before the first cut, converted on its own; a blank header counts with a line feed for each of its lines. -/
theorem convert_header {lines : List String} (clean : ∀ line ∈ lines, '\n' ∉ line.toList) {before : Nat}
    (inside : before ≤ lines.length) :
    (if Text.allBlank (linesBetween lines 0 before) then String.join (List.replicate before "\n")
      else convert (linesBetween lines 0 before)) = convertLines (lines.take before) := by
  have text : linesBetween lines 0 before = Text.unlines (lines.take before) := by rw [linesBetween, List.drop_zero]
  rw [text]
  split
  · rename_i blank
    rw [Text.allBlank_unlines, List.all_eq_true] at blank
    rw [convertLines_of_allBlank blank, List.length_take, Nat.min_eq_left inside]
  · rename_i visible
    have nonempty : lines.take before ≠ [] := by
      intro none
      rw [none] at visible
      exact visible rfl
    exact convert_unlines nonempty fun line member => clean line (List.mem_of_mem_take member)

/-- The header and the pieces, converted on their own, are the text, converted as a whole. -/
theorem convert_header_append_join {lines : List String} (clean : ∀ line ∈ lines, '\n' ∉ line.toList) {cuts : List Nat}
    (h : Cuttable lines cuts) :
    (if Text.allBlank (linesBetween lines 0 (cuts.headD lines.length)) then
        String.join (List.replicate (cuts.headD lines.length) "\n")
      else convert (linesBetween lines 0 (cuts.headD lines.length))) ++
        String.join ((sectionTexts lines cuts).map convert) = convertLines lines := by
  cases cuts with
  | nil =>
    rw [List.headD_nil, convert_header clean (Nat.le_refl _), List.take_length]
    simp [sectionTexts]
  | cons start rest =>
    have inside := h.lt_length List.mem_cons_self
    rw [List.headD_cons, convert_header clean (Nat.le_of_lt inside), join_sectionTexts clean h,
      ← convertLines_append _ (h.plain List.mem_cons_self), List.take_append_drop]

/-! ## The pages beside the pieces -/

/-- Whether something can be asked for what is in its `n`th place: a row can, also past its end, a mapping that has the number
as a key or is past it, and a set only past its size. -/
def Place (n : Nat) : Value → Prop
  | .str _ => True
  | .bytes _ => True
  | .list _ => True
  | .tuple _ => True
  | .set items => items.length ≤ n
  | .map entries => entries.length ≤ n ∨ ∃ entry ∈ entries, entry.1.sameKey (.int n) = true
  | _ => False

/-- Whether the page of the `n`th section can be looked for. -/
def HasPlace (n : Nat) : Slot (List (Slot Page)) → Prop
  | .filled _ => True
  | .malformed found => Place n found

/-- The pages in their place; something else there has none. -/
def listOf (pages : Slot (List (Slot Page))) : List (Slot Page) :=
  pages.part?.getD []

theorem ite_error_eq_ok_iff {p : Prop} [Decidable p] {c : Crash} :
    (if p then .error c else .ok () : Except Crash Unit) = .ok () ↔ ¬ p := by
  split
  · rename_i wrong
    exact iff_of_false (fun same => nomatch same) (fun right => right wrong)
  · rename_i right
    exact iff_of_true rfl right

theorem lookFor_eq_ok_iff {n : Nat} {found : Value} : lookFor n found = .ok () ↔ Place n found := by
  cases found with
  | set items => rw [lookFor, Place, ite_error_eq_ok_iff, Nat.not_lt]
  | map entries =>
    rw [lookFor, Place, ite_error_eq_ok_iff, Decidable.not_and_iff_not_or_not, Nat.not_lt]
    refine or_congr Iff.rfl ?_
    simp
  | _ => simp [lookFor, Place]

/-- The page of a section is the one with its number, where it can be looked for. -/
theorem pageAt_eq_ok_iff {n : Nat} {pages : Slot (List (Slot Page))} {slot : Option (Slot Page)} :
    pageAt n pages = .ok slot ↔ HasPlace n pages ∧ slot = (listOf pages)[n]? := by
  cases pages with
  | filled list =>
    rw [pageAt, Except.ok.injEq, eq_comm]
    exact (and_iff_right trivial).symm
  | malformed found =>
    have none (slot : Option (Slot Page)) : slot = (listOf (.malformed found))[n]? ↔ slot = none := Iff.rfl
    rw [none, HasPlace, ← lookFor_eq_ok_iff, pageAt]
    cases lookFor n found with
    | error c => exact iff_of_false (by simp) (by simp)
    | ok _ => exact ⟨fun same => ⟨rfl, (Except.ok.inj same).symm⟩, fun both => congrArg Except.ok both.2.symm⟩

/-- The pieces beside their diagrams; the first of them is the `n`th, counted from zero. -/
def sectionsBeside (n : Nat) (bodies svgs : List String) : List String :=
  (bodies.zip svgs).mapIdx fun i (body, svg) => pageSection (n + i + 1) body svg

theorem sectionsBeside_cons (n : Nat) (body : String) (bodies : List String) (svg : String) (svgs : List String) :
    sectionsBeside n (body :: bodies) (svg :: svgs) = pageSection (n + 1) body svg :: sectionsBeside (n + 1) bodies svgs := by
  rw [sectionsBeside, List.zip_cons_cons, List.mapIdx_cons]
  simp [sectionsBeside, Nat.add_assoc, Nat.add_comm 1]

section Sections

variable {cfg : Config} {lines : List String} {pages : Slot (List (Slot Page))} {n : Nat} {cuts : List Nat}

theorem exists_sectionsFrom_cons_iff {start : Nat} {rest : List Nat} :
    (∃ sections, sectionsFrom cfg lines pages n (start :: rest) = .ok sections) ↔
      (∃ slot svg, pageAt n pages = .ok slot ∧ pageDiagram cfg slot = .ok svg) ∧
        ∃ sections, sectionsFrom cfg lines pages (n + 1) rest = .ok sections := by
  constructor
  · rintro ⟨sections, made⟩
    obtain ⟨slot, found, more⟩ := exists_of_bind_eq_ok made
    obtain ⟨svg, drawn, others⟩ := exists_of_bind_eq_ok more
    obtain ⟨later, following, -⟩ := exists_of_bind_eq_ok others
    exact ⟨⟨slot, svg, found, drawn⟩, later, following⟩
  · rintro ⟨⟨slot, svg, found, drawn⟩, later, following⟩
    exact ⟨_, by rw [sectionsFrom, found]; simp only [bind, Except.bind, drawn, following]; rfl⟩

/-- There are sections exactly if each of them finds its page and has a diagram. -/
theorem exists_sectionsFrom_iff : (∃ sections, sectionsFrom cfg lines pages n cuts = .ok sections) ↔
    ∀ i < cuts.length, ∃ slot svg, pageAt (n + i) pages = .ok slot ∧ pageDiagram cfg slot = .ok svg := by
  induction cuts generalizing n with
  | nil => exact iff_of_true ⟨[], rfl⟩ fun i inside => absurd inside (Nat.not_lt_zero i)
  | cons start rest ih =>
    rw [exists_sectionsFrom_cons_iff, ih]
    constructor
    · rintro ⟨here, later⟩ i inside
      cases i with
      | zero => exact here
      | succ i =>
        rw [Nat.add_comm i 1, ← Nat.add_assoc]
        exact later i (Nat.lt_of_succ_lt_succ inside)
    · intro all
      refine ⟨all 0 (Nat.succ_pos _), fun i inside => ?_⟩
      rw [Nat.add_assoc, Nat.add_comm 1 i]
      exact all (i + 1) (Nat.succ_lt_succ inside)

/-- Each section shows its piece, converted on its own, beside the diagram of the page with its number. -/
theorem of_sectionsFrom {sections : List String} (h : sectionsFrom cfg lines pages n cuts = .ok sections) :
    ∃ svgs, svgs.length = cuts.length ∧
      (∀ i svg, svgs[i]? = some svg → pageDiagram cfg (listOf pages)[n + i]? = .ok svg) ∧
      sections = sectionsBeside n ((sectionTexts lines cuts).map convert) svgs := by
  induction cuts generalizing n sections with
  | nil =>
    cases h
    exact ⟨[], rfl, fun i svg found => absurd found (by simp), rfl⟩
  | cons start rest ih =>
    obtain ⟨slot, found, more⟩ := exists_of_bind_eq_ok h
    obtain ⟨svg, drawn, others⟩ := exists_of_bind_eq_ok more
    obtain ⟨later, following, same⟩ := exists_of_bind_eq_ok others
    obtain ⟨svgs, count, each, rfl⟩ := ih following
    obtain ⟨-, rfl⟩ := pageAt_eq_ok_iff.1 found
    refine ⟨svg :: svgs, by rw [List.length_cons, count, List.length_cons], ?_, ?_⟩
    · intro i other inside
      cases i with
      | zero =>
        obtain rfl := Option.some.inj inside
        exact drawn
      | succ i =>
        rw [Nat.add_comm i 1, ← Nat.add_assoc]
        exact each i other inside
    · rw [← Except.ok.inj same, sectionTexts, List.map_cons, sectionsBeside_cons]

end Sections

/-- **Cutting loses nothing.** In sizes that fit the preview of a chapter is made exactly if there is a place to look for the
page of each section, and the first line of its layout that is no text can be written. It is a header, unless what stands
before the first cut is blank, and a section for each cut, beside the diagram of the page with its number. The header and the
bodies of the sections, one after another, are the whole text as HTML, where a header that is left out counts with one line
feed for each of its lines; and each cut is at a page heading, so never inside a quote. -/
theorem assemble_cuts (cfg : Config) (markdown : String) (slot : Slot Chapter) (starts : Option (List Value)) :
    let lines := Text.lines markdown
    let cuts := cuts lines starts
    let before := cuts.headD lines.length
    let header := linesBetween lines 0 before
    let bodies := (sectionTexts lines cuts).map convert
    let pages := listOf (pagesOf slot)
    (cfg.Fits → ((∃ html, assemble cfg markdown (some slot) starts = .ok html) ↔
      ∀ n < cuts.length, HasPlace n (pagesOf slot) ∧
        ∀ p line, pages[n]? = some (.filled p) → Layout.FirstStray p.layout line → line.Writable)) ∧
    (∀ html, assemble cfg markdown (some slot) starts = .ok html → ∃ svgs : List String, svgs.length = cuts.length ∧
      (∀ (n : Nat) svg, svgs[n]? = some svg → pageDiagram cfg pages[n]? = .ok svg) ∧
      html =
        (if Text.allBlank header then "" else "<div class=\"chapter-header\">\n" ++ convert header ++ "</div>\n") ++
          String.join ((bodies.zip svgs).mapIdx fun n (body, svg) => pageSection (n + 1) body svg)) ∧
    bodies.length = cuts.length ∧
    (if Text.allBlank header then String.join (List.replicate before "\n") else convert header) ++ String.join bodies =
      convert markdown ∧
    cuts.Pairwise (· < ·) ∧
    ∀ cut ∈ cuts, ∃ line, lines[cut]? = some line ∧ Text.startsWith pageLead line = true ∧
      Text.startsWith quoteLead line = false := by
  intro lines cuts before header bodies pages
  have cuttable : Cuttable lines cuts := cuttable_cuts lines starts
  have made : assemble cfg markdown (some slot) starts = sectionsFrom cfg lines (pagesOf slot) 0 cuts >>= fun sections =>
    .ok (headerSection header ++ String.join sections) := rfl
  refine ⟨?possible, ?whole, ?count, ?text, cuttable.increasing, ?headings⟩
  case possible =>
    intro fits
    have sections : (∃ html, assemble cfg markdown (some slot) starts = .ok html) ↔
        ∃ sections, sectionsFrom cfg lines (pagesOf slot) 0 cuts = .ok sections := by
      rw [made]
      cases sectionsFrom cfg lines (pagesOf slot) 0 cuts with
      | error c => exact iff_of_false (by nofun) (by nofun)
      | ok sections => exact iff_of_true ⟨_, rfl⟩ ⟨_, rfl⟩
    rw [sections, exists_sectionsFrom_iff]
    refine forall₂_congr fun n inside => ?_
    rw [Nat.zero_add, ← Diagram.exists_pageDiagram_iff fits]
    simp only [pageAt_eq_ok_iff]
    constructor
    · rintro ⟨_, svg, ⟨place, rfl⟩, drawn⟩
      exact ⟨place, svg, drawn⟩
    · rintro ⟨place, svg, drawn⟩
      exact ⟨_, svg, ⟨place, rfl⟩, drawn⟩
  case whole =>
    intro html shown
    rw [made] at shown
    obtain ⟨sections, found, same⟩ := exists_of_bind_eq_ok shown
    obtain ⟨svgs, count, each, rfl⟩ := of_sectionsFrom found
    simp only [sectionsBeside, Nat.zero_add] at each same
    exact ⟨svgs, count, each, (Except.ok.inj same).symm⟩
  case count => rw [List.length_map, length_sectionTexts]
  case text => exact convert_header_append_join (fun _ => Text.lineFeed_not_mem_of_mem_lines) cuttable
  case headings =>
    intro cut member
    obtain ⟨line, found, heading⟩ := cuttable.headings cut member
    exact ⟨line, found, heading, plain_of_heading heading⟩

/-- A quote right before a page heading, in a preview of something that is no chapter: the given lines are not trusted. -/
theorem assemble_cuts_quote :
    ∃ html svg, assemble {} "> a\n## b" (some (.malformed (.int 42))) (some [.int 1, .str "x"]) = .ok html ∧
      pageDiagram {} none = .ok svg ∧
      html = "<div class=\"chapter-header\">\n" ++ convert "> a" ++ "</div>\n" ++ pageSection 1 (convert "## b") svg ∧
      convert "> a" ++ convert "## b" = convert "> a\n## b" := by
  obtain ⟨shown, made, -, whole, -⟩ := assemble_cuts {} "> a\n## b" (.malformed (.int 42)) (some [.int 1, .str "x"])
  have cut : cuts (Text.lines "> a\n## b") (some [.int 1, .str "x"]) = [1] := by decide
  have header : linesBetween (Text.lines "> a\n## b") 0 1 = "> a" := by decide
  have body : sectionTexts (Text.lines "> a\n## b") [1] = ["## b"] := by decide
  have visible : Text.allBlank "> a" = false := by decide
  have nothing : listOf (pagesOf (.malformed (.int 42))) = [] := rfl
  obtain ⟨html, written⟩ := (shown Config.fits_default).2 fun n _ => ⟨trivial, fun p line here => by simp [nothing] at here⟩
  obtain ⟨svgs, count, drawn, same⟩ := made html written
  simp only [cut, List.headD_cons, header, body, visible, Bool.false_eq_true, if_false] at count same whole
  obtain ⟨svg, rfl⟩ := List.length_eq_one_iff.1 count
  exact ⟨html, svg, written, drawn 0 svg rfl, by simpa using same, by simpa using whole⟩

/-- A number in the place of the pages has no place for the page of a section. -/
theorem assemble_of_numbered_pages :
    assemble {} "## a" (some (.filled ⟨.null, none, none, .malformed (.int 5)⟩)) none = .error (.notList "int") :=
  rfl

end ComicScript.Preview
