import ComicScript.Proofs.Markdown.Entries
import ComicScript.Proofs.Markdown.Sections

/-!
# What a chapter is printed from

A rendered chapter once more, as lines that say where their text comes from: the renderer's own words, and the texts of the
author that are printed as they are. Those are the title, the synopsis, the entries of the credits, and the speaker and
the type of a line of dialogue; all other texts are collapsed first and count with the words around them.
-/

namespace ComicScript.Markdown
set_option autoImplicit false

/-- What of a chapter is printed as the author wrote it. -/
inductive Source
  | title
  | synopsis
  | credit
  | speaker
  | type
  deriving DecidableEq, Repr

/-- A text of the author as it is printed: speakers are written in capital letters. -/
def Source.print : Source → String → String
  | speaker, text => Text.upper text
  | _, text => text

theorem Source.print_append (source : Source) (a b : String) :
    source.print (a ++ b) = source.print a ++ source.print b := by
  cases source with
  | speaker => exact Text.upper_append a b
  | _ => rfl

/-- A text of the author, and the words after it. -/
structure Field where
  source : Source
  text : String
  after : String
  deriving DecidableEq, Repr

/-- A line of a chapter: the words it begins with, and the texts of the author on it. It is one line unless a text of the
author has a line feed. -/
structure Line where
  lead : String
  fields : List Field
  deriving DecidableEq, Repr

/-- Some words and the texts of the author after them, as they are printed. -/
def printFrom (lead : String) : List Field → String
  | [] => lead
  | f :: rest => lead ++ f.source.print f.text ++ printFrom f.after rest

theorem printFrom_append_cons (lead : String) (before : List Field) (f : Field) (after : List Field) :
    printFrom lead (before ++ f :: after) =
      printFrom lead before ++ f.source.print f.text ++ printFrom f.after after := by
  induction before generalizing lead with
  | nil => rfl
  | cons g rest ih => simp only [List.cons_append, printFrom, ih, String.append_assoc]

/-- A line as it is printed. -/
def Line.print (l : Line) : String :=
  printFrom l.lead l.fields

/-- Some lines as they are printed. -/
def printLines (block : List Line) : String :=
  Text.unlines (block.map Line.print)

/-- A line that has only words of the renderer. -/
def Line.written (text : String) : Line :=
  ⟨text, []⟩

/-- A line that ends with a text of the author. -/
def Line.kept (lead : String) (source : Source) (text : String) : Line :=
  ⟨lead, [⟨source, text, ""⟩]⟩

@[simp] theorem Line.print_written (text : String) : (Line.written text).print = text := rfl

@[simp] theorem Line.print_kept (lead : String) (source : Source) (text : String) :
    (Line.kept lead source text).print = lead ++ source.print text := String.append_empty

/-- Blocks of lines with an empty line between them. -/
def separate : List (List Line) → List Line
  | [] => []
  | [block] => block
  | block :: next :: rest => block ++ Line.written "" :: separate (next :: rest)

/-! ## The lines of a chapter -/

/-- A line of a quote that has only words of the renderer. -/
def quoted (entry : String) : Line :=
  .written ("> " ++ entry)

/-- A line of dialogue in a quote. -/
def dialogueLine (d : Dialogue) : Line :=
  if d.isNarration || typeOf d == narrationType then quoted (italic (Text.collapse d.text))
  else if typeOf d == soundEffectType then quoted (bold (Text.collapse d.text))
  else if typeOf d == speechType then ⟨"> **", [⟨.speaker, nameOf d, ":** " ++ Text.collapse d.text⟩]⟩
  else ⟨"> **", [⟨.speaker, nameOf d, ":** ("⟩, ⟨.type, typeOf d, ") " ++ Text.collapse d.text⟩]⟩

/-- The lines of a panel's quote: the caption, the dialogue and the end caption. -/
def quoteBlock (p : Panel) (lines : List Dialogue) : List Line :=
  (entryOf p.caption fun s => italic ("CAPTION: " ++ s)).map quoted ++ lines.map dialogueLine ++
    (entryOf p.endCaption fun s => italic ("END CAPTION: " ++ s)).map quoted

/-- The blocks of a panel. -/
def panelBlocks (number : Int) (p : Panel) (lines : List Dialogue) : List (List Line) :=
  (("### " ++ numberedTitle "Panel" number p.name) :: entryOf p.desc italic ++
    entryOf p.fx fun s => "**FX:** " ++ s).map (fun s => [.written s]) ++
    if (quoteBlock p lines).isEmpty then [] else [quoteBlock p lines]

/-- The lines of a panel. -/
def panelLines (number : Int) (slot : Slot Panel) : List Line :=
  match slot with
  | .malformed _ => [.written malformedPanel]
  | .filled p =>
    match dialogue? p with
    | none => [.written malformedPanel]
    | some lines => separate (panelBlocks number p lines)

/-- The lines of each panel, numbered from the given number on. -/
def panelLinesFrom (number : Nat) : List (Slot Panel) → List (List Line)
  | [] => []
  | slot :: rest => panelLines number slot :: panelLinesFrom (number + 1) rest

/-- The lines of a page. -/
def pageLines (number : Int) (slot : Slot Page) : List Line :=
  match slot with
  | .malformed _ => [.written malformedPage]
  | .filled p =>
    match p.panels with
    | .malformed _ => [.written malformedPage]
    | .filled panels =>
      separate ([.written ("## " ++ numberedTitle "Page" number p.name)] :: panelLinesFrom 1 panels)

/-- The lines of each page, numbered from the given number on. -/
def pageLinesFrom (number : Nat) : List (Slot Page) → List (List Line)
  | [] => []
  | slot :: rest => pageLines number slot :: pageLinesFrom (number + 1) rest

/-- The lines of some credits; without an entry the last one is empty. -/
def creditLines (entries : List String) : List Line :=
  match entries with
  | [] => [.written ""]
  | entries => entries.map fun entry => .kept "- " .credit (Text.trim entry)

/-- The blocks before the pages. -/
def headerBlocks (c : Chapter) : List (List Line) :=
  (c.heading?.map fun s => [Line.kept "# " .title s]).toList ++
    (match c.synopsis with
      | none => []
      | some s => if s.isEmpty then [] else [[.kept "**Synopsis:** " .synopsis s]]) ++
    match c.credits with
    | none => []
    | some [] => []
    | some entries => [.written "**Credits:**" :: creditLines (entries.filterMap id)]

/-- The lines of a chapter with the given pages. -/
def documentLines (c : Chapter) (pages : List (Slot Page)) : List Line :=
  separate (headerBlocks c ++ pageLinesFrom 1 pages)

/-! ## They are the lines of the rendered chapter -/

theorem printLines_append {a b : List Line} (ha : a ≠ []) (hb : b ≠ []) :
    printLines (a ++ b) = printLines a ++ "\n" ++ printLines b := by
  rw [printLines, List.map_append, Text.unlines_append (by simpa using ha) (by simpa using hb)]
  rfl

theorem printLines_cons (l : Line) {block : List Line} (h : block ≠ []) :
    printLines (l :: block) = l.print ++ "\n" ++ printLines block :=
  printLines_append (List.cons_ne_nil l []) h

theorem separate_ne_nil {block : List Line} (h : block ≠ []) (rest : List (List Line)) : separate (block :: rest) ≠ [] := by
  cases rest with
  | nil => exact h
  | cons next rest => simp [separate]

/-- Blocks of lines are printed as sections. -/
theorem printLines_separate {blocks : List (List Line)} (filled : ∀ block ∈ blocks, block ≠ []) :
    printLines (separate blocks) = joinSections (blocks.map printLines) := by
  induction blocks with
  | nil => rfl
  | cons block rest ih =>
    obtain ⟨here, filled⟩ := List.forall_mem_cons.1 filled
    cases rest with
    | nil => rfl
    | cons next rest =>
      have more := separate_ne_nil (List.forall_mem_cons.1 filled).1 rest
      have twice : "\n\n" = "\n" ++ "\n" := by decide
      rw [separate, printLines_append here (List.cons_ne_nil _ _), printLines_cons _ more, ih filled, List.map_cons,
        List.map_cons, List.map_cons, joinSections_cons_cons, Line.print_written, twice]
      simp only [String.append_assoc, String.empty_append]

theorem print_dialogueLine (d : Dialogue) : (dialogueLine d).print = "> " ++ dialogue d := by
  have lead : "> **" = "> " ++ "**" := by decide
  have opened : ":** (" = ":** " ++ "(" := by decide
  rw [dialogueLine, dialogue_eq]
  split
  · rfl
  · split
    · rfl
    · split
      · simp only [Line.print, printFrom, Source.print, speaker, lead, String.append_assoc]
      · simp only [Line.print, printFrom, Source.print, speaker, lead, opened, String.append_assoc]

theorem map_print_quoteBlock (p : Panel) (lines : List Dialogue) :
    (quoteBlock p lines).map Line.print = (quoteLines p lines).map ("> " ++ ·) := by
  simp [quoteBlock, quoteLines_eq, quoted, print_dialogueLine, Function.comp_def]

/-- The blocks of a panel are printed as its sections. -/
theorem map_printLines_panelBlocks (number : Int) (p : Panel) (lines : List Dialogue) :
    (panelBlocks number p lines).map printLines = panelSections number p lines := by
  have written (sections : List String) : (sections.map fun s => [Line.written s]).map printLines = sections := by
    simp [printLines, Text.unlines, Function.comp_def]
  have quotation : (if (quoteBlock p lines).isEmpty then [] else [quoteBlock p lines]).map printLines =
      quote (quoteLines p lines) := by
    have printed := map_print_quoteBlock p lines
    unfold quote
    cases entries : quoteLines p lines with
    | nil =>
      rw [entries, List.map_nil, List.map_eq_nil_iff] at printed
      rw [printed]
      rfl
    | cons entry rest =>
      rw [entries] at printed
      have some_lines : (quoteBlock p lines).isEmpty = false := by
        cases block : quoteBlock p lines with
        | nil => simp [block] at printed
        | cons l more => rfl
      rw [some_lines]
      simp [printLines, printed, unlines_quote]
  rw [panelBlocks, List.map_append, written, quotation, panelSections_eq]

theorem panelBlocks_ne_nil {number : Int} {p : Panel} {lines : List Dialogue} :
    ∀ block ∈ panelBlocks number p lines, block ≠ [] := by
  intro block member
  rw [panelBlocks, List.mem_append] at member
  rcases member with section_ | quotation
  · obtain ⟨s, -, rfl⟩ := List.mem_map.1 section_
    exact List.cons_ne_nil _ _
  · split at quotation
    · cases quotation
    · rename_i filled
      rw [List.mem_singleton.1 quotation]
      simpa using filled

theorem panelLines_ne_nil (number : Int) (slot : Slot Panel) : panelLines number slot ≠ [] := by
  unfold panelLines
  split
  · exact List.cons_ne_nil _ _
  · split
    · exact List.cons_ne_nil _ _
    · exact separate_ne_nil (List.cons_ne_nil _ _) _

theorem printLines_panelLines (number : Int) (slot : Slot Panel) : printLines (panelLines number slot) = panel number slot := by
  unfold panelLines panel
  cases slot with
  | malformed found => rfl
  | filled p =>
    simp only
    cases dialogue? p with
    | none => rfl
    | some lines =>
      simp only
      rw [printLines_separate panelBlocks_ne_nil, map_printLines_panelBlocks]

theorem map_printLines_panelLinesFrom (number : Nat) (panels : List (Slot Panel)) :
    (panelLinesFrom number panels).map printLines = panelsFrom number panels := by
  induction panels generalizing number with
  | nil => rfl
  | cons slot rest ih => rw [panelLinesFrom, List.map_cons, printLines_panelLines, ih, panelsFrom]

theorem panelLinesFrom_ne_nil {number : Nat} {panels : List (Slot Panel)} :
    ∀ block ∈ panelLinesFrom number panels, block ≠ [] := by
  induction panels generalizing number with
  | nil => exact List.forall_mem_nil _
  | cons slot rest ih => exact List.forall_mem_cons.2 ⟨panelLines_ne_nil number slot, ih⟩

theorem pageLines_ne_nil (number : Int) (slot : Slot Page) : pageLines number slot ≠ [] := by
  unfold pageLines
  split
  · exact List.cons_ne_nil _ _
  · split
    · exact List.cons_ne_nil _ _
    · exact separate_ne_nil (List.cons_ne_nil _ _) _

theorem printLines_pageLines (number : Int) (slot : Slot Page) : printLines (pageLines number slot) = page number slot := by
  unfold pageLines page
  cases slot with
  | malformed found => rfl
  | filled p =>
    simp only
    cases p.panels with
    | malformed found => rfl
    | filled panels =>
      simp only
      rw [printLines_separate (List.forall_mem_cons.2 ⟨List.cons_ne_nil _ _, panelLinesFrom_ne_nil⟩), List.map_cons,
        map_printLines_panelLinesFrom]
      rfl

theorem map_printLines_pageLinesFrom (number : Nat) (pages : List (Slot Page)) :
    (pageLinesFrom number pages).map printLines = pagesFrom number pages := by
  induction pages generalizing number with
  | nil => rfl
  | cons slot rest ih => rw [pageLinesFrom, List.map_cons, printLines_pageLines, ih, pagesFrom]

theorem pageLinesFrom_ne_nil {number : Nat} {pages : List (Slot Page)} :
    ∀ block ∈ pageLinesFrom number pages, block ≠ [] := by
  induction pages generalizing number with
  | nil => exact List.forall_mem_nil _
  | cons slot rest ih => exact List.forall_mem_cons.2 ⟨pageLines_ne_nil number slot, ih⟩

theorem creditLines_ne_nil (entries : List String) : creditLines entries ≠ [] := by
  cases entries <;> exact List.cons_ne_nil _ _

theorem printLines_creditLines (entries : List String) :
    printLines (creditLines entries) = Text.unlines (entries.map fun entry => "- " ++ Text.trim entry) := by
  cases entries with
  | nil => rfl
  | cons entry rest =>
    simp only [creditLines, printLines, List.map_map, Function.comp_def, Line.print_kept, Source.print]

/-- The blocks before the pages are printed as their sections. -/
theorem map_printLines_headerBlocks (c : Chapter) : (headerBlocks c).map printLines = headerSections c := by
  have single (lead : String) (source : Source) (text : String) :
      printLines [.kept lead source text] = lead ++ source.print text := by
    rw [printLines, List.map_singleton, Text.unlines, String.intercalate_singleton, Line.print_kept]
  have title : (c.heading?.map fun s => [Line.kept "# " .title s]).toList.map printLines =
      (c.heading?.map ("# " ++ ·)).toList := by
    cases c.heading? with
    | none => rfl
    | some s => exact congrArg (fun text => [text]) (single "# " .title s)
  rw [headerBlocks, headerSections, List.map_append, List.map_append, title]
  congr 2
  · cases c.synopsis with
    | none => rfl
    | some s =>
      simp only
      split
      · rfl
      · exact congrArg (fun text => [text]) (single "**Synopsis:** " .synopsis s)
  · unfold credits
    cases c.credits with
    | none => rfl
    | some entries =>
      cases entries with
      | nil => rfl
      | cons entry rest =>
        have heading : "**Credits:**\n" = "**Credits:**" ++ "\n" := by decide
        simp only [List.map_singleton]
        rw [printLines_cons _ (creditLines_ne_nil _), printLines_creditLines, heading, Line.print_written]

theorem headerBlocks_ne_nil {c : Chapter} : ∀ block ∈ headerBlocks c, block ≠ [] := by
  intro block member
  rintro rfl
  simp only [headerBlocks, List.mem_append] at member
  rcases member with (title | synopsis) | credit
  · cases heading : c.heading? with
    | none => simp [heading] at title
    | some s => simp [heading] at title
  · split at synopsis
    · cases synopsis
    · split at synopsis
      · cases synopsis
      · simp at synopsis
  · split at credit
    · cases credit
    · cases credit
    · simp at credit

/-- The lines of a chapter are those of its markdown. -/
theorem printLines_documentLines (c : Chapter) (pages : List (Slot Page)) :
    printLines (documentLines c pages) = joinSections (headerSections c ++ pagesFrom 1 pages) := by
  rw [documentLines, printLines_separate (List.forall_mem_append.2 ⟨headerBlocks_ne_nil, pageLinesFrom_ne_nil⟩),
    List.map_append, map_printLines_headerBlocks, map_printLines_pageLinesFrom]

/-! ## The texts of a chapter -/

/-- The dialogue of a panel that is rendered: all of it, or none. -/
def panelDialogue (slot : Slot Panel) : List Dialogue :=
  (slot.part?.bind dialogue?).getD []

/-- The dialogue of a page that is rendered. -/
def pageDialogue (slot : Slot Page) : List Dialogue :=
  ((slot.part?.bind (·.panels.part?)).getD []).flatMap panelDialogue

/-- The texts of a chapter that are printed as they are: the title, the synopsis, an entry of the credits, and the speaker
and the type of a line of dialogue that is rendered. -/
def IsField (c : Chapter) (pages : List (Slot Page)) : Source → String → Prop
  | .title, text => c.heading? = some text
  | .synopsis, text => c.synopsis = some text
  | .credit, text => ∃ entry, some entry ∈ c.credits.getD [] ∧ text = Text.trim entry
  | .speaker, text => ∃ d ∈ pages.flatMap pageDialogue, text = nameOf d
  | .type, text => ∃ d ∈ pages.flatMap pageDialogue, text = typeOf d

end ComicScript.Markdown
