import ComicScript.Preview.Sections
import ComicScript.Proofs.Markdown.Printed

/-!
# What is a page heading

Every line that the renderer begins, it begins with words of its own, and those are a page heading only for a page. So any
other line that is read as one begins in a text of the author: right after a line feed in it, and with the whole lead of
the heading.
-/

namespace ComicScript.Preview
set_option autoImplicit false
open Markdown (Source Field Line printFrom separate headerBlocks pageLinesFrom nameOf typeOf panelDialogue pageDialogue
  lineFeed_not_mem_append lineFeed_not_mem_collapsed lineFeed_not_mem_italic)

/-! ## Line feeds in the texts of the author -/

/-- The words on a line have no line feed, and those after a text of the author do not go on with a page heading. -/
def Tidy (lead : String) : List Field → Prop
  | [] => '\n' ∉ lead.toList
  | f :: rest =>
    '\n' ∉ lead.toList ∧ (∀ c ∈ (printFrom f.after rest).toList.head?, c ∉ pageLead.toList) ∧ Tidy f.after rest

/-- A text is cut at a line feed where its printed form is. -/
theorem exists_of_print_eq {source : Source} {text x y : String} (h : source.print text = x ++ "\n" ++ y) :
    ∃ u v, text = u ++ "\n" ++ v ∧ source.print u = x ∧ source.print v = y := by
  cases source with
  | speaker => exact Text.exists_of_upper_eq h
  | _ => exact ⟨x, y, h, rfl, rfl⟩

theorem startsWith_of_startsWith_print {source : Source} {text : String}
    (h : Text.startsWith pageLead (source.print text) = true) : Text.startsWith pageLead text = true := by
  have signs : ∀ c ∈ pageLead.toList, Text.IsSign c := by simp [pageLead, Text.IsSign]
  cases source with
  | speaker => exact Text.startsWith_of_startsWith_upper signs h
  | _ => exact h

/-- A line feed on a line is in a text of the author. -/
theorem exists_field_of_printFrom {lead : String} {fields : List Field} (tidy : Tidy lead fields) {x y : String}
    (h : printFrom lead fields = x ++ "\n" ++ y) :
    ∃ before f after u v, fields = before ++ f :: after ∧ f.text = u ++ "\n" ++ v ∧
      x = printFrom lead before ++ f.source.print u ∧ y = f.source.print v ++ printFrom f.after after ∧
      ∀ c ∈ (printFrom f.after after).toList.head?, c ∉ pageLead.toList := by
  have outside {words x r : String} (clean : '\n' ∉ words.toList) : words ≠ x ++ "\n" ++ r := by
    rintro rfl
    simp at clean
  induction fields generalizing lead x with
  | nil => exact absurd h (outside tidy)
  | cons f rest ih =>
    obtain ⟨clean, apart, tidy⟩ := tidy
    rw [printFrom, String.append_assoc] at h
    rcases Text.append_eq_append_lineFeed h with ⟨r, here, -⟩ | ⟨r, rfl, later⟩
    · exact absurd here (outside clean)
    · rcases Text.append_eq_append_lineFeed later with ⟨s, here, rfl⟩ | ⟨s, rfl, after⟩
      · obtain ⟨u, v, cut, rfl, rfl⟩ := exists_of_print_eq here
        exact ⟨[], f, rest, u, v, rfl, cut, rfl, rfl, apart⟩
      · obtain ⟨before, g, others, u, v, rfl, cut, rfl, same, apart⟩ := ih tidy after
        refine ⟨f :: before, g, others, u, v, rfl, cut, ?_, same, apart⟩
        simp only [printFrom, String.append_assoc]

/-- A page heading behind a line feed on a line is in a text of the author as a whole. -/
theorem exists_heading_of_getElem?_lines {l : Line} (tidy : Tidy l.lead l.fields) {k : Nat} {line : String}
    (found : (Text.lines l.print)[k + 1]? = some line) (heading : Text.startsWith pageLead line = true) :
    ∃ before f after u v, l.fields = before ++ f :: after ∧ f.text = u ++ "\n" ++ (pageLead ++ v) ∧
      Text.countLineFeeds (printFrom l.lead before ++ f.source.print u) = k := by
  obtain ⟨x, y, cut, counted⟩ := Text.exists_of_getElem?_lines found
  obtain ⟨before, f, after, u, v, fields, text, rfl, rest, apart⟩ := exists_field_of_printFrom tidy cut
  have printed := Text.startsWith_append heading y
  rw [rest] at printed
  have begins := startsWith_of_startsWith_print (Text.startsWith_of_startsWith_append apart printed)
  exact ⟨before, f, after, u, Text.drop pageLead.length v, fields, by rw [text, Text.append_drop_of_startsWith begins],
    counted⟩

/-! ## What the lines begin with -/

/-- Neither of some words and the lead of a page heading goes on with the other. -/
def Differs (words : String) : Prop :=
  ¬ pageLead.toList <+: words.toList ∧ ¬ words.toList <+: pageLead.toList

instance (words : String) : Decidable (Differs words) :=
  inferInstanceAs (Decidable (_ ∧ _))

theorem startsWith_pageLead_append {words : String} (differ : Differs words) (rest : String) :
    Text.startsWith pageLead (words ++ rest) = false := by
  rw [Bool.eq_false_iff, Text.startsWith, ne_eq, List.isPrefixOf_iff_prefix, String.toList_append]
  intro heading
  rcases List.prefix_or_prefix_of_prefix heading (List.prefix_append words.toList rest.toList) with longer | shorter
  · exact differ.1 longer
  · exact differ.2 shorter

/-- What is known of the texts of the author holds of the speaker and the type of a line of dialogue. -/
def Covers (known : Source → String → Prop) (d : Dialogue) : Prop :=
  known .speaker (nameOf d) ∧ known .type (typeOf d)

/-- A line that is no page heading unless a text of the author makes it one behind a line feed. -/
structure Ordinary (known : Source → String → Prop) (l : Line) : Prop where
  tidy : Tidy l.lead l.fields
  apart : Text.startsWith pageLead l.print = false
  fields : ∀ f ∈ l.fields, known f.source f.text

section Lines

variable {known : Source → String → Prop}

theorem ordinary_written {text : String} (clean : '\n' ∉ text.toList) (apart : Text.startsWith pageLead text = false) :
    Ordinary known (.written text) :=
  ⟨clean, apart, List.forall_mem_nil _⟩

theorem ordinary_append {words rest : String} (differ : Differs words) (clean : '\n' ∉ (words ++ rest).toList) :
    Ordinary known (.written (words ++ rest)) :=
  ordinary_written clean (startsWith_pageLead_append differ rest)

theorem ordinary_kept {lead : String} {source : Source} {text : String} (clean : '\n' ∉ lead.toList)
    (differ : Differs lead) (h : known source text) :
    Ordinary known (.kept lead source text) := by
  have nothing : '\n' ∉ "".toList := by decide
  refine ⟨⟨clean, by simp [printFrom], nothing⟩, ?_, ?_⟩
  · rw [Line.print_kept]
    exact startsWith_pageLead_append differ _
  · exact fun f member => List.mem_singleton.1 member ▸ h

theorem ordinary_quoted {entry : String} (clean : '\n' ∉ entry.toList) : Ordinary known (Markdown.quoted entry) :=
  ordinary_append (by decide) (lineFeed_not_mem_append (by decide) clean)

theorem ordinary_dialogueLine {d : Dialogue} (h : Covers known d) : Ordinary known (Markdown.dialogueLine d) := by
  obtain ⟨name, type⟩ := h
  have clean := Text.lineFeed_not_mem_collapse d.text
  have said : '\n' ∉ (":** " ++ Text.collapse d.text).toList := lineFeed_not_mem_append (by decide) clean
  have typed : '\n' ∉ (") " ++ Text.collapse d.text).toList := lineFeed_not_mem_append (by decide) clean
  have apart (fields : List Field) : Text.startsWith pageLead (Line.print ⟨"> **", fields⟩) = false := by
    have differ : Differs "> **" := by decide
    cases fields with
    | nil => decide
    | cons f rest =>
      rw [Line.print, printFrom, String.append_assoc]
      exact startsWith_pageLead_append differ _
  have lead : '\n' ∉ "> **".toList := by decide
  have opened : '\n' ∉ ":** (".toList := by decide
  unfold Markdown.dialogueLine
  split
  · exact ordinary_quoted (lineFeed_not_mem_italic clean)
  · split
    · exact ordinary_quoted (Markdown.lineFeed_not_mem_bold clean)
    · split
      · refine ⟨⟨lead, by simp [printFrom, pageLead], said⟩, apart _, ?_⟩
        exact fun f member => List.mem_singleton.1 member ▸ name
      · refine ⟨⟨lead, by simp [printFrom, pageLead], opened, by simp [printFrom, pageLead], typed⟩, apart _, ?_⟩
        simpa using ⟨name, type⟩

theorem ordinary_empty : Ordinary known (.written "") :=
  ordinary_written (by decide) (by decide)

theorem mem_separate {blocks : List (List Line)} {l : Line} (h : l ∈ separate blocks) :
    l = .written "" ∨ ∃ block ∈ blocks, l ∈ block := by
  induction blocks with
  | nil => cases h
  | cons block others ih =>
    cases others with
    | nil => exact .inr ⟨block, List.mem_cons_self, h⟩
    | cons next others =>
      rcases List.mem_append.1 h with here | later
      · exact .inr ⟨block, List.mem_cons_self, here⟩
      · rcases List.mem_cons.1 later with same | following
        · exact .inl same
        · exact (ih following).imp id fun ⟨found, member, inside⟩ => ⟨found, List.mem_cons_of_mem _ member, inside⟩

theorem ordinary_separate {blocks : List (List Line)} (h : ∀ block ∈ blocks, ∀ l ∈ block, Ordinary known l) :
    ∀ l ∈ separate blocks, Ordinary known l := by
  intro l member
  rcases mem_separate member with rfl | ⟨block, listed, inside⟩
  · exact ordinary_empty
  · exact h block listed l inside

theorem ordinary_quoteBlock {p : Panel} {lines : List Dialogue}
    (said : ∀ d ∈ lines, Covers known d) :
    ∀ l ∈ Markdown.quoteBlock p lines, Ordinary known l := by
  have caption {lead : String} (clean : '\n' ∉ lead.toList) (field : Option String) :
      ∀ l ∈ (Markdown.entryOf field fun s => Markdown.italic (lead ++ s)).map Markdown.quoted, Ordinary known l := by
    intro l member
    obtain ⟨entry, listed, rfl⟩ := List.mem_map.1 member
    rw [Markdown.mem_entryOf listed]
    exact ordinary_quoted (lineFeed_not_mem_italic
      (lineFeed_not_mem_append clean (lineFeed_not_mem_collapsed field)))
  rw [Markdown.quoteBlock, List.forall_mem_append, List.forall_mem_append]
  refine ⟨⟨caption (by decide) p.caption, ?_⟩, caption (by decide) p.endCaption⟩
  intro l member
  obtain ⟨d, listed, rfl⟩ := List.mem_map.1 member
  exact ordinary_dialogueLine (said d listed)

/-- The heading, the description and the effects of a panel are collapsed, so they are on lines of their own. -/
theorem ordinary_panelText {number : Int} {p : Panel} :
    ∀ s ∈ ("### " ++ Markdown.numberedTitle "Panel" number p.name) :: Markdown.entryOf p.desc Markdown.italic ++
      Markdown.entryOf p.fx ("**FX:** " ++ ·), Ordinary known (.written s) := by
  rw [List.cons_append, List.forall_mem_cons, List.forall_mem_append]
  refine ⟨?_, ?_, ?_⟩
  · have title := Markdown.lineFeed_not_mem_numberedTitle (by decide : '\n' ∉ "Panel".toList) number p.name
    exact ordinary_append (by decide) (lineFeed_not_mem_append (by decide) title)
  · intro s listed
    have clean := lineFeed_not_mem_italic (lineFeed_not_mem_collapsed p.desc)
    rw [Markdown.mem_entryOf listed]
    rw [Markdown.italic, String.append_assoc] at clean ⊢
    exact ordinary_append (by decide) clean
  · intro s listed
    rw [Markdown.mem_entryOf listed]
    exact ordinary_append (by decide) (lineFeed_not_mem_append (by decide) (lineFeed_not_mem_collapsed p.fx))

theorem ordinary_panelBlocks {number : Int} {p : Panel} {lines : List Dialogue} (said : ∀ d ∈ lines, Covers known d) :
    ∀ block ∈ Markdown.panelBlocks number p lines, ∀ l ∈ block, Ordinary known l := by
  rw [Markdown.panelBlocks, List.forall_mem_append]
  constructor
  · intro block listed
    obtain ⟨s, member, rfl⟩ := List.mem_map.1 listed
    exact List.forall_mem_singleton.2 (ordinary_panelText s member)
  · split
    · exact List.forall_mem_nil _
    · exact List.forall_mem_singleton.2 (ordinary_quoteBlock said)

theorem ordinary_panelLines {number : Int} {slot : Slot Panel} (said : ∀ d ∈ panelDialogue slot, Covers known d) :
    ∀ l ∈ Markdown.panelLines number slot, Ordinary known l := by
  have malformed : ∀ l ∈ [Line.written Markdown.malformedPanel], Ordinary known l :=
    List.forall_mem_singleton.2 (ordinary_written (by decide) (by decide))
  unfold Markdown.panelLines
  cases slot with
  | malformed found => exact malformed
  | filled p =>
    simp only
    cases dialogue : Markdown.dialogue? p with
    | none => exact malformed
    | some lines =>
      rw [panelDialogue, Slot.part?, Option.bind_some, dialogue, Option.getD_some] at said
      exact ordinary_separate (ordinary_panelBlocks said)

theorem ordinary_panelLinesFrom {number : Nat} {panels : List (Slot Panel)}
    (said : ∀ slot ∈ panels, ∀ d ∈ panelDialogue slot, Covers known d) :
    ∀ block ∈ Markdown.panelLinesFrom number panels, ∀ l ∈ block, Ordinary known l := by
  induction panels generalizing number with
  | nil => exact List.forall_mem_nil _
  | cons slot rest ih =>
    obtain ⟨here, said⟩ := List.forall_mem_cons.1 said
    exact List.forall_mem_cons.2 ⟨ordinary_panelLines here, ih said⟩

/-- Only the first line of a page is a page heading by itself. -/
theorem exists_pageLines_eq {number : Int} {slot : Slot Page}
    (said : ∀ d ∈ pageDialogue slot, Covers known d) :
    ∃ title rest, Markdown.pageLines number slot = .written title :: rest ∧ '\n' ∉ title.toList ∧
      ∀ l ∈ rest, Ordinary known l := by
  have malformed : ∃ title rest, [Line.written Markdown.malformedPage] = .written title :: rest ∧ '\n' ∉ title.toList ∧
      ∀ l ∈ rest, Ordinary known l :=
    ⟨Markdown.malformedPage, [], rfl, by decide, List.forall_mem_nil _⟩
  unfold Markdown.pageLines
  cases slot with
  | malformed found => exact malformed
  | filled p =>
    simp only
    cases filled : p.panels with
    | malformed found => exact malformed
    | filled panels =>
      have clean : '\n' ∉ ("## " ++ Markdown.numberedTitle "Page" number p.name).toList :=
        lineFeed_not_mem_append (by decide) (Markdown.lineFeed_not_mem_numberedTitle (by decide) number p.name)
      have panel : ∀ block ∈ Markdown.panelLinesFrom 1 panels, ∀ l ∈ block, Ordinary known l := by
        refine ordinary_panelLinesFrom fun slot listed d member => said d ?_
        rw [pageDialogue, Slot.part?, Option.bind_some, filled, Slot.part?, Option.getD_some]
        exact List.mem_flatMap_of_mem listed member
      simp only
      cases blocks : Markdown.panelLinesFrom 1 panels with
      | nil => exact ⟨_, [], rfl, clean, List.forall_mem_nil _⟩
      | cons block rest =>
        rw [blocks] at panel
        exact ⟨_, _, rfl, clean, List.forall_mem_cons.2 ⟨ordinary_empty, ordinary_separate panel⟩⟩

theorem exists_of_mem_pageLinesFrom {number : Nat} {pages : List (Slot Page)}
    (said : ∀ slot ∈ pages, ∀ d ∈ pageDialogue slot, Covers known d) :
    ∀ block ∈ pageLinesFrom number pages,
      ∃ title rest, block = .written title :: rest ∧ '\n' ∉ title.toList ∧ ∀ l ∈ rest, Ordinary known l := by
  induction pages generalizing number with
  | nil => exact List.forall_mem_nil _
  | cons slot rest ih =>
    obtain ⟨here, said⟩ := List.forall_mem_cons.1 said
    exact List.forall_mem_cons.2 ⟨exists_pageLines_eq here, ih said⟩

theorem ordinary_creditLines {entries : List String} (credit : ∀ entry ∈ entries, known .credit (Text.trim entry)) :
    ∀ l ∈ Markdown.creditLines entries, Ordinary known l := by
  cases entries with
  | nil => exact List.forall_mem_singleton.2 ordinary_empty
  | cons first rest =>
    intro l member
    obtain ⟨entry, listed, rfl⟩ := List.mem_map.1 member
    exact ordinary_kept (by decide) (by decide) (credit entry listed)

/-- The lines before the pages are no page headings by themselves. -/
theorem ordinary_headerBlocks {c : Chapter} (title : ∀ text, c.heading? = some text → known .title text)
    (synopsis : ∀ text, c.synopsis = some text → known .synopsis text)
    (credit : ∀ entry, some entry ∈ c.credits.getD [] → known .credit (Text.trim entry)) :
    ∀ block ∈ headerBlocks c, ∀ l ∈ block, Ordinary known l := by
  rw [headerBlocks, List.forall_mem_append, List.forall_mem_append]
  refine ⟨⟨?_, ?_⟩, ?_⟩
  · cases heading : c.heading? with
    | none => exact List.forall_mem_nil _
    | some text =>
      exact List.forall_mem_singleton.2 (List.forall_mem_singleton.2
        (ordinary_kept (by decide) (by decide) (title text heading)))
  · cases given : c.synopsis with
    | none => exact List.forall_mem_nil _
    | some text =>
      simp only
      split
      · exact List.forall_mem_nil _
      · exact List.forall_mem_singleton.2 (List.forall_mem_singleton.2
          (ordinary_kept (by decide) (by decide) (synopsis text given)))
  · cases given : c.credits with
    | none => exact List.forall_mem_nil _
    | some entries =>
      cases entries with
      | nil => exact List.forall_mem_nil _
      | cons first rest =>
        rw [given, Option.getD_some] at credit
        refine List.forall_mem_singleton.2 (List.forall_mem_cons.2 ⟨ordinary_written (by decide) (by decide), ?_⟩)
        exact ordinary_creditLines fun entry listed => credit entry (by simpa using listed)

end Lines

end ComicScript.Preview
